import PlanBrowser.Output

/-!
# What a command line says

* `Arguments` — what a command line says;
* `Misuse` — why a command line makes no sense, although every word of it does;
* `Arguments.check` — **the first thing that makes no sense**.
-/

namespace PlanBrowser.CommandLine

/-- What a command line says. -/
structure Arguments where
  /-- How much is told about the work. -/
  verbose : Nat
  color : Bool
  noColor : Bool
  output : Option String
  format : Option String
  url : Option String
  config : Option String
  /-- A settings file is to be made, and nothing else. -/
  initConfig : Bool
  user : Option String
  token : Option String
  proxy : Option String
  timeout : Option Nat
  header : Option String
  pageSize : Option Nat
  shown : Option Nat
  /-- How many steps are to be made. -/
  clicks : Nat
  save : List Nat
  like : List Nat
  dislike : List Nat
  summary : List Nat
  refresh : Bool
  saved : Bool
  delete : List String
  deriving Repr, DecidableEq, Inhabited

/-- Why a command line makes no sense. -/
inductive Misuse where
  | noPageSize
  | noTimeout
  | format (name : String)
  | header (line : String)
  /-- The profile is asked for together with something to do on a results page. -/
  | mixed
  | blankId
  deriving Repr, DecidableEq

/-- **Why a command line makes no sense, in words.** -/
def Misuse.message : Misuse → String
  | noPageSize => "invalid per-page, expected positive integer"
  | noTimeout => "invalid timeout, expected positive number of seconds"
  | format name => "invalid --output-format '" ++ name ++ "', expected html or json"
  | header line => "invalid --header '" ++ line ++ "', expected 'Key: Value'"
  | mixed => "profile options (--saved, --delete) cannot be combined with plan actions"
  | blankId => "invalid --delete, plan id is empty"

namespace Arguments

/-- A command line without words. -/
def none : Arguments where
  verbose := 0
  color := false
  noColor := false
  output := .none
  format := .none
  url := .none
  config := .none
  initConfig := false
  user := .none
  token := .none
  proxy := .none
  timeout := .none
  header := .none
  pageSize := .none
  shown := .none
  clicks := 0
  save := []
  like := []
  dislike := []
  summary := []
  refresh := false
  saved := false
  delete := []

/-- The profile is asked for. -/
def wantsProfile (a : Arguments) : Bool :=
  a.saved || !a.delete.isEmpty

/-- Something is to be done on a results page. -/
def wantsActions (a : Arguments) : Bool :=
  !a.save.isEmpty || !a.like.isEmpty || !a.dislike.isEmpty || !a.summary.isEmpty || a.refresh
    || decide (0 < a.clicks)

/-- The named format is one. -/
def checkFormat : Option String → Except Misuse Unit
  | .none => .ok ()
  | some name => if (Format.read? name).isSome then .ok () else .error (.format name)

/-- The header line has a colon. -/
def checkHeader : Option String → Except Misuse Unit
  | .none => .ok ()
  | some line => if line.toList.contains ':' then .ok () else .error (.header line)

/-- **The first thing that makes no sense.** -/
def check (a : Arguments) : Except Misuse Unit := do
  if a.pageSize = some 0 then throw .noPageSize
  if a.timeout = some 0 then throw .noTimeout
  checkFormat a.format
  checkHeader a.header
  if a.wantsProfile && a.wantsActions then throw .mixed
  if a.delete.any Text.isBlankText then throw .blankId

end Arguments

end PlanBrowser.CommandLine
