import PlanBrowser.Api.Options
import PlanBrowser.CommandLine.Arguments
import PlanBrowser.Session.Basic
import PlanBrowser.Settings.Config
import PlanBrowser.Settings.Home

/-!
# The settings of a run

What holds for a run comes from the command line, else from the settings file, else it is the default.

* `RunSettings` — what holds for a run;
* `SettingsFault` — why a run cannot begin;
* `RunSettings.ofArguments` — **what a command line and a file come to**.
-/

namespace PlanBrowser

open CommandLine (Arguments Misuse)

/-- What holds for a run. -/
structure RunSettings where
  url : String
  username : Option String
  options : Options
  pageSize : Nat
  /-- How many plans are shown at first. -/
  shown : Nat
  /-- How many steps are to be made. -/
  clicks : Nat
  save : List Nat
  like : List Nat
  dislike : List Nat
  summary : List Nat
  refresh : Bool
  /-- The profile is to be shown, and not the results. -/
  profile : Bool
  delete : List String
  /-- The file to write; without one the result goes to standard output. -/
  output : Option String
  format : Format
  /-- Nothing is to be coloured. -/
  plain : Bool
  deriving Repr, DecidableEq

/-- Why a run cannot begin. -/
inductive SettingsFault where
  | misuse (cause : Misuse)
  | noUrl
  | noTimeout
  | noPageSize
  | badFormat (name : String)
  deriving Repr, DecidableEq

/-- **Why a run cannot begin, in words.** -/
def SettingsFault.message : SettingsFault → String
  | misuse cause => cause.message
  | noUrl => "a results page URL is required (-u/--url)"
  | noTimeout => "invalid timeout, expected positive number of seconds"
  | noPageSize => "invalid plans_per_page, expected positive integer"
  | badFormat name => "invalid output format '" ++ name ++ "', expected html or json"

namespace RunSettings

/-- Colours may be forced, else they may be forbidden. -/
def isPlain (a : Arguments) (c : Config) : Bool :=
  !a.color && (a.noColor || c.plain.getD false)

/-- The URL to open, without blanks around it. -/
def chooseUrl (a : Arguments) (c : Config) : Except SettingsFault String :=
  match (a.url <|> c.url).map Text.trim with
  | none => .error .noUrl
  | some u => if u = "" then .error .noUrl else .ok u

/-- A number above zero. -/
def positive (fault : SettingsFault) (n : Nat) : Except SettingsFault Nat :=
  if n = 0 then .error fault else .ok n

/-- The named format, else the one of the file to write, else a page. -/
def chooseFormat (name output : Option String) : Except SettingsFault Format :=
  match name with
  | some n =>
    match Format.read? n with
    | some f => .ok f
    | none => .error (.badFormat n)
  | none => .ok ((output.bind Format.ofPath?).getD .html)

/-- **What a command line and a settings file come to.** -/
def ofArguments (e : Environment) (a : Arguments) (c : Config) : Except SettingsFault RunSettings := do
  a.check.mapError .misuse
  let url ← chooseUrl a c
  let timeout ← positive .noTimeout ((a.timeout <|> c.timeout).getD Options.defaultTimeout)
  let pageSize ← positive .noPageSize ((a.pageSize <|> c.pageSize).getD Session.defaultPageSize)
  let output := (a.output <|> c.output).map e.expand
  let format ← chooseFormat (a.format <|> c.format) output
  pure {
    url
    username := a.user <|> c.username
    options := {
      timeout
      proxy := a.proxy <|> c.proxy
      header := a.header <|> c.header
      token := a.token <|> c.token }
    pageSize
    shown := (a.shown <|> c.shown).getD pageSize
    clicks := a.clicks
    save := a.save
    like := a.like
    dislike := a.dislike
    summary := a.summary
    refresh := a.refresh
    profile := a.wantsProfile
    delete := a.delete
    output
    format
    plain := isPlain a c }

end RunSettings

end PlanBrowser
