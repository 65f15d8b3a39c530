import PlanBrowser.CommandLine.Switch
import PlanBrowser.Text.Likeness

/-!
# Reading a command line

The words of a command line are read from left to right.  The value of a switch is attached to it or is the next
word; in the second case it is looked at only when the next switch, or the end, shows that it is complete.  A
word that begins with a dash is never a value, unless it is a dash.  No word stands for itself, and reading
stops at the first fault.

* `Fault` — why a command line cannot be read, and `Fault.message`, the same in words;
* `readNumber` — a number;
* `Reading` — how far a command line is read;
* `Arguments.read` — **reading a command line**.
-/

namespace PlanBrowser.CommandLine

/-- Why a text is no number. -/
inductive NumberFault where
  | empty
  | digit
  | tooLarge
  deriving Repr, DecidableEq, Inhabited

/-- Why a text is no number, in words. -/
def NumberFault.message : NumberFault → String
  | empty => "cannot parse integer from empty string"
  | digit => "invalid digit found in string"
  | tooLarge => "number too large to fit in target type"

/-- Why a command line is not read to its end. -/
inductive Fault where
  /-- A word that means nothing; maybe a switch was meant. -/
  | unexpected (word : String) (meant : Option String) (used : List Switch)
  /-- A value for a switch that takes none. -/
  | unneeded (value : String) (s : Switch) (used : List Switch)
  | noValue (s : Switch)
  | badValue (s : Switch) (value : String) (cause : NumberFault)
  | repeated (s : Switch)
  /-- Only help is asked for. -/
  | help
  /-- Only the version is asked for. -/
  | version
  deriving Repr, DecidableEq

/-! ## Faults in words -/

/-- The name of the program. -/
def programName : String := "tripview"

/-- How the program is used, with the switches that are meant. -/
def usage (used : List Switch) : String :=
  "\n\nUsage: " ++ programName
    ++ (if used.isEmpty then " [OPTIONS]" else String.join (used.map fun s => " " ++ s.label))

/-- What a user may have meant. -/
def tip : Option String → String
  | none => ""
  | some w => "\n\n  tip: a similar argument exists: '--" ++ w ++ "'"

/-- The end of every message. -/
def helpHint : String := "\n\nFor more information, try '--help'.\n"

/-- The help text. -/
def helpText : String :=
  "Usage: " ++ programName ++ " [OPTIONS]\n\nOptions:\n"
    ++ String.join (Switch.all.map fun s => "  " ++ s.label ++ "\n")

/-- What the program is called and which version it is. -/
def versionText : String :=
  programName ++ " 0.1.0\n"

/-- **A fault in words.** -/
def Fault.message : Fault → String
  | unexpected word meant used =>
    "error: unexpected argument '" ++ word ++ "' found" ++ tip meant ++ usage used ++ helpHint
  | unneeded value s used =>
    "error: unexpected value '" ++ value ++ "' for '" ++ s.label ++ "' found; no more were expected"
      ++ usage used ++ helpHint
  | noValue s => "error: a value is required for '" ++ s.label ++ "' but none was supplied" ++ helpHint
  | badValue s value cause =>
    "error: invalid value '" ++ value ++ "' for '" ++ s.label ++ "': " ++ cause.message ++ helpHint
  | repeated s =>
    "error: the argument '" ++ s.label ++ "' cannot be used multiple times" ++ usage [] ++ helpHint
  | help => helpText
  | version => versionText

/-! ## Values -/

/-- The digits of a number after a number.  The first digit that is none, or makes the number too large,
counts. -/
def readDigits : Nat → List Char → Except NumberFault Nat
  | n, [] => .ok n
  | n, c :: cs =>
    if !c.isDigit then .error .digit
    else
      let m := 10 * n + Text.digitValue c
      if m < Text.wordBound then readDigits m cs else .error .tooLarge

/-- **A number**: an optional plus sign and at least one digit. -/
def readNumber (s : String) : Except NumberFault Nat :=
  match s.toList with
  | [] => .error .empty
  | ['+'] => .error .digit
  | '+' :: ds => readDigits 0 ds
  | ds => readDigits 0 ds

namespace Arguments

/-- What a value of a switch says. -/
def withValue (a : Arguments) (s : Switch) (value : String) : Except NumberFault Arguments :=
  match s with
  | .output => .ok { a with output := some value }
  | .format => .ok { a with format := some value }
  | .url => .ok { a with url := some value }
  | .config => .ok { a with config := some value }
  | .user => .ok { a with user := some value }
  | .token => .ok { a with token := some value }
  | .proxy => .ok { a with proxy := some value }
  | .header => .ok { a with header := some value }
  | .timeout => (readNumber value).map fun n => { a with timeout := some n }
  | .pageSize => (readNumber value).map fun n => { a with pageSize := some n }
  | .shown => (readNumber value).map fun n => { a with shown := some n }
  | .clicks => (readNumber value).map fun n => { a with clicks := n }
  | .save => (readNumber value).map fun n => { a with save := a.save ++ [n] }
  | .like => (readNumber value).map fun n => { a with like := a.like ++ [n] }
  | .dislike => (readNumber value).map fun n => { a with dislike := a.dislike ++ [n] }
  | .summary => (readNumber value).map fun n => { a with summary := a.summary ++ [n] }
  | .delete => .ok { a with delete := a.delete ++ [value] }
  | .verbose | .color | .noColor | .initConfig | .refresh | .saved | .help | .version => .ok a

/-- The verbosity is told in a byte. -/
def maxVerbose : Nat := 255

/-- What a switch says that takes no value. -/
def withFlag (a : Arguments) (s : Switch) : Arguments :=
  match s with
  | .verbose => { a with verbose := min (a.verbose + 1) maxVerbose }
  | .color => { a with color := true }
  | .noColor => { a with noColor := true }
  | .initConfig => { a with initConfig := true }
  | .refresh => { a with refresh := true }
  | .saved => { a with saved := true }
  | _ => a

end Arguments

/-! ## Reading -/

/-- How far a command line is read. -/
structure Reading where
  arguments : Arguments
  /-- The switches that have been used. -/
  used : List Switch
  /-- A switch that takes its value from the next word, and the value once it is there. -/
  waiting : Option (Switch × Option String)
  /-- All further words stand for themselves. -/
  closed : Bool
  deriving Repr, DecidableEq, Inhabited

namespace Reading

/-- Nothing read. -/
def start : Reading :=
  ⟨.none, [], none, false⟩

/-- The switches used when another one is used. -/
def usedWith (used : List Switch) (s : Switch) : List Switch :=
  match s.kind with
  | .tally => used.erase s ++ [s]
  | _ => if used.contains s then used else used ++ [s]

/-- A switch with its value. -/
def give (r : Reading) (s : Switch) (value : String) : Except Fault Reading := do
  if let .single _ := s.kind then
    if r.used.contains s then throw (.repeated s)
  match r.arguments.withValue s value with
  | .error cause => throw (.badValue s value cause)
  | .ok a => pure { r with arguments := a, used := usedWith r.used s }

/-- The switch that waits for its value gets it, or has none. -/
def settle (r : Reading) : Except Fault Reading :=
  match r.waiting with
  | none => .ok r
  | some (s, none) => .error (.noValue s)
  | some (s, some value) => { r with waiting := none }.give s value

/-- The switches used once the waiting one is settled as far as possible: its value may be no number, but a
switch that is used twice is taken back. -/
def settledUse (r : Reading) : List Switch :=
  match r.waiting with
  | some (s, some _) =>
    match s.kind with
    | .single _ => if r.used.contains s then r.used.erase s else r.used ++ [s]
    | _ => usedWith r.used s
  | _ => r.used

/-- A switch that takes no value. -/
def flag (r : Reading) (s : Switch) : Except Fault Reading := do
  let r ← r.settle
  match s.kind with
  | .question => throw (if s = .version then .version else .help)
  | .flag => if r.used.contains s then throw (.repeated s)
  | _ => pure ()
  pure { r with arguments := r.arguments.withFlag s, used := usedWith r.used s }

/-- A switch with a value attached, or waiting for one. -/
def option (r : Reading) (s : Switch) (value : Option String) : Except Fault Reading := do
  let r ← r.settle
  match value with
  | some v => r.give s v
  | none => pure { r with waiting := some (s, none) }

/-- A word after two dashes. -/
def longWord (r : Reading) (w : String) (value : Option String) : Except Fault Reading :=
  match Switch.ofWord? w with
  | some s =>
    if s.takesValue then r.option s value
    else
      match value with
      | some v => .error (.unneeded v s (if r.used.contains s then r.used else r.used ++ [s]))
      | none => r.flag s
  | none =>
    let meant := Text.closest? w Switch.allWords
    let used := match meant.bind Switch.ofWord? with
      | some s => if r.settledUse.contains s then r.settledUse else r.settledUse ++ [s]
      | none => r.settledUse
    .error (.unexpected ("--" ++ w) meant used)

/-- The letters after one dash; the rest of the word after a switch that takes a value is its value. -/
def letters (r : Reading) : List Char → Except Fault Reading
  | [] => .ok r
  | c :: cs =>
    match Switch.ofLetter? c with
    | none => .error (.unexpected (String.ofList ['-', c]) none [])
    | some s =>
      if s.takesValue then
        r.option s (match cs with
          | [] => none
          | '=' :: v => some (String.ofList v)
          | v => some (String.ofList v))
      else
        match r.flag s with
        | .error f => .error f
        | .ok r => r.letters cs

/-- A word that is no switch. -/
def plainWord (r : Reading) (w : String) : Except Fault Reading :=
  match r.waiting with
  | some (s, none) =>
    if r.closed then .error (.unexpected w none []) else .ok { r with waiting := some (s, some w) }
  | _ => .error (.unexpected w none [])

/-- **The next word.** -/
def next (r : Reading) (w : String) : Except Fault Reading :=
  if r.closed then r.plainWord w
  else
    match w.toList with
    | ['-', '-'] => .ok { r with closed := true }
    | '-' :: '-' :: cs =>
      match Text.cutFirst? '=' cs with
      | some (name, value) => r.longWord (String.ofList name) (some (String.ofList value))
      | none => r.longWord (String.ofList cs) none
    | '-' :: c :: cs => r.letters (c :: cs)
    | _ => r.plainWord w

end Reading

/-- **Reading a command line**, without the name of the program. -/
def Arguments.read (words : List String) : Except Fault Arguments := do
  let r ← words.foldlM Reading.next .start
  pure (← r.settle).arguments

end PlanBrowser.CommandLine
