import PlanBrowser.Files.Task
import PlanBrowser.Text.Utf8
import PlanBrowser.Yaml.Field

/-!
# The settings file

A user can keep settings in a file.  Every setting may be left out, and a file that says nothing is as good as
none.  If there is no file, one can be made that spells out the settings that hold anyway.

* `Config` — the settings of a file;
* `Config.ofText?` — the settings that a text holds;
* `Config.load` — reads the file;
* `Config.ensure` — **makes the file unless it is there**.
-/

namespace PlanBrowser

/-- The settings of a file. -/
structure Config where
  url : Option String
  username : Option String
  token : Option String
  timeout : Option Nat
  proxy : Option String
  header : Option String
  pageSize : Option Nat
  shown : Option Nat
  output : Option String
  format : Option String
  /-- Nothing is to be coloured. -/
  plain : Option Bool
  deriving Repr, DecidableEq, Inhabited

/-- Why there are no settings. -/
inductive ConfigFault where
  /-- The file says something else. -/
  | malformed (path : String)
  | missing (path : String)
  | unreadable (path : String) (cause : Files.Fault)
  /-- The path names no file. -/
  | noFile (path : String)
  | noFolder (folder : String) (cause : Files.Fault)
  | unwritable (path : String) (cause : Files.Fault)
  /-- Nobody says where the file is. -/
  | nowhere
  deriving Repr, DecidableEq

/-- **Why there are no settings, in words.** -/
def ConfigFault.message : ConfigFault → String
  | malformed path => "failed to parse config '" ++ path ++ "': not a mapping of settings"
  | missing path => "config file not found '" ++ path ++ "'"
  | unreadable path cause => "failed to read config '" ++ path ++ "': " ++ cause.message
  | noFile path => "invalid config path '" ++ path ++ "'"
  | noFolder folder cause =>
    "failed to create config directory '" ++ folder ++ "': " ++ cause.message
  | unwritable path cause => "failed to write config file '" ++ path ++ "': " ++ cause.message
  | nowhere => "cannot determine config path"

namespace Config

open Yaml (Document Scalar)

/-- No settings. -/
def empty : Config :=
  ⟨none, none, none, none, none, none, none, none, none, none, none⟩

/-- The settings that a document holds.  Fields of other names are passed over. -/
def ofDocument? (d : Document) : Option Config := do
  let fields ← d.fields?
  let text (names : List String) : Option (Option String) := d.field? Scalar.text? fields names
  let number (name : String) : Option (Option Nat) := d.field? Scalar.number? fields [name]
  some {
    url := ← text ["url"]
    username := ← text ["username"]
    token := ← text ["jwt", "JWT"]
    timeout := ← number "timeout"
    proxy := ← text ["proxy"]
    header := ← text ["header"]
    pageSize := ← number "plans_per_page"
    shown := ← number "initial_displayed"
    output := ← text ["output"]
    format := ← text ["output_format"]
    plain := ← d.field? Scalar.flag? fields ["no_color"] }

/-- **The settings that a text holds.** -/
def ofText? (cs : List Char) : Option Config := do
  ofDocument? (← Document.read? cs)

/-! ## The file -/

/-- The settings in the bytes of a file. -/
def ofBytes (path : String) (bytes : List UInt8) : Except ConfigFault Config :=
  match Text.Utf8.decode? bytes with
  | none => .error (.unreadable path .notText)
  | some cs =>
    match ofText? cs with
    | none => .error (.malformed path)
    | some c => .ok c

/-- **Reads the file.**  If it may be missing, a file that is missing says nothing. -/
def load (path : String) (mayBeMissing : Bool) : Files.Task (Except ConfigFault Config) :=
  .read path fun
    | .ok bytes => .done (ofBytes path bytes)
    | .error .missing => .done (if mayBeMissing then .ok empty else .error (.missing path))
    | .error cause => .done (.error (.unreadable path cause))

/-- The lines of a new file. -/
def defaultLines : List String :=
  ["# Tripview config",
    "#",
    "# Location (default):",
    "#   ~/.tripview/config.yml",
    "",
    "# Results page to open (optional, usually given with -u)",
    "# url: https://planner.example/v1/plans?location=Paris&date=2024-05-02&numberResults=5",
    "",
    "# Identity (optional). An explicit username wins over the JWT claim.",
    "# username: alice",
    "# jwt: eyJhbGciOi...",
    "",
    "# HTTP",
    "timeout: 10",
    "# proxy: http://127.0.0.1:8080",
    "# header: \"Key: Value\"",
    "",
    "# Pagination",
    "plans_per_page: 5",
    "initial_displayed: 5",
    "",
    "# Output (optional)",
    "# output: ./plans.html",
    "# output_format: html",
    "",
    "no_color: false"]

/-- **The text of a new file.** -/
def defaultText : String :=
  String.join (defaultLines.map (· ++ "\n"))

/-- Writes a new file, with the folders above it. -/
def create (path : String) : Files.Task (Except ConfigFault Unit) :=
  match Files.Path.parent? path with
  | none => .done (.error (.noFile path))
  | some folder =>
    .makeFolders folder fun
      | .error cause => .done (.error (.noFolder folder cause))
      | .ok () =>
        .write path (Text.Utf8.bytesOf defaultText) fun
          | .error fault => .done (.error (.unwritable path fault.cause))
          | .ok () => .done (.ok ())

/-- **Makes the file unless something is there.** -/
def ensure (path : String) : Files.Task (Except ConfigFault Unit) :=
  .look path fun present => if present then .done (.ok ()) else create path

end Config

end PlanBrowser
