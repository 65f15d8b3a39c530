import PlanBrowser.CommandLine.Read
import PlanBrowser.Program.Results

/-!
# The program

The program reads its command line and the settings, does the work, and writes the result.  Everything it needs
from outside is a parameter or a file, and nobody interrupts it.

* `Report` — what a run of the program shows;
* `writeProduct` — the result goes to a file or to standard output;
* `run` — **the program**.
-/

namespace PlanBrowser.Program

open CommandLine (Arguments)

/-- What a run of the program shows. -/
structure Report where
  /-- The status that the program ends with. -/
  status : Nat
  /-- What it has put out. -/
  output : String
  /-- The program has introduced itself. -/
  introduced : Bool
  /-- What it has told on standard error, piece by piece. -/
  notes : List String
  /-- What it has sent. -/
  requests : List Request
  deriving Repr, DecidableEq

namespace Report

/-- An error as it is told. -/
def errorNote (message : String) : String :=
  "error: " ++ message

/-- A run that stops before any work. -/
def rejected (message : String) : Report :=
  ⟨1, "", false, [errorNote message], []⟩

/-- A run that only answers. -/
def told (text : String) : Report :=
  ⟨0, text, false, [], []⟩

/-- A run that has only made a settings file. -/
def configured (path : String) : Report :=
  ⟨0, "", false, [labelled "Config" path], []⟩

/-- A run whose work has failed. -/
def failed (p : Product) (message : String) : Report :=
  ⟨1, "", true, p.notes ++ [errorNote message], p.requests⟩

/-- A run whose result went to standard output. -/
def shown (p : Product) (text : String) : Report :=
  ⟨0, text, true, p.notes, p.requests⟩

/-- A run whose result went to a file. -/
def written (p : Product) (path : String) : Report :=
  ⟨0, "", true, p.notes ++ [labelled "Output" path], p.requests⟩

end Report

/-- Why there is no file for the result. -/
def outputFault (path : String) (cause : Files.Fault) : String :=
  "failed to create output file '" ++ path ++ "': " ++ cause.message

/-- Why the result does not get into its file. -/
def fillFault (path : String) (cause : Files.Fault) : String :=
  "failed to write output file '" ++ path ++ "': " ++ cause.message

/-- Why the result does not get to standard output. -/
def printFault (cause : Files.Fault) : String :=
  "failed to write output: " ++ cause.message

/-- **The result goes to a file or to standard output.** -/
def writeProduct (p : Product) (path : Option String) : Files.Task Report :=
  match p.output, path with
  | .error message, _ => .done (.failed p message)
  | .ok text, none =>
    .print (Text.Utf8.bytesOf text) fun
      | .ok () => .done (.shown p text)
      | .error cause => .done (.failed p (printFault cause))
  | .ok text, some path =>
    .write path (Text.Utf8.bytesOf text) fun
      | .ok () => .done (.written p path)
      | .error (.unmade cause) => .done (.failed p (outputFault path cause))
      | .error (.unfilled cause) => .done (.failed p (fillFault path cause))

/-- An answer goes to standard output; whether it gets there does not matter. -/
def answer (fault : CommandLine.Fault) : Files.Task Report :=
  .print (Text.Utf8.bytesOf fault.message) fun _ => .done (.told fault.message)

/-- A settings file is made. -/
def initialise (path : Option String) : Files.Task Report :=
  match path with
  | none => .done (.rejected ConfigFault.nowhere.message)
  | some path =>
    (Config.ensure path).mapResult fun
      | .ok () => .configured path
      | .error fault => .rejected fault.message

/-- The settings file: the one that is named must be there, the usual one need not. -/
def loadConfig (e : Environment) (named : Option String) : Files.Task (Except ConfigFault Config) :=
  match named, e.configPath? with
  | some path, _ => Config.load path false
  | none, some path => Config.load path true
  | none, none => .done (.ok .empty)

/-- The work that a command line asks for. -/
def obey (e : Environment) (now : Calendar.Instant) (network : Network) (a : Arguments) :
    Files.Task Report :=
  let named := a.config.map e.expand
  if a.initConfig then initialise (named <|> e.configPath?)
  else
    (loadConfig e named).bind fun
      | .error fault => .done (.rejected fault.message)
      | .ok c =>
        match RunSettings.ofArguments e a c with
        | .error fault => .done (.rejected fault.message)
        | .ok r => writeProduct (product r now network) r.output

/-- **The program** for the words of a command line. -/
def run (e : Environment) (now : Calendar.Instant) (network : Network) (words : List String) :
    Files.Task Report :=
  match Arguments.read words with
  | .ok a => obey e now network a
  | .error .help => answer .help
  | .error .version => answer .version
  | .error fault => .done (.rejected fault.message)

/-- The words with which the program introduces itself. -/
def banner : String :=
  "\n   __       _\n"
    ++ "  / /______(_)___ _   __(_)__ _      __\n"
    ++ " / __/ ___/ / __ \\ | / / / _ \\ | /| / /\n"
    ++ "/ /_/ /  / / /_/ / |/ / /  __/ |/ |/ /\n"
    ++ "\\__/_/  /_/ .___/|___/_/\\___/|__/|__/\n"
    ++ "         /_/\n"
    ++ "       v0.1.0 - travel plan browser\n    \n"

end PlanBrowser.Program
