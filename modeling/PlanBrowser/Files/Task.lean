import PlanBrowser.Files.Path

/-!
# Work with files

The program reads and writes few files, and puts something out.  A **task** is a piece of work that says which file it
needs next and what it makes of the answer; it does not say where the files are.

* `Fault` — why a file cannot be had, and `Fault.message`, the same in words;
* `WriteFault` — how far the writing of a file has come when it fails;
* `Task` — the work;
* `Task.bind` — one task after another.
-/

namespace PlanBrowser.Files

/-- Why a file cannot be had. -/
inductive Fault where
  | missing
  | denied
  /-- Something is there already. -/
  | taken
  | notFolder
  | isFolder
  /-- A name or a path is too long. -/
  | tooLong
  /-- A name holds the character zero. -/
  | badName
  /-- The bytes are no text. -/
  | notText
  /-- There is no room left. -/
  | full
  /-- Nobody reads any more what is put out. -/
  | unread
  /-- Reading or writing failed. -/
  | failed
  deriving Repr, DecidableEq, Inhabited

/-- **A fault in words.** -/
def Fault.message : Fault → String
  | missing => "No such file or directory (os error 2)"
  | denied => "Permission denied (os error 13)"
  | taken => "File exists (os error 17)"
  | notFolder => "Not a directory (os error 20)"
  | isFolder => "Is a directory (os error 21)"
  | tooLong => "File name too long (os error 36)"
  | badName => "file name contained an unexpected NUL byte"
  | notText => "stream did not contain valid UTF-8"
  | full => "No space left on device (os error 28)"
  | unread => "Broken pipe (os error 32)"
  | failed => "Input/output error (os error 5)"

/-- How far the writing of a file has come when it fails. -/
inductive WriteFault where
  /-- There is no file to write to. -/
  | unmade (cause : Fault)
  /-- There is the file, but not all bytes get into it. -/
  | unfilled (cause : Fault)
  deriving Repr, DecidableEq, Inhabited

/-- Why the writing of a file fails. -/
def WriteFault.cause : WriteFault → Fault
  | unmade cause => cause
  | unfilled cause => cause

/-- Work that needs files. -/
inductive Task (α : Type) where
  | done (a : α)
  /-- Reads a file. -/
  | read (path : String) (next : Except Fault (List UInt8) → Task α)
  /-- Asks whether there is something at a path. -/
  | look (path : String) (next : Bool → Task α)
  /-- Makes a folder with all folders above it. -/
  | makeFolders (path : String) (next : Except Fault Unit → Task α)
  /-- Writes a file, in place of the one that was there. -/
  | write (path : String) (bytes : List UInt8) (next : Except WriteFault Unit → Task α)
  /-- Puts something out. -/
  | print (bytes : List UInt8) (next : Except Fault Unit → Task α)

namespace Task

variable {α β : Type}

/-- **One task after another.** -/
def bind (t : Task α) (f : α → Task β) : Task β :=
  match t with
  | done a => f a
  | read path next => read path fun r => (next r).bind f
  | look path next => look path fun r => (next r).bind f
  | makeFolders path next => makeFolders path fun r => (next r).bind f
  | write path bytes next => write path bytes fun r => (next r).bind f
  | print bytes next => print bytes fun r => (next r).bind f

instance : Monad Task where
  pure := done
  bind := bind

/-- The result of a task is used further. -/
def mapResult (f : α → β) (t : Task α) : Task β :=
  t.bind fun a => done (f a)

end Task

end PlanBrowser.Files
