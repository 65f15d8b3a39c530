import PlanBrowser.Program.Run
import Std.Time.DateTime.Timestamp

/-!
# The command line program

The outer layer of the program: it reads the environment and the clock, does with real files what a task asks
for, and prints the report.  It has no transport of its own, so that every request finds the network out of
reach.

* `Task.perform` — a task done on real files;
* `main` — the program.
-/

open PlanBrowser

/-- The fault that an error of the system stands for. -/
def PlanBrowser.Files.Fault.ofError : IO.Error → Files.Fault
  | .noFileOrDirectory _ _ _ => .missing
  | .permissionDenied _ _ _ => .denied
  | .alreadyExists _ _ _ => .taken
  | .inappropriateType _ code _ => if code == 21 || code == 4294967275 then .isFolder else .notFolder
  | .resourceExhausted _ code _ => if code == 28 then .full else .tooLong
  | .resourceVanished _ _ => .unread
  | .hardwareFault _ _ => .failed
  | _ => .denied

/-- An action on files, with its fault as a value. -/
def PlanBrowser.Files.attempt {α : Type} (act : IO α) : IO (Except Files.Fault α) := do
  match ← act.toBaseIO with
  | .ok a => return .ok a
  | .error e => return .error (.ofError e)

/-- **A task done on real files.** -/
def PlanBrowser.Files.Task.perform {α : Type} : Files.Task α → IO α
  | .done a => pure a
  | .read path next => do
    let bytes ← Files.attempt (IO.FS.readBinFile path)
    (next (bytes.map (·.toList))).perform
  | .look path next => do
    let found ← Files.attempt (IO.FS.Handle.mk path .read)
    (next found.isOk).perform
  | .makeFolders path next => do
    let done ← if path.isEmpty then pure (.ok ()) else Files.attempt (IO.FS.createDirAll path)
    (next done).perform
  | .write path bytes next => do
    match ← Files.attempt (IO.FS.Handle.mk path .write) with
    | .error cause => (next (.error (.unmade cause))).perform
    | .ok file =>
      let done ← Files.attempt (file.write ⟨bytes.toArray⟩)
      (next (done.mapError .unfilled)).perform
  | .print bytes next => do
    let done ← Files.attempt do
      let out ← IO.getStdout
      out.write ⟨bytes.toArray⟩
      out.flush
    (next done).perform

/-- The time of the clock. -/
def PlanBrowser.Calendar.Instant.current : IO Calendar.Instant := do
  let time ← Std.Time.Timestamp.now
  let nanos := time.toNanosecondsSinceUnixEpoch.val
  return ⟨nanos / 1000000000, (nanos % 1000000000).toNat⟩

/-- What the environment says. -/
def PlanBrowser.Environment.current : IO Environment :=
  return ⟨← IO.getEnv "HOME", ← IO.getEnv "USERPROFILE", ← IO.getEnv "HOMEDRIVE", ← IO.getEnv "HOMEPATH"⟩

/-- **The program.** -/
def main (words : List String) : IO UInt32 := do
  let task := Program.run (← Environment.current) (← Calendar.Instant.current) .unreachable words
  let report ← task.perform
  if report.introduced then IO.eprint Program.banner
  for note in report.notes do
    IO.eprintln note
  return report.status.toUInt32
