import Overseer.CommandLine.Launch
import Overseer.Environment
import Overseer.Host.Layout
import Overseer.Host.Rehearsal

/-!
# The command line

* `check` lists the entries of a configuration file;
* `run` rehearses the supervision of a process on a `Host` of a usual layout, from the launch to the
  shutdown after the first lines, and prints what is printed meanwhile.

Here files, variables and directories are looked up; everything is decided elsewhere.
-/

namespace Overseer.Console

/-- The error number of a failed operation of the host, which may come negated. -/
def errnoOf : IO.Error → Errno
  | .alreadyExists _ code _ | .noFileOrDirectory _ code _ | .permissionDenied _ code _
  | .inappropriateType _ code _ | .noSuchThing _ code _ | .invalidArgument _ code _
  | .resourceExhausted _ code _ | .interrupted _ code _ | .otherError code _
  | .resourceBusy code _ | .resourceVanished code _ | .unsupportedOperation code _
  | .hardwareFault code _ | .unsatisfiedConstraints code _ | .illegalOperation code _
  | .protocolError code _ | .timeExpired code _ => ⟨code.toInt32.toInt.natAbs⟩
  | .unexpectedEof | .userError _ => ⟨5⟩

/-- The bytes of a file. -/
def bytesOf (path : String) : IO (Except IoError ByteArray) := do
  match ← (IO.FS.readBinFile path).toBaseIO with
  | .ok bytes => pure (.ok bytes)
  | .error e => pure (.error (.os (errnoOf e)))

/-- Whether a path leads to a directory. -/
def leadsToDirectory (path : String) : IO Bool := do
  match ← (IO.FS.realPath (path ++ "/.")).toBaseIO with
  | .ok _ => pure (path != "")
  | .error _ => pure false

/-- The variables that are set. -/
def environment : IO Environment := do
  match ← bytesOf "/proc/self/environ" with
  | .ok block => pure (.ofBlock block)
  | .error _ => pure .empty

/-- The surroundings in which at most one file is read: its bytes, and whether the directories that
its entries start in are there. -/
def surroundingsFor (file : Option String) : IO Surroundings := do
  let env ← environment
  let contents ←
    match file with
    | some path => bytesOf path
    | none => pure (.error (.os .enoent))
  let w : Surroundings :=
    { contents := fun _ => contents, isDirectory := fun _ => false, lookup := env.text? }
  let wanted :=
    match file.map (Config.read w) with
    | some (.ok entries) => entries.filterMap Entry.cwd
    | _ => []
  let found ← wanted.filterM leadsToDirectory
  pure { w with isDirectory := found.contains }

/-- The file that a task reads. -/
def fileOf : Task → Option String
  | .check file => some file
  | .run options => options.config

/-- The exit code of a failure, which is reported. -/
def fail (e : Error) : IO UInt32 := do
  IO.eprint (Report.failure (← (← IO.getStderr).isTty) e.message)
  pure 1

/-- Performs a task. -/
def perform (task : Task) : IO UInt32 := do
  let w ← surroundingsFor (fileOf task)
  match task with
  | .check file =>
    match Config.load w file with
    | .error e => fail e
    | .ok entries =>
      IO.print (Report.entries (← (← IO.getStdout).isTty) entries)
      pure 0
  | .run options =>
    match options.entry w with
    | .error e => fail e
    | .ok e =>
      let host := Host.new Layout.fileSystem (← environment) []
      let (printed, result) := Rehearsal.supervise host e "Started: "
      IO.print printed
      match result with
      | .error e => fail e
      | .ok () => pure 0

/-- How the program is used. -/
def usage : String :=
  "Usage: overseer [--log-level LEVEL] run [OPTIONS] [-- COMMAND...]\n" ++
  "       overseer [--log-level LEVEL] check FILE\n"

/-- Says why a command line is not understood, or shows what it asks for. -/
def explain (e : UsageError) : IO UInt32 := do
  if e.exitCode = 0 then IO.print usage
  else IO.eprint (s!"error: {e.message}\n\n" ++ usage)
  pure e.exitCode.toUInt32

end Overseer.Console

open Overseer in
/-- Reads the command line and performs its task. -/
def main (args : List String) : IO UInt32 :=
  match CommandLine.parse ("overseer" :: args) with
  | .error e => Console.explain e
  | .ok invocation => Console.perform invocation.task
