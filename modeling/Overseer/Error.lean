import Overseer.Errno

/-!
# Failures

What can go wrong, one constructor a cause, and the wording of each.

* `IoError` -- a failed input or output operation: a system error number, or a text of its own;
* `Error` -- every failure the supervisor and the configuration loader report;
* `Error.message` -- the wording;
* `Error.cause?` -- the input or output failure underneath, which launch and I/O failures have.
-/

namespace Overseer

/-- A failed input or output operation. -/
inductive IoError where
  /-- A system call answered with an error number. -/
  | os (code : Errno)
  /-- A file name or an argument holds a character that no system call can take. -/
  | invalidInput (text : String)
  /-- A thing that was asked for is not there. -/
  | notFound (text : String)
  /-- Any other failure, with a text of its own. -/
  | other (text : String)
  deriving DecidableEq, Repr

/-- The wording of an input or output failure. -/
def IoError.message : IoError → String
  | .os code => s!"{code.text} (os error {code.number})"
  | .invalidInput text | .notFound text | .other text => text

/-- A failure of the supervisor, of a configuration, or of the system underneath. -/
inductive Error where
  /-- The directory to start in cannot be determined. -/
  | workingDirectory (reason : String)
  /-- The process cannot be created. -/
  | launch (command : String) (cause : IoError)
  /-- No process is held. -/
  | noProcess (name : String)
  /-- A signal was not delivered. -/
  | signal (reason : String)
  /-- The process handle was not given back. -/
  | release (reason : String)
  /-- The exit of a process could not be collected. -/
  | wait (reason : String)
  /-- The run state of a process could not be read. -/
  | statusRead (reason : String)
  /-- Neither the graceful nor the forced stop of a deletion worked. -/
  | delete (name : String) (graceful forced : Error)
  /-- Another restart or delete is waiting for the process to exit. -/
  | busy (name : String)
  /-- The supervisor has ended. -/
  | gone (name : String)
  /-- A configuration cannot be put together. -/
  | config (reason : String)
  /-- A configuration file does not describe processes. -/
  | invalidConfig (reason : String)
  /-- A required setting is empty or absent. -/
  | missingField (field : String)
  /-- A setting has a value that is out of range. -/
  | validation (reason : String)
  /-- An input or output operation failed. -/
  | io (cause : IoError)
  deriving DecidableEq, Repr

namespace Error

/-- The wording of a failure. -/
def message : Error → String
  | workingDirectory reason => s!"Failed to resolve working directory: {reason}"
  | launch command cause => s!"Failed to start process (cmd: {command}): {cause.message}"
  | noProcess name => s!"No running process instance for {name}"
  | signal reason => s!"Signal delivery failed: {reason}"
  | release reason => s!"Resource release failed: {reason}"
  | wait reason => s!"Failed while waiting on process {reason}"
  | statusRead reason => s!"Failed to read process status: {reason}"
  | delete name graceful forced =>
    s!"Failed to delete process {name}: graceful stop: {graceful.message}; forced stop: {forced.message}"
  | busy name => s!"A restart or delete of process {name} is already in progress"
  | gone name => s!"Watchdog for process {name} is no longer running"
  | config reason => s!"Configuration error: {reason}"
  | invalidConfig reason => s!"Invalid configuration file: {reason}"
  | missingField field => s!"Missing required configuration field: {field}"
  | validation reason => s!"Configuration validation failed: {reason}"
  | io cause => s!"IO error: {cause.message}"

/-- The input or output failure underneath. -/
def cause? : Error → Option IoError
  | launch _ cause | io cause => some cause
  | _ => none

end Error

end Overseer
