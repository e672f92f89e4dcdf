import Overseer.Error
import Overseer.ExitStatus
import Overseer.Signal
import Overseer.Spec
import Overseer.Status

/-!
# What a process control asks of the kernel

A `Kernel κ φ` is the part of an operating system that creates, signals and collects processes,
over its states `κ`; `φ` names the files it has opened.  Every call may fail and may change the
state, and nothing is assumed of the answers.
-/

namespace Overseer

/-- Where an output stream of a new process goes. -/
inductive Stream (φ : Type) where
  | nowhere
  /-- The same stream of whoever creates the process. -/
  | shared
  | file (file : φ)

/-- A process to be created. -/
structure Order (φ : Type) where
  /-- The program, as a path or a name to be searched for. -/
  program : String
  /-- The arguments after the name of the program, which is the program as given. -/
  args : List String
  /-- The directory to start in. -/
  directory : String
  /-- Variables layered over the inherited environment, in this order. -/
  env : List (String × String)
  stdout : Stream φ
  stderr : Stream φ
  /-- Whether the process leads a process group of its own. -/
  leadsGroup : Bool

/-- The part of an operating system that deals with processes. -/
structure Kernel (κ φ : Type) where
  /-- The directory of whoever asks. -/
  workingDirectory : κ → Except IoError String
  /-- Opens a file for writing at its end, and creates it if it is not there. -/
  openFile : String → κ → Except IoError φ × κ
  /-- Creates a process. -/
  spawn : Order φ → κ → Except IoError Pid × κ
  /-- Collects the exit status of a child, if it has exited; does not wait. -/
  waitpid : Pid → κ → Except IoError (Option ExitStatus) × κ
  /-- Sends a signal to a process, or to a group if the number is negative; `none` only asks
  whether it could be sent. -/
  kill : Int → Option Signal → κ → Except Errno Unit × κ
  /-- Reads the run state of a process. -/
  readStatus : Pid → κ → Except Error Status × κ

end Overseer
