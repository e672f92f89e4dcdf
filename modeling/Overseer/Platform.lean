import Overseer.Error
import Overseer.ExitStatus
import Overseer.Signal
import Overseer.Spec
import Overseer.Status

/-!
# What the supervisor asks of its surroundings

A `Platform σ` is a process control and a status source over the states `σ` of the surroundings.
The process control holds at most one process.  Every call may change the surroundings and may
fail; nothing is assumed of the answers, so that what is shown of the supervisor holds over any
operating system, over a scripted process, and over a faulty one.

`alive` reads the answer to the null signal.
-/

namespace Overseer

/-- A process control and a status source. -/
structure Platform (σ : Type) where
  /-- The supervisor's own working directory. -/
  workingDirectory : σ → Except IoError String
  /-- Creates a process that starts in the given directory, and holds it. -/
  start : Spec → String → σ → Except IoError Pid × σ
  /-- The process that is held. -/
  pid : σ → Option Pid
  /-- Sends a signal to the process that is held; `none` only asks whether it could be sent. -/
  signal : Option Signal → σ → Except Errno Unit × σ
  /-- Collects the exit status of the process that is held, if it has exited. -/
  tryWait : σ → Except IoError (Option ExitStatus) × σ
  /-- Lets go of the process that is held, without a signal. -/
  release : σ → Except IoError Unit × σ
  /-- Reads the run state of a process. -/
  readStatus : Pid → σ → Except Error Status × σ

/-- A process is alive unless the null signal finds no such process: one that belongs to someone
else refuses the signal and is still there. -/
def alive (probe : Except Errno Unit) : Bool :=
  match probe with
  | .error e => e ≠ Errno.esrch
  | .ok _ => true

end Overseer
