import Overseer.Budget
import Overseer.Sink

/-!
# Launch specifications

* `Spec` -- everything needed to launch one process and to supervise it: what to run and how, and
  the settings of the supervision;
* `Commission` -- a specification together with the sink, if any, that hears of the status changes.
-/

namespace Overseer

/-- A process identifier. -/
abbrev Pid := Nat

/-- Where the standard output or the standard error of a process goes. -/
inductive OutputTarget where
  /-- Discarded. -/
  | null
  /-- Where the supervisor's own output goes. -/
  | inherit
  /-- Appended to a file. -/
  | file (path : String)
  deriving DecidableEq, Repr

instance : Inhabited OutputTarget := ⟨.null⟩

/-- What to run, how to run it, and how to supervise it. -/
structure Spec where
  name : String
  command : String
  args : List String
  /-- Variables layered over the inherited environment, in this order. -/
  env : List (String × String)
  /-- The directory to start in; without one, the supervisor's own. -/
  cwd : Option String
  /-- Whether the process leads a process group of its own. -/
  detach : Bool
  budget : Budget
  /-- Milliseconds between two ticks of the watchdog. -/
  pollInterval : UInt64
  stdout : OutputTarget
  stderr : OutputTarget
  /-- Whether the process is deleted once nobody holds a handle to it. -/
  autoTerminate : Bool
  deriving DecidableEq, Repr

/-- What is handed to a supervisor. -/
structure Commission where
  spec : Spec
  /-- Who hears of the status changes. -/
  sink : Option Sink
  deriving DecidableEq, Repr

/-- Whoever launches the process attaches a sink. -/
def Commission.attach (c : Commission) (sink : Sink) : Commission := { c with sink := some sink }

/-- Milliseconds between two ticks when nothing else is asked for. -/
def defaultPollInterval : UInt64 := 1000

end Overseer
