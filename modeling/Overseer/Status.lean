/-!
# Run states

`Status` is what the watchdog observes of a process.  `Status.text` is the wording for people,
`Status.name` the one in files; `Status.ofKernel` maps the states the operating system tells
apart to the coarser ones of this library.
-/

namespace Overseer

/-- The run state of a supervised process. -/
inductive Status where
  | running | sleeping | diskSleep | stopped | tracing | idle | zombie | dead
  /-- The liveness probe found the process gone. -/
  | terminated
  /-- No reading, or one that is not understood. -/
  | unavailable
  deriving DecidableEq, Repr

/-- A state as the operating system's process table names it. -/
inductive KernelState where
  | idle | run | sleep | stop | zombie | tracing | dead | wakekill | waking | parked
  | lockBlocked | uninterruptibleDiskSleep
  | unknown (code : Nat)
  deriving DecidableEq, Repr

namespace Status

/-- Before anything is known of a process its state is unavailable. -/
instance : Inhabited Status := ⟨.unavailable⟩

/-- Every run state, in the order of declaration. -/
def all : List Status :=
  [running, sleeping, diskSleep, stopped, tracing, idle, zombie, dead, terminated, unavailable]

/-- The wording for people. -/
def text : Status → String
  | running => "running"
  | sleeping => "sleeping"
  | diskSleep => "disk sleep"
  | stopped => "stopped"
  | tracing => "tracing stop"
  | idle => "idle"
  | zombie => "zombie"
  | dead => "dead"
  | terminated => "terminated"
  | unavailable => "unavailable"

/-- The wording in files: one lower-case word. -/
def name : Status → String
  | diskSleep => "disksleep"
  | tracing => "tracing"
  | s => s.text

/-- The run state with a name. -/
def ofName? (name : String) : Option Status :=
  all.find? (·.name == name)

/-- The run state of a process in a state of the operating system. -/
def ofKernel : KernelState → Status
  | .run => running
  | .sleep => sleeping
  | .uninterruptibleDiskSleep => diskSleep
  | .stop => stopped
  | .tracing => tracing
  | .idle => idle
  | .zombie => zombie
  | .dead => dead
  | _ => unavailable

end Status

end Overseer
