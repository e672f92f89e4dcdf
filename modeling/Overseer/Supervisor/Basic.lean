import Overseer.Platform
import Overseer.Sink
import Overseer.Watchdog

/-!
# The supervisor's state

A supervisor owns one process.  It serves the requests of its handles one at a time, keeps the
callers who wait for the process to exit, and runs the watchdog.

* `Request`, `Reply`, `Answer` -- what a handle asks and what it is told;
* `Waiter` -- a caller who is parked until the held process has exited;
* `Event` -- what a supervisor does, as it is seen from outside; `Supervisor.trace` holds all of
  it, the newest first;
* `Supervisor` -- the state, over the surroundings `σ`.
-/

namespace Overseer

/-- Names one request among all that are ever sent to a supervisor. -/
abbrev Ticket := Nat

/-- A moment of the supervisor's clock, in milliseconds. -/
abbrev Moment := Nat

/-- What a handle asks of the supervisor. -/
inductive Request where
  | pid | startTime | status | isAlive | restartsRemaining
  /-- Send `Signal.term`; the exit is not awaited. -/
  | stop
  /-- Send `Signal.kill` and let go of the process. -/
  | kill
  | signal (signal : Signal)
  /-- Stop, await the exit, and launch again. -/
  | restart
  /-- Await the exit. -/
  | wait
  /-- Stop, by force if need be, await the exit, and end the supervision. -/
  | delete
  deriving DecidableEq, Repr

/-- What a request is told when it succeeds. -/
inductive Reply where
  | pid (pid : Option Pid)
  | startTime (time : Option Moment)
  | status (status : Status)
  | alive (alive : Bool)
  | budget (budget : Budget)
  | done
  | restarted (pid : Pid)
  | exited (status : ExitStatus)
  deriving DecidableEq, Repr

/-- The answer to a request. -/
abbrev Answer := Except Error Reply

/-- A caller who is parked until the held process has exited. -/
inductive Waiter where
  | wait (ticket : Ticket)
  /-- A deletion; without a ticket when the loss of the last handle caused it. -/
  | delete (ticket : Option Ticket)
  | restart (ticket : Ticket)
  deriving DecidableEq, Repr

namespace Waiter

/-- The caller only awaits the exit. -/
def isWait : Waiter → Bool
  | wait _ => true
  | _ => false

/-- The caller wants the process deleted. -/
def isDelete : Waiter → Bool
  | delete _ => true
  | _ => false

/-- The request that is parked. -/
def ticket? : Waiter → Option Ticket
  | wait t | restart t => some t
  | delete t => t

end Waiter

/-- What a supervisor does. -/
inductive Event where
  /-- The process control was asked to create a process. -/
  | started (result : Except IoError Pid)
  /-- A launch was attempted, which may have failed before it came to the process control. -/
  | launched (result : Except Error Pid)
  | signalled (signal : Signal) (result : Except Errno Unit)
  /-- The null signal was sent. -/
  | probed (result : Except Errno Unit)
  | awaited (result : Except IoError (Option ExitStatus))
  | released (result : Except IoError Unit)
  | statusRead (result : Except Error Status)
  /-- A tick observed a run state. -/
  | observed (status : Status)
  /-- The restart policy decided on a tick. -/
  | decided (decision : RestartDecision)
  /-- A status change was offered to the sink. -/
  | offered (status : Status) (delivery : Delivery)
  | answered (ticket : Ticket) (answer : Answer)

/-- A supervisor over the surroundings `σ`. -/
structure Supervisor (σ : Type) where
  spec : Spec
  system : σ
  /-- When the held process was launched. -/
  startTime : Option Moment
  watchdog : Watchdog
  sink : Option Sink
  /-- The cancellation token has fired. -/
  cancelled : Bool
  /-- Requests not yet served, oldest first. -/
  queue : List (Ticket × Request)
  /-- Somebody still holds a handle. -/
  handles : Bool
  /-- The loss of the last handle has been dealt with. -/
  detached : Bool
  waiters : List Waiter
  /-- The supervisor's loop goes on. -/
  running : Bool
  now : Moment
  /-- When the next tick is due. -/
  nextTick : Moment
  /-- When the next look for an exit is due, while somebody is parked. -/
  exitCheck : Option Moment
  /-- What has been done, the newest first. -/
  trace : List Event

namespace Supervisor

variable {σ : Type} (P : Platform σ)

/-- A supervisor that has launched nothing yet. -/
def new (spec : Spec) (system : σ) (sink : Option Sink) : Supervisor σ where
  spec
  system
  startTime := none
  watchdog := .new spec.budget
  sink
  cancelled := false
  queue := []
  handles := true
  detached := false
  waiters := []
  running := false
  now := 0
  nextTick := 0
  exitCheck := none
  trace := []

/-- Milliseconds between two ticks. -/
def period (s : Supervisor σ) : Nat := s.spec.pollInterval.toNat

/-- Adds to the trace. -/
def note (s : Supervisor σ) (event : Event) : Supervisor σ :=
  { s with trace := event :: s.trace }

/-- Answers a request. -/
def answer (s : Supervisor σ) (ticket : Ticket) (answer : Answer) : Supervisor σ :=
  s.note (.answered ticket answer)

/-- The process that is held. -/
def pid (s : Supervisor σ) : Option Pid := P.pid s.system

/-- Asks the process control for a process. -/
def start (s : Supervisor σ) (directory : String) : Except IoError Pid × Supervisor σ :=
  let (result, system) := P.start s.spec directory s.system
  (result, { s with system }.note (.started result))

/-- Sends a signal to the held process. -/
def signal (s : Supervisor σ) (signal : Signal) : Except Errno Unit × Supervisor σ :=
  let (result, system) := P.signal (some signal) s.system
  (result, { s with system }.note (.signalled signal result))

/-- Sends the null signal to the held process. -/
def probe (s : Supervisor σ) : Except Errno Unit × Supervisor σ :=
  let (result, system) := P.signal none s.system
  (result, { s with system }.note (.probed result))

/-- Collects the exit status of the held process, if it has exited. -/
def tryWait (s : Supervisor σ) : Except IoError (Option ExitStatus) × Supervisor σ :=
  let (result, system) := P.tryWait s.system
  (result, { s with system }.note (.awaited result))

/-- Lets go of the held process. -/
def release (s : Supervisor σ) : Except IoError Unit × Supervisor σ :=
  let (result, system) := P.release s.system
  (result, { s with system }.note (.released result))

/-- Reads the run state of a process. -/
def readStatus (s : Supervisor σ) (pid : Pid) : Except Error Status × Supervisor σ :=
  let (result, system) := P.readStatus pid s.system
  (result, { s with system }.note (.statusRead result))

/-- Whether the held process is alive; with none held there is nothing to ask. -/
def isAlive (s : Supervisor σ) : Bool × Supervisor σ :=
  match s.pid P with
  | none => (false, s)
  | some _ =>
    let (result, s) := s.probe P
    (alive result, s)

/-- Offers a status change to the sink. -/
def offer (s : Supervisor σ) (status : Status) : Supervisor σ :=
  match s.sink with
  | none => s.note (.offered status .unheard)
  | some sink =>
    let (delivery, sink) := sink.offer status
    { s with sink := some sink }.note (.offered status delivery)

end Supervisor

end Overseer
