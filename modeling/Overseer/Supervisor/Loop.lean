import Overseer.Supervisor.Handlers

/-!
# The supervisor's loop

The loop waits for the first of five occasions, deals with it, and waits again.  Of several that
are due, the first of this list counts: the cancellation token has fired; a relaunch is scheduled;
a request is queued, or the last handle is gone; an exit check is due; a tick is due.

* `due?` -- the occasion that is due; `turn` -- one turn of the loop, which does nothing when none
  is; `settle` -- as many turns as can be due at one moment;
* `send`, `cancel`, `loseHandles` -- what happens to a supervisor from outside;
* `Input`, `step`, `run` -- everything that may happen to a supervisor, in any order.  What is said
  of every reachable state is said of `run` over every list of inputs.

A tick is due a period after the one before it was due, also when that one came a little late.
After a tick that came more than `tickTolerance` late, the next one is due a period after it was
dealt with: the ticks that were missed are put off, not made up for.  The exit check is set anew,
`exitPollInterval` ahead, on every turn of the loop, and only while somebody is parked.
-/

namespace Overseer.Supervisor

variable {σ : Type} (P : Platform σ)

/-- Milliseconds from a turn of the loop to the exit check. -/
def exitPollInterval : Nat := 20

/-- The milliseconds that a tick may be late without putting off those after it. -/
def tickTolerance : Nat := 5

/-- What the loop deals with in one turn. -/
inductive Occasion where
  | cancelled | relaunch
  | request (ticket : Ticket) (request : Request)
  | detached | exitCheck | tick
  deriving DecidableEq, Repr

/-- The occasion that is due. -/
def due? (s : Supervisor σ) : Option Occasion :=
  if !s.running then none
  else if s.cancelled then some .cancelled
  else if s.watchdog.pending then some .relaunch
  else
    match s.detached, s.queue with
    | false, (ticket, request) :: _ => some (.request ticket request)
    | _, _ =>
      if !s.detached && !s.handles then some .detached
      else if s.exitCheck.any (· ≤ s.now) then some .exitCheck
      else if s.nextTick ≤ s.now then some .tick
      else none

/-- Answers everybody who is still queued or parked that the supervisor has ended. -/
def dismiss (s : Supervisor σ) : Supervisor σ :=
  let tickets := s.waiters.filterMap Waiter.ticket? ++ s.queue.map (·.1)
  tickets.foldl (fun s ticket => s.answer ticket (.error (.gone s.spec.name)))
    { s with waiters := [], queue := [] }

/-- The loop ends: the watchdog stops, the sink is let go of, nobody is left waiting. -/
def finish (s : Supervisor σ) : Supervisor σ :=
  { s with
    running := false
    watchdog := (s.watchdog.step .cancel).2
    sink := s.sink.map Sink.hangUp
    exitCheck := none }.dismiss

/-- When the tick after the one that is due now will be due. -/
def followingTick (s : Supervisor σ) : Moment :=
  if s.nextTick + tickTolerance < s.now then s.now + s.period else s.nextTick + s.period

/-- Deals with one occasion. -/
def serve (s : Supervisor σ) : Occasion → Supervisor σ
  | .cancelled => s.finish
  | .relaunch => s.relaunch P
  | .request ticket request => { s with queue := s.queue.tail }.handle P ticket request
  | .detached => s.onDetached P
  | .exitCheck => s.checkWaiters P
  | .tick => { s with nextTick := s.followingTick }.onTick P

/-- The loop goes round: the exit check is set anew while somebody is parked. -/
def rearm (s : Supervisor σ) : Supervisor σ :=
  { s with exitCheck := if s.waiters.isEmpty then none else some (s.now + exitPollInterval) }

/-- One turn of the loop. -/
def turn (s : Supervisor σ) : Supervisor σ :=
  match s.due? with
  | none => s
  | some occasion => (s.serve P occasion).rearm

/-- A bound on the turns that can be due at one moment: every request, each of the other occasions,
and as many ticks as the tolerance has room for, each of which may schedule a relaunch. -/
def workload (s : Supervisor σ) : Nat := s.queue.length + 4 + 2 * (tickTolerance + 1)

/-- Takes the turns that are due at this moment. -/
def settle (s : Supervisor σ) : Supervisor σ :=
  Nat.repeat (turn P) s.workload s

/-- The loop begins, and the first tick is a period away.  A supervisor without a period between
its ticks ends at once. -/
def begin (s : Supervisor σ) : Supervisor σ :=
  let s := { s with running := true, nextTick := s.now + s.period }
  if s.period = 0 then s.finish else s

/-- Launches the process; if that works, the loop begins. -/
def supervise (spec : Spec) (system : σ) (sink : Option Sink) :
    Except Error Pid × Supervisor σ :=
  match (Supervisor.new spec system sink).launch P with
  | (.ok pid, s) => (.ok pid, s.begin)
  | (.error e, s) => (.error e, s)

/-- A handle sends a request.  A supervisor that has ended answers at once that it has. -/
def send (s : Supervisor σ) (ticket : Ticket) (request : Request) : Supervisor σ :=
  if s.running then { s with queue := s.queue ++ [(ticket, request)] }
  else s.answer ticket (.error (.gone s.spec.name))

/-- The cancellation token fires. -/
def cancel (s : Supervisor σ) : Supervisor σ := { s with cancelled := true }

/-- The last handle is gone. -/
def loseHandles (s : Supervisor σ) : Supervisor σ := { s with handles := false }

/-- The next moment at which the loop has something to do, unless somebody interferes. -/
def nextDeadline? (s : Supervisor σ) : Option Moment :=
  if !s.running then none
  else
    match s.exitCheck with
    | some check => some (min check s.nextTick)
    | none => some s.nextTick

/-- Everything that may happen to a supervisor. -/
inductive Input (σ : Type) where
  /-- The surroundings change on their own. -/
  | world (change : σ → σ)
  | send (ticket : Ticket) (request : Request)
  | cancel
  | loseHandles
  /-- The receiver of the sink fetches notices. -/
  | receive (max : Nat)
  /-- The receiver of the sink goes. -/
  | dropReceiver
  | elapse (ms : Nat)
  /-- The loop takes one turn. -/
  | turn

/-- One input. -/
def step (s : Supervisor σ) : Input σ → Supervisor σ
  | .world change => { s with system := change s.system }
  | .send ticket request => s.send ticket request
  | .cancel => s.cancel
  | .loseHandles => s.loseHandles
  | .receive max => { s with sink := s.sink.map fun sink => (sink.receive max).2 }
  | .dropReceiver => { s with sink := s.sink.map Sink.dropReceiver }
  | .elapse ms => { s with now := s.now + ms }
  | .turn => s.turn P

/-- Any number of inputs. -/
def run (s : Supervisor σ) (inputs : List (Input σ)) : Supervisor σ :=
  inputs.foldl (step P) s

end Overseer.Supervisor
