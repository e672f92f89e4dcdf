import Overseer.Budget
import Overseer.Status

/-!
# The watchdog

The restart policy as a table of transitions.  The watchdog holds no timer and no process: it is
told what a tick observed, and answers what is to be done.

* `Watchdog.step` -- one event.  A tick that repeats the last observation asks for nothing.  A
  changed observation is notified; a change to `terminated` also asks the budget for a relaunch,
  and a change to `zombie` for the exit status to be collected.  After `cancel` every event is
  answered `stopped`.
* `Watchdog.takeRestart` -- picks up the relaunch that a tick scheduled.
-/

namespace Overseer

/-- What the watchdog is told. -/
inductive WatchEvent where
  /-- A tick observed a run state. -/
  | tick (observed : Status)
  /-- The supervision is over. -/
  | cancel
  deriving DecidableEq, Repr

/-- What the restart policy decides on a tick. -/
inductive RestartDecision where
  /-- Nothing to decide. -/
  | skip
  /-- A relaunch is granted and charged. -/
  | relaunch
  /-- A relaunch is scheduled already; this end of the process rides along with it. -/
  | coalesced
  /-- The budget is exhausted. -/
  | exhausted
  deriving DecidableEq, Repr

/-- What is to be done after a tick. -/
structure TickOutcome where
  observed : Status
  /-- The observation, when it differs from the last one. -/
  notify : Option Status
  restart : RestartDecision
  /-- Whether the exit status is to be collected. -/
  reap : Bool
  deriving DecidableEq, Repr

/-- The answer to an event. -/
inductive Verdict where
  | observed (outcome : TickOutcome)
  | stopped
  deriving DecidableEq, Repr

/-- The state of the restart policy. -/
structure Watchdog where
  /-- The last observation. -/
  last : Option Status
  budget : Budget
  /-- A relaunch is granted and not yet carried out. -/
  pending : Bool
  cancelled : Bool
  deriving DecidableEq, Repr

namespace Watchdog

/-- A watchdog that has observed nothing yet. -/
def new (budget : Budget) : Watchdog := ⟨none, budget, false, false⟩

/-- The policy for a process that has just been found terminated. -/
def onTerminated (w : Watchdog) : RestartDecision × Watchdog :=
  if w.pending then (.coalesced, w)
  else
    match w.budget.consume with
    | (true, budget) => (.relaunch, { w with budget, pending := true })
    | (false, budget) => (.exhausted, { w with budget })

/-- A tick's observation. -/
def observe (w : Watchdog) (status : Status) : TickOutcome × Watchdog :=
  if w.last = some status then
    (⟨status, none, .skip, false⟩, w)
  else
    let (restart, w) := if status = .terminated then w.onTerminated else (.skip, w)
    (⟨status, some status, restart, status = .zombie⟩, { w with last := some status })

/-- One event. -/
def step (w : Watchdog) (event : WatchEvent) : Verdict × Watchdog :=
  if w.cancelled then (.stopped, w)
  else
    match event with
    | .cancel => (.stopped, { w with cancelled := true })
    | .tick status =>
      let (outcome, w) := w.observe status
      (.observed outcome, w)

/-- Picks up the scheduled relaunch, if there is one. -/
def takeRestart (w : Watchdog) : Bool × Watchdog :=
  (w.pending, { w with pending := false })

end Watchdog

end Overseer
