import Overseer.Supervisor.Loop

/-!
# Shutting down

`Shutdown` is a caller who ends a supervision: it has the process deleted, and when that is not
done within `Shutdown.timeout` it gives up the deletion and has the process killed.  When either
fails, the caller fires the cancellation token, so that the supervision ends all the same.

`Shutdown.begin` takes the first step, `Shutdown.resume` every later one that is possible.
-/

namespace Overseer

/-- A caller who ends a supervision. -/
inductive Shutdown where
  /-- The deletion is asked for. -/
  | deleting (ticket : Ticket) (deadline : Moment)
  /-- The deletion took too long, and the kill is asked for. -/
  | killing (ticket : Ticket)
  | returned (result : Except Error Unit)

namespace Shutdown

variable {σ : Type}

/-- Milliseconds a deletion may take. -/
def timeout : Nat := 10000

/-- Asks for the deletion. -/
def begin (s : Supervisor σ) (ticket : Ticket) : Shutdown × Supervisor σ :=
  (.deleting ticket (s.now + timeout), s.send ticket .delete)

/-- Returns what the supervisor answered. -/
def conclude (s : Supervisor σ) : Answer → Shutdown × Supervisor σ
  | .ok _ => (.returned (.ok ()), s)
  | .error e => (.returned (.error e), s.cancel)

/-- Goes on, when there is an answer or the time is up.  `answer?` tells what was answered so far,
and `fresh` is a ticket nobody has used. -/
def resume (s : Supervisor σ) (answer? : Ticket → Option Answer) (fresh : Ticket) :
    Shutdown → Shutdown × Supervisor σ
  | .deleting ticket deadline =>
    match answer? ticket with
    | some answer => conclude s answer
    | none =>
      if deadline ≤ s.now then (.killing fresh, s.send fresh .kill)
      else (.deleting ticket deadline, s)
  | .killing ticket =>
    match answer? ticket with
    | some answer => conclude s answer
    | none => (.killing ticket, s)
  | .returned result => (.returned result, s)

/-- The moment at which the time is up. -/
def deadline? : Shutdown → Option Moment
  | deleting _ deadline => some deadline
  | _ => none

end Shutdown

end Overseer
