import Overseer.Status

/-!
# Notification sinks

A sink is a bounded queue between the supervisor, which offers it the status changes it observes,
and a receiver.  An offer never waits: it is taken, or dropped because the queue is full, or
refused because the receiver has gone.

* `Sink.offer`, `Sink.hangUp` -- the supervisor's side;
* `Sink.receive`, `Sink.dropReceiver` -- the receiver's side.
-/

namespace Overseer

/-- What became of a status offered to a sink. -/
inductive Delivery where
  | taken
  /-- There was no room. -/
  | full
  /-- The receiver has gone. -/
  | closed
  /-- There is no sink, or the supervisor let go of it. -/
  | unheard
  deriving DecidableEq, Repr

/-- A bounded queue of status changes. -/
structure Sink where
  capacity : Nat
  /-- What the receiver has not fetched yet, oldest first. -/
  queued : List Status
  /-- The receiver is still there. -/
  receiver : Bool
  /-- The supervisor still holds its end. -/
  sender : Bool
  deriving DecidableEq, Repr

/-- What a receiver gets. -/
inductive Notice where
  | status (status : Status)
  /-- Nothing is left and nothing will come. -/
  | closed
  deriving DecidableEq, Repr

namespace Sink

/-- An empty sink. -/
def new (capacity : Nat) : Sink := ⟨capacity, [], true, true⟩

/-- Offers a status.  The supervisor lets go of a sink whose receiver has gone. -/
def offer (sink : Sink) (status : Status) : Delivery × Sink :=
  if !sink.sender then (.unheard, sink)
  else if !sink.receiver then (.closed, { sink with sender := false })
  else if sink.queued.length < sink.capacity then
    (.taken, { sink with queued := sink.queued ++ [status] })
  else (.full, sink)

/-- The supervisor lets go of its end. -/
def hangUp (sink : Sink) : Sink := { sink with sender := false }

/-- The receiver goes. -/
def dropReceiver (sink : Sink) : Sink := { sink with receiver := false, queued := [] }

/-- Fetches at most `max` notices.  Once the supervisor has let go, the end of the queue is a
notice of its own. -/
def receive (sink : Sink) : Nat → List Notice × Sink
  | 0 => ([], sink)
  | max + 1 =>
    if !sink.receiver then ([], sink)
    else
      match sink.queued with
      | [] => (if sink.sender then [] else [.closed], sink)
      | status :: rest =>
        let (notices, sink) := receive { sink with queued := rest } max
        (.status status :: notices, sink)

end Sink

end Overseer
