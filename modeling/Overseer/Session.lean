import Overseer.Report
import Overseer.Shutdown

/-!
# Sessions

A session is a supervisor together with everybody who talks to it: the handles that are held, and
the callers whose business with the supervisor is not finished.  It lets the time pass as far as it
is told, and at every moment everybody does all that can be done.

* `Session.launch` -- launches the process;
* `Session.call` -- a new caller, who begins at the next `settle`; `Session.abandon` -- a caller
  gives up;
* `Session.settle` -- callers and supervisor go on until nothing more can happen at this moment;
* `Session.advance` -- lets time pass, from one deadline to the next.

At one moment the callers go first: a caller whose time is up acts before the supervisor's tick.
-/

namespace Overseer

/-- What a caller is about. -/
inductive Errand where
  | request (request : Request)
  /-- Ends the supervision as `Shutdown` does. -/
  | shutdown
  /-- Prints the first lines about the process. -/
  | printStarted
  deriving DecidableEq, Repr

/-- How far a caller has come. -/
inductive Stage where
  /-- Not begun. -/
  | fresh (errand : Errand)
  | asked (ticket : Ticket)
  | shuttingDown (shutdown : Shutdown)
  /-- Printing; the process identifier is asked for. -/
  | askedPid (ticket : Ticket)
  /-- Printing; the start time is asked for. -/
  | askedStartTime (ticket : Ticket)
  | returned (answer : Answer)

/-- Somebody who has business with the supervisor, and holds a handle meanwhile. -/
structure Caller where
  /-- The order in which the callers came. -/
  number : Nat
  label : String
  stage : Stage

/-- A supervisor and everybody who talks to it. -/
structure Session (σ : Type) where
  supervisor : Supervisor σ
  /-- Handles held by nobody in particular. -/
  handles : Nat
  callers : List Caller
  nextNumber : Nat
  nextTicket : Ticket
  /-- Answers that were given since the callers last looked. -/
  answers : List (Ticket × Answer)
  /-- What the supervisor did since this was last fetched, the newest first. -/
  events : List Event
  /-- Callers who are done since this was last fetched. -/
  finished : List (Nat × String × Answer)
  /-- What was printed since this was last fetched. -/
  printed : String

namespace Session

variable {σ : Type} (P : Platform σ)

/-- Takes what the supervisor did into the session's own records. -/
def harvest (s : Session σ) : Session σ :=
  let fresh := s.supervisor.trace
  { s with
    supervisor := { s.supervisor with trace := [] }
    events := fresh ++ s.events
    answers := fresh.filterMap (fun event =>
      match event with
      | .answered ticket answer => some (ticket, answer)
      | _ => none) ++ s.answers }

/-- A session with a supervisor and one handle to it. -/
def ofSupervisor (supervisor : Supervisor σ) : Session σ :=
  harvest {
    supervisor
    handles := 1
    callers := []
    nextNumber := 0
    nextTicket := 0
    answers := []
    events := []
    finished := []
    printed := "" }

/-- Launches a process under supervision. -/
def launch (spec : Spec) (system : σ) (sink : Option Sink) : Except Error Pid × Session σ :=
  let (result, supervisor) := Supervisor.supervise P spec system sink
  (result, ofSupervisor supervisor)

/-- Sends a request under a new ticket. -/
def send (s : Session σ) (request : Request) : Ticket × Session σ :=
  (s.nextTicket,
    { s with
      nextTicket := s.nextTicket + 1
      supervisor := s.supervisor.send s.nextTicket request }.harvest)

/-- Prints. -/
def print (s : Session σ) (text : String) : Session σ :=
  { s with printed := s.printed ++ text }

/-- What was answered to a ticket. -/
def answer? (s : Session σ) (ticket : Ticket) : Option Answer :=
  s.answers.lookup ticket

/-- What a shutdown has come to. -/
def ofShutdown (s : Session σ) (shutdown : Shutdown) : Stage × Session σ :=
  match shutdown with
  | .returned (.ok ()) =>
    (.returned (.ok .done), s.print (Report.deleted false s.supervisor.spec.name))
  | .returned (.error e) => (.returned (.error e), s)
  | waiting => (.shuttingDown waiting, s)

/-- A caller goes as far as possible without a new answer. -/
def proceed (s : Session σ) : Stage → Stage × Session σ
  | .fresh (.request request) =>
    let (ticket, s) := s.send request
    (.asked ticket, s)
  | .fresh .shutdown =>
    let (shutdown, supervisor) := Shutdown.begin s.supervisor s.nextTicket
    (.shuttingDown shutdown, { s with nextTicket := s.nextTicket + 1, supervisor }.harvest)
  | .fresh .printStarted =>
    let spec := s.supervisor.spec
    let (ticket, s) := (s.print (Report.started false spec.name spec.command)).send .pid
    (.askedPid ticket, s)
  | .asked ticket =>
    match s.answer? ticket with
    | some answer => (.returned answer, s)
    | none => (.asked ticket, s)
  | .shuttingDown shutdown =>
    let (shutdown, supervisor) := shutdown.resume s.supervisor s.answer? s.nextTicket
    ({ s with nextTicket := s.nextTicket + 1, supervisor }.harvest).ofShutdown shutdown
  | .askedPid ticket =>
    match s.answer? ticket with
    | none => (.askedPid ticket, s)
    | some answer =>
      let s :=
        match answer with
        | .ok (.pid (some pid)) => s.print (Report.pid false pid)
        | _ => s
      let (ticket, s) := s.send .startTime
      (.askedStartTime ticket, s)
  | .askedStartTime ticket =>
    match s.answer? ticket with
    | none => (.askedStartTime ticket, s)
    | some answer =>
      let s :=
        match answer with
        | .ok (.startTime (some time)) => s.print (Report.startTime false ⟨time / 1000⟩)
        | _ => s
      (.returned (.ok .done), s)
  | .returned answer => (.returned answer, s)

/-- One caller's turn.  A caller who is done leaves. -/
def visit (s : Session σ) (caller : Caller) : Session σ :=
  let (stage, s) := s.proceed caller.stage
  match stage with
  | .returned answer =>
    { s with finished := (caller.number, caller.label, answer) :: s.finished }
  | stage => { s with callers := s.callers ++ [{ caller with stage }] }

/-- Everybody who holds a handle. -/
def holders (s : Session σ) : Nat := s.handles + s.callers.length

/-- Every caller has a turn, then the supervisor does what is due. -/
def round (s : Session σ) : Session σ :=
  let s := s.callers.foldl visit { s with callers := [] }
  let supervisor := if s.holders = 0 then s.supervisor.loseHandles else s.supervisor
  { s with supervisor := supervisor.settle P }.harvest

/-- Everybody goes on until nothing more can happen at this moment.  No caller has more than three
stages to go through. -/
def settle (s : Session σ) : Session σ :=
  Nat.repeat (round P) (3 * s.callers.length + 2) s

/-- The next moment, at most `target`, at which somebody has something to do. -/
def nextDeadline (s : Session σ) (target : Moment) : Moment :=
  let deadlines := s.supervisor.nextDeadline?.toList ++ s.callers.filterMap fun caller =>
    match caller.stage with
    | .shuttingDown shutdown => shutdown.deadline?
    | _ => none
  deadlines.foldl min target

/-- Sets the clock. -/
def setClock (s : Session σ) (now : Moment) : Session σ :=
  { s with supervisor := { s.supervisor with now } }

/-- Lets the time pass from `now` to `target`, stopping at every deadline on the way. -/
def advanceTo (s : Session σ) (now target : Moment) : Session σ :=
  if now < target then
    let next := max (now + 1) (s.nextDeadline target)
    advanceTo ((s.setClock next).settle P) next target
  else s
termination_by target - now
decreasing_by
  exact Nat.sub_lt_sub_left ‹_› (Nat.le_max_left (now + 1) (s.nextDeadline target))

/-- Lets the time pass. -/
def advance (s : Session σ) (ms : Nat) : Session σ :=
  s.advanceTo P s.supervisor.now (s.supervisor.now + ms)

/-- A new caller, while there is a handle to call with. -/
def call (s : Session σ) (label : String) (errand : Errand) : Option (Session σ) :=
  if s.handles = 0 then none
  else
    some { s with
      nextNumber := s.nextNumber + 1
      callers := s.callers ++ [⟨s.nextNumber, label, .fresh errand⟩] }

/-- A caller gives up; tells whether there was one. -/
def abandon (s : Session σ) (label : String) : Bool × Session σ :=
  (s.callers.any (·.label == label),
    { s with callers := s.callers.filter (·.label != label) })

/-- Another handle, while there is one to copy. -/
def cloneHandle (s : Session σ) : Option (Session σ) :=
  if s.handles = 0 then none else some { s with handles := s.handles + 1 }

/-- One handle less. -/
def dropHandle (s : Session σ) : Option (Session σ) :=
  if s.handles = 0 then none else some { s with handles := s.handles - 1 }

/-- Fires the cancellation token. -/
def cancel (s : Session σ) : Session σ := { s with supervisor := s.supervisor.cancel }

/-- The receiver of the sink fetches notices. -/
def receive (s : Session σ) (max : Nat) : List Notice × Session σ :=
  match s.supervisor.sink with
  | none => ([], s)
  | some sink =>
    let (notices, sink) := sink.receive max
    (notices, { s with supervisor := { s.supervisor with sink := some sink } })

/-- The receiver of the sink goes. -/
def dropReceiver (s : Session σ) : Session σ :=
  { s with supervisor :=
      { s.supervisor with sink := s.supervisor.sink.map Sink.dropReceiver } }

/-- Changes the surroundings. -/
def changeSystem (s : Session σ) (change : σ → σ) : Session σ :=
  { s with supervisor := { s.supervisor with system := change s.supervisor.system } }

/-- Fetches the callers who are done, in the order in which they came. -/
def takeFinished (s : Session σ) : List (String × Answer) × Session σ :=
  ((s.finished.mergeSort (fun a b => a.1 ≤ b.1)).map (·.2), { s with finished := [] })

/-- Fetches what the supervisor did, the oldest first. -/
def takeEvents (s : Session σ) : List Event × Session σ :=
  (s.events.reverse, { s with events := [], answers := [] })

/-- Fetches what was printed. -/
def takePrinted (s : Session σ) : String × Session σ :=
  (s.printed, { s with printed := "" })

end Session

end Overseer
