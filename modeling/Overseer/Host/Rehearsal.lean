import Overseer.CommandLine.Launch
import Overseer.Host.Basic
import Overseer.ProcessControl
import Overseer.Session

/-!
# Rehearsals

A rehearsal lets a process control, or a whole supervision, run on a `Host`.

* `Rehearsal.collect`, `Rehearsal.awaitStatus` -- let time pass until a child has exited, or is in a
  run state;
* `Rehearsal.supervise` -- supervises the process of an entry as the command line does: prints what
  happens, shuts the supervision down once a given text was printed, and ends when the supervisor
  lets go of the sink.
-/

namespace Overseer

/-- A process control on a host. -/
abbrev HostControl := ProcessControl Host

namespace HostControl

/-- A millisecond passes. -/
def tick (c : HostControl) : HostControl := { c with kernel := c.kernel.tick }

/-- Collects the exit status of the child, and lets time pass until there is one. -/
def collect : Nat → HostControl → Except IoError (Option ExitStatus) × HostControl
  | 0, c => c.tryWait Host.kernel
  | bound + 1, c =>
    match c.tryWait Host.kernel with
    | (.ok none, c) => collect bound (tick c)
    | result => result

/-- Reads the run state of the process that is held, and lets time pass until it is the wanted
one. -/
def awaitStatus (wanted : Status) : Nat → HostControl → Except Error Status × HostControl
  | 0, c =>
    let (result, kernel) := Host.readStatus (c.pid.getD 0) c.kernel
    (result, { c with kernel })
  | bound + 1, c =>
    match Host.readStatus (c.pid.getD 0) c.kernel with
    | (.ok status, kernel) =>
      if status = wanted then (.ok status, { c with kernel })
      else awaitStatus wanted bound (tick c)
    | (.error _, _) => awaitStatus wanted bound (tick c)

end HostControl

/-- A supervision under way. -/
structure Rehearsal where
  session : Session HostControl
  /-- What was printed. -/
  printed : String
  /-- The shutdown has been asked for. -/
  asked : Bool
  /-- What the shutdown came to. -/
  outcome : Option (Except Error Unit)
  /-- The supervisor has let go of the sink. -/
  closed : Bool

namespace Rehearsal

/-- How many statuses the sink holds. -/
def capacity : Nat := 32

/-- The label of the caller who prints the first lines. -/
def printer : String := "printer"

/-- The label of the caller who shuts the supervision down. -/
def closer : String := "closer"

/-- Whether a text contains another one. -/
def containsText (text part : String) : Bool :=
  part = "" || 1 < (text.splitOn part).length

/-- The line about a notice. -/
def line (s : Session HostControl) : Notice → String
  | .status status =>
    Report.statusLine false ⟨s.supervisor.now / 1000⟩ s.supervisor.spec.name status
  | .closed => ""

/-- Fetches what the processes themselves have printed. -/
def takeOutput (s : Session HostControl) : String × Session HostControl :=
  let site := s.supervisor.system.kernel.site
  (site.printed, s.changeSystem fun c =>
    { c with kernel := { c.kernel with site := { site with printed := "" } } })

/-- Everybody does what can be done at this moment, and what was printed is taken down.  Whoever is
busy with the shutdown does not look at the sink. -/
def settle (r : Rehearsal) : Rehearsal :=
  let session := r.session.settle (ProcessControl.platform Host.kernel)
  let (text, session) := session.takePrinted
  let (output, session) := takeOutput session
  let (finished, session) := session.takeFinished
  let (_, session) := session.takeEvents
  let outcome := r.outcome.or ((finished.lookup closer).map (·.map fun _ => ()))
  let (notices, session) :=
    if r.asked && outcome.isNone then ([], session) else session.receive (capacity + 1)
  { r with
    session
    outcome
    printed := r.printed ++ text ++ output ++ String.join (notices.map (line session))
    closed := r.closed || notices.contains .closed }

/-- Asks for the shutdown once a text was printed. -/
def askAfter (cue : String) (r : Rehearsal) : Rehearsal :=
  if r.asked || !containsText r.printed cue then r
  else
    match r.session.call closer .shutdown with
    | some session => { r with session, asked := true }.settle
    | none => r

/-- A millisecond passes. -/
def tick (r : Rehearsal) : Rehearsal :=
  let session := r.session.changeSystem HostControl.tick
  { r with session := session.advance (ProcessControl.platform Host.kernel) 1 }

/-- Goes on until the supervisor has let go of the sink. -/
def conclude (cue : String) : Nat → Rehearsal → Rehearsal
  | 0, r => r
  | bound + 1, r =>
    let r := r.settle.askAfter cue
    if r.closed then r else conclude cue bound r.tick

/-- How many milliseconds a rehearsal lasts at most. -/
def longest : Nat := 60000

/-- Supervises the process of an entry.  The answer is what was printed, and what came of it. -/
def supervise (host : Host) (e : Entry) (cue : String) : String × Except Error Unit :=
  let commission := e.toCommission.attach (.new capacity)
  let (launched, session) :=
    Session.launch (ProcessControl.platform Host.kernel) commission.spec (.new host)
      commission.sink
  match launched with
  | .error failure => ("", .error failure)
  | .ok _ =>
    let session := (session.call printer .printStarted).getD session
    let r := conclude cue longest ⟨session, "", false, none, false⟩
    (r.printed, r.outcome.getD (.ok ()))

end Rehearsal

end Overseer
