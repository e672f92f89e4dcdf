import Overseer.Keyed
import Overseer.Platform

/-!
# A scripted process

Surroundings whose every answer can be set by hand: `ScriptedProcess` holds what the process is
and how each call on it fails, `ScriptedProcess.platform` is the process control and status source
over it.
-/

namespace Overseer

/-- What has become of a scripted process. -/
inductive Life where
  /-- Nothing was started yet. -/
  | unborn
  | alive
  /-- Exited, and its exit status not yet collected. -/
  | zombie
  /-- Exited; the null signal does not find it, its exit status can still be collected. -/
  | dead
  /-- Gone without an exit status. -/
  | vanished
  deriving DecidableEq, Repr

namespace Life

/-- The name of a life. -/
def name : Life → String
  | unborn => ""
  | alive => "alive"
  | zombie => "zombie"
  | dead => "dead"
  | vanished => "vanished"

/-- The life with a name. -/
def ofName? (name : String) : Option Life :=
  [unborn, alive, zombie, dead, vanished].find? (·.name == name)

end Life

/-- How the calls on a scripted process answer. -/
structure Script where
  /-- Why no process can be created. -/
  failStart : Option IoError := none
  /-- The answer to the null signal, in place of the one that follows from the life. -/
  probe : Option (Except Errno Unit) := none
  /-- Signals that are refused, and how. -/
  failSignals : List (Signal × Errno) := []
  /-- Signals that are delivered without effect. -/
  ignored : List Signal := []
  /-- What a process becomes when a signal ends it. -/
  afterKill : Life := .dead
  /-- Why no exit status can be collected. -/
  waitError : Option String := none
  /-- The exit status of a process that has ended. -/
  exit : ExitStatus := ⟨0⟩
  /-- Why the process cannot be let go of. -/
  releaseError : Option String := none
  /-- The run state that is read, in place of the one that follows from the life. -/
  status : Option (Except Error Status) := none
  /-- Why the supervisor's own directory is unknown. -/
  directoryError : Option IoError := none

/-- A scripted process and its script. -/
structure ScriptedProcess where
  pid : Option Pid := none
  life : Life := .unborn
  /-- The exit status, once it was collected. -/
  collected : Option ExitStatus := none
  /-- How many processes were started. -/
  starts : Nat := 0
  script : Script := {}

namespace ScriptedProcess

/-- The specification of a scripted process, with nothing out of the ordinary. -/
def spec (budget : Budget) : Spec where
  name := "mock"
  command := "/bin/mock"
  args := []
  env := []
  cwd := none
  detach := false
  budget
  pollInterval := defaultPollInterval
  stdout := .inherit
  stderr := .inherit
  autoTerminate := false

/-- The identifier of the first process is one above this. -/
def firstPid : Pid := 1000

/-- Creates a process. -/
def start (p : ScriptedProcess) : Except IoError Pid × ScriptedProcess :=
  match p.script.failStart with
  | some e => (.error e, p)
  | none =>
    let pid := firstPid + p.starts + 1
    (.ok pid, { p with pid := some pid, life := .alive, collected := none, starts := p.starts + 1 })

/-- Answers the null signal. -/
def probe (p : ScriptedProcess) : Except Errno Unit :=
  if p.pid.isNone || p.collected.isSome then .error .esrch
  else
    match p.script.probe with
    | some answer => answer
    | none => if p.life = .alive ∨ p.life = .zombie then .ok () else .error .esrch

/-- The life after a delivered signal. -/
def afterSignal (p : ScriptedProcess) (signal : Signal) : Life :=
  let fatal :=
    signal = .kill || (signal = .term && !p.script.ignored.contains .term)
  if fatal && p.life = .alive then p.script.afterKill else p.life

/-- Delivers a signal, or refuses it. -/
def receive (p : ScriptedProcess) (signal : Signal) : Except Errno Unit × ScriptedProcess :=
  if p.pid.isNone || p.collected.isSome || p.life = .vanished then (.error .esrch, p)
  else
    match p.script.failSignals.lookup signal with
    | some e => (.error e, p)
    | none => (.ok (), { p with life := p.afterSignal signal })

/-- Collects the exit status. -/
def tryWait (p : ScriptedProcess) : Except IoError (Option ExitStatus) × ScriptedProcess :=
  match p.script.waitError, p.collected with
  | some text, _ => (.error (.other text), p)
  | none, some status => (.ok (some status), p)
  | none, none =>
    if p.pid.isNone then (.error (.other "no child"), p)
    else if p.life = .alive ∨ p.life = .vanished then (.ok none, p)
    else (.ok (some p.script.exit), { p with collected := some p.script.exit })

/-- Lets go of the process. -/
def release (p : ScriptedProcess) : Except IoError Unit × ScriptedProcess :=
  match p.script.releaseError with
  | some text => (.error (.other text), p)
  | none => (.ok (), { p with pid := none, collected := none })

/-- Reads the run state. -/
def readStatus (p : ScriptedProcess) : Except Error Status :=
  match p.script.status with
  | some answer => answer
  | none =>
    match p.life with
    | .alive => .ok .running
    | .zombie => .ok .zombie
    | _ => .error (.statusRead "gone")

/-- The scripted process as surroundings of a supervisor. -/
def platform : Platform ScriptedProcess where
  workingDirectory p :=
    match p.script.directoryError with
    | some e => .error e
    | none => .ok "."
  start _ _ p := p.start
  pid p := p.pid
  signal signal p :=
    match signal with
    | none => (p.probe, p)
    | some signal => p.receive signal
  tryWait p := p.tryWait
  release p := p.release
  readStatus _ p := (p.readStatus, p)

end ScriptedProcess

end Overseer
