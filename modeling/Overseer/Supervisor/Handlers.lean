import Overseer.Supervisor.Basic

/-!
# What the supervisor does on each occasion

* `launch`, `stopGraceful`, `stopForced`, `sendSignal` -- the operations on the held process;
* `resolveWaiters` -- settles every parked caller once the exit of the held process is known;
* `checkWaiters`, `onTerminated`, `reapZombie` -- the ways in which an exit becomes known;
* `delete`, `restart`, `handle` -- the requests; `onTick`, `relaunch`, `onDetached` -- the other
  occasions.

A parked caller is settled by the exit of the process that was held when it was parked.  A
restart that is parked together with a delete is told that the supervisor has ended.
-/

namespace Overseer.Supervisor

variable {σ : Type} (P : Platform σ)

/-- The directory asked for, or else the supervisor's own. -/
def directory (s : Supervisor σ) : Except IoError String :=
  match s.spec.cwd with
  | some cwd => .ok cwd
  | none => P.workingDirectory s.system

/-- Creates the process in its directory. -/
def attemptLaunch (s : Supervisor σ) : Except Error Pid × Supervisor σ :=
  match s.directory P with
  | .error e => (.error (.workingDirectory e.message), s)
  | .ok directory =>
    match s.start P directory with
    | (.error e, s) => (.error (.launch s.spec.command e), s)
    | (.ok pid, s) => (.ok pid, ({ s with startTime := some s.now }.readStatus P pid).2)

/-- Launches the process and records the start time. -/
def launch (s : Supervisor σ) : Except Error Pid × Supervisor σ :=
  let (result, s) := s.attemptLaunch P
  (result, s.note (.launched result))

/-- No process is held. -/
def noProcess (s : Supervisor σ) : Error := .noProcess s.spec.name

/-- Asks the held process to end. -/
def stopGraceful (s : Supervisor σ) : Except Error Unit × Supervisor σ :=
  match s.pid P with
  | none => (.error s.noProcess, s)
  | some pid =>
    match s.signal P .term with
    | (.error e, s) =>
      (.error (.signal
        s!"process {s.spec.name} (pid {pid}) termination unsuccessful: {e.describe}"), s)
    | (.ok (), s) => (.ok (), { s with startTime := none })

/-- Ends the held process and lets go of it. -/
def stopForced (s : Supervisor σ) : Except Error Unit × Supervisor σ :=
  match s.pid P with
  | none => (.error s.noProcess, s)
  | some pid =>
    match s.signal P .kill with
    | (.error e, s) =>
      (.error (.signal
        s!"process {s.spec.name} (pid {pid}) forced termination unsuccessful: {e.describe}"), s)
    | (.ok (), s) =>
      match s.release P with
      | (.error e, s) =>
        (.error (.release s!"process {s.spec.name} (pid {pid}): {e.message}"), s)
      | (.ok (), s) => (.ok (), { s with startTime := none })

/-- Sends any signal to the held process. -/
def sendSignal (s : Supervisor σ) (signal : Signal) : Except Error Unit × Supervisor σ :=
  match s.pid P with
  | none => (.error s.noProcess, s)
  | some pid =>
    match s.signal P signal with
    | (.error e, s) =>
      (.error (.signal
        s!"failed to send {signal.name} to process {s.spec.name} (pid {pid}): {e.describe}"), s)
    | (.ok (), s) => (.ok (), s)

/-- Launches at once.  A relaunch that the watchdog has scheduled is dropped: it would start a
second process. -/
def relaunchNow (s : Supervisor σ) : Except Error Pid × Supervisor σ :=
  let s := if (s.pid P).isSome then (s.release P).2 else s
  { s with watchdog := s.watchdog.takeRestart.2 }.launch P

/-- Ends the supervision after a deletion. -/
def finishDelete (s : Supervisor σ) (ticket : Option Ticket) (result : Except Error Unit) :
    Supervisor σ :=
  let s := { s with cancelled := true }
  match ticket with
  | some ticket => s.answer ticket (result.map fun () => .done)
  | none => s

/-- Why no exit status is known, as parked callers are told. -/
def waitFailure (s : Supervisor σ) (reason : String) : Error :=
  .wait s!"{s.spec.name}: {reason}"

/-- Answers the callers who only await the exit. -/
def answerWaits (s : Supervisor σ) (answer : Answer) (waiters : List Waiter) : Supervisor σ :=
  waiters.foldl (fun s waiter =>
    match waiter with
    | .wait ticket => s.answer ticket answer
    | _ => s) s

/-- The last parked deletion. -/
def parkedDelete? (waiters : List Waiter) : Option (Option Ticket) :=
  waiters.foldl (fun found waiter =>
    match waiter with
    | .delete ticket => some ticket
    | _ => found) none

/-- The last parked restart. -/
def parkedRestart? (waiters : List Waiter) : Option Ticket :=
  waiters.foldl (fun found waiter =>
    match waiter with
    | .restart ticket => some ticket
    | _ => found) none

/-- Whether nothing is left to stop.  An exit status says so; without one the probe is asked. -/
def nothingLeft (s : Supervisor σ) : Except String ExitStatus → Bool × Supervisor σ
  | .ok _ => (true, s)
  | .error _ =>
    let (living, s) := s.isAlive P
    (!living, s)

/-- Settles every parked caller.  Without an exit status there may still be nothing left to stop,
which is as good for a delete or a restart. -/
def resolveWaiters (s : Supervisor σ) (exit : Except String ExitStatus) : Supervisor σ :=
  if s.waiters.isEmpty then s
  else
    let (gone, s) := s.nothingLeft P exit
    let outcome := exit.mapError s.waitFailure
    let waiters := s.waiters
    let s := { s with waiters := [] }.answerWaits (outcome.map .exited) waiters
    match parkedDelete? waiters, parkedRestart? waiters with
    | some ticket, restart =>
      let s :=
        match restart with
        | some restart => s.answer restart (.error (.gone s.spec.name))
        | none => s
      s.finishDelete ticket (if gone then .ok () else outcome.map fun _ => ())
    | none, some ticket =>
      if gone then
        let (result, s) := s.relaunchNow P
        s.answer ticket (result.map .restarted)
      else
        s.answer ticket (outcome.map .exited)
    | none, none => s

/-- Looks whether the held process has exited, while somebody is parked. -/
def checkWaiters (s : Supervisor σ) : Supervisor σ :=
  if s.waiters.isEmpty then s
  else
    match s.tryWait P with
    | (.ok (some status), s) => s.resolveWaiters P (.ok status)
    | (.ok none, s) => s
    | (.error e, s) => s.resolveWaiters P (.error e.message)

/-- Lets go of a process that the probe found gone. -/
def onTerminated (s : Supervisor σ) : Supervisor σ :=
  match s.pid P with
  | none => s
  | some _ =>
    let (result, s) := s.tryWait P
    let exit :=
      match result with
      | .ok (some status) => .ok status
      | .ok none => .error "process vanished without an exit status"
      | .error e => .error e.message
    let (_, s) := s.release P
    { s with startTime := none }.resolveWaiters P exit

/-- Collects the exit status of a zombie. -/
def reapZombie (s : Supervisor σ) : Supervisor σ :=
  match s.tryWait P with
  | (.ok (some status), s) => s.resolveWaiters P (.ok status)
  | (_, s) => s

/-- A fresh reading of the held process. -/
def observe (s : Supervisor σ) : Status × Supervisor σ :=
  match s.pid P with
  | none => (.terminated, s)
  | some pid =>
    match s.isAlive P with
    | (false, s) => (.terminated, s)
    | (true, s) =>
      match s.readStatus P pid with
      | (.ok status, s) => (status, s)
      | (.error _, s) => (.unavailable, s)

/-- Notes the outcome of a tick, and offers a change to the sink. -/
def record (s : Supervisor σ) (outcome : TickOutcome) : Supervisor σ :=
  let s := (s.note (.observed outcome.observed)).note (.decided outcome.restart)
  match outcome.notify with
  | some status => s.offer status
  | none => s

/-- One tick of the watchdog. -/
def onTick (s : Supervisor σ) : Supervisor σ :=
  let (status, s) := s.observe P
  match s.watchdog.step (.tick status) with
  | (.stopped, watchdog) => { s with watchdog }
  | (.observed outcome, watchdog) =>
    let s := { s with watchdog }.record outcome
    let s := if status = .terminated then s.onTerminated P else s
    if outcome.reap then s.reapZombie P else s

/-- Carries out the relaunch that the watchdog has scheduled. -/
def relaunch (s : Supervisor σ) : Supervisor σ :=
  let (due, watchdog) := s.watchdog.takeRestart
  let s := { s with watchdog }
  if due then (s.launch P).2 else s

/-- Parks a caller and looks at once whether the process has exited. -/
def park (s : Supervisor σ) (waiter : Waiter) : Supervisor σ :=
  { s with waiters := s.waiters ++ [waiter] }.checkWaiters P

/-- Refuses a request because another restart or delete is parked. -/
def refuseBusy (s : Supervisor σ) (ticket : Ticket) : Supervisor σ :=
  s.answer ticket (.error (.busy s.spec.name))

/-- Deletes the process: asks it to end, or ends it by force when it cannot be asked. -/
def delete (s : Supervisor σ) (ticket : Option Ticket) : Supervisor σ :=
  if s.waiters.any Waiter.isDelete then
    match ticket with
    | some ticket => s.refuseBusy ticket
    | none => s
  else
    match s.stopGraceful P with
    | (.ok (), s) => s.park P (.delete ticket)
    | (.error graceful, s) =>
      let (result, s) := s.stopForced P
      s.finishDelete ticket (result.mapError fun forced => .delete s.spec.name graceful forced)

/-- Lets go of a process that exited without any tick noticing. -/
def noticeExit (s : Supervisor σ) : Supervisor σ :=
  match s.pid P with
  | none => s
  | some _ =>
    match s.isAlive P with
    | (true, s) => s
    | (false, s) => s.onTerminated P

/-- Restarts the process. -/
def restart (s : Supervisor σ) (ticket : Ticket) : Supervisor σ :=
  if s.waiters.any (!·.isWait) then s.refuseBusy ticket
  else
    match (s.noticeExit P).stopGraceful P with
    | (.ok (), s) => s.park P (.restart ticket)
    | (.error (.noProcess _), s) =>
      let (result, s) := s.relaunchNow P
      s.answer ticket (result.map .restarted)
    | (.error e, s) => s.answer ticket (.error e)

/-- Serves one request. -/
def handle (s : Supervisor σ) (ticket : Ticket) : Request → Supervisor σ
  | .pid => s.answer ticket (.ok (.pid (s.pid P)))
  | .startTime => s.answer ticket (.ok (.startTime s.startTime))
  | .status =>
    let (status, s) := s.observe P
    s.answer ticket (.ok (.status status))
  | .isAlive =>
    let (living, s) := s.isAlive P
    s.answer ticket (.ok (.alive living))
  | .restartsRemaining => s.answer ticket (.ok (.budget s.watchdog.budget))
  | .stop =>
    let (result, s) := s.stopGraceful P
    s.answer ticket (result.map fun () => .done)
  | .kill =>
    let (result, s) := s.stopForced P
    s.answer ticket (result.map fun () => .done)
  | .signal signal =>
    let (result, s) := s.sendSignal P signal
    s.answer ticket (result.map fun () => .done)
  | .restart => s.restart P ticket
  | .wait =>
    match s.pid P with
    | none => s.answer ticket (.error s.noProcess)
    | some _ => s.park P (.wait ticket)
  | .delete => s.delete P (some ticket)

/-- Deals with the loss of the last handle. -/
def onDetached (s : Supervisor σ) : Supervisor σ :=
  let s := { s with detached := true }
  if s.spec.autoTerminate then s.delete P none else s

end Overseer.Supervisor
