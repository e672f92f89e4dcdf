import Overseer.Proofs.Supervisor.Accounting
import Overseer.ScriptedProcess

/-!
# The sink disturbs nothing

A supervisor offers status changes to its sink and never looks at what became of them.  So it can be
stripped of the sink: `mute` takes the sink away, and notes every offer as one that nobody heard.

* `mute_launch`, `mute_resolveWaiters`, `mute_onTick`, `mute_handle` and the others -- muting
  commutes with everything that a supervisor does; `mute_step` -- with every input;
* `course` -- the states of a run; `chronicle` -- what is done in it, and when;
* `sink_noninterference` -- two runs that differ in the sink alone have the same course and the same
  chronicle, when both are muted.
-/

namespace Overseer

/-- The event as it is without a sink. -/
def Event.mute : Event → Event
  | offered status _ => .offered status .unheard
  | e => e

namespace Supervisor

variable {σ : Type} {P : Platform σ} {s t : Supervisor σ}

/-- The supervisor as it is without a sink.  All else is kept. -/
def mute (s : Supervisor σ) : Supervisor σ :=
  { s with sink := none, trace := s.trace.map Event.mute }

/-- What an operation returns, muted. -/
def muted {α : Type} (r : α × Supervisor σ) : α × Supervisor σ := (r.1, r.2.mute)

@[simp] theorem muted_mk {α : Type} (a : α) : muted (a, s) = (a, s.mute) := rfl

/-! ## Calls -/

variable (P) (s)

@[simp] theorem mute_pid : s.mute.pid P = s.pid P := rfl

@[simp] theorem mute_signal (signal : Signal) :
    s.mute.signal P signal = muted (s.signal P signal) := rfl

@[simp] theorem mute_probe : s.mute.probe P = muted (s.probe P) := rfl

@[simp] theorem mute_tryWait : s.mute.tryWait P = muted (s.tryWait P) := rfl

@[simp] theorem mute_release : s.mute.release P = muted (s.release P) := rfl

@[simp] theorem mute_readStatus (pid : Pid) :
    s.mute.readStatus P pid = muted (s.readStatus P pid) := rfl

@[simp] theorem mute_start (directory : String) :
    s.mute.start P directory = muted (s.start P directory) := rfl

@[simp] theorem mute_isAlive : s.mute.isAlive P = muted (s.isAlive P) := by
  unfold isAlive
  rw [mute_pid]
  cases s.pid P <;> rfl

@[simp] theorem mute_observe : s.mute.observe P = muted (s.observe P) := by
  unfold observe
  rw [mute_pid, mute_isAlive]
  cases s.pid P with
  | none => rfl
  | some pid =>
    rcases s.isAlive P with ⟨_ | _, t⟩
    · rfl
    · simp only [muted_mk, mute_readStatus]
      rcases t.readStatus P pid with ⟨_ | _, u⟩ <;> rfl

@[simp] theorem mute_stopGraceful : s.mute.stopGraceful P = muted (s.stopGraceful P) := by
  unfold stopGraceful
  rw [mute_pid, mute_signal]
  cases s.pid P with
  | none => rfl
  | some pid => rcases s.signal P .term with ⟨_ | _, t⟩ <;> rfl

@[simp] theorem mute_stopForced : s.mute.stopForced P = muted (s.stopForced P) := by
  unfold stopForced
  rw [mute_pid, mute_signal]
  cases s.pid P with
  | none => rfl
  | some pid =>
    rcases s.signal P .kill with ⟨_ | _, t⟩
    · rfl
    · simp only [muted_mk, mute_release]
      rcases t.release P with ⟨_ | _, u⟩ <;> rfl

@[simp] theorem mute_sendSignal (signal : Signal) :
    s.mute.sendSignal P signal = muted (s.sendSignal P signal) := by
  unfold sendSignal
  rw [mute_pid, mute_signal]
  cases s.pid P with
  | none => rfl
  | some pid => rcases s.signal P signal with ⟨_ | _, t⟩ <;> rfl

/-! ## Launches -/

@[simp] theorem mute_attemptLaunch : s.mute.attemptLaunch P = muted (s.attemptLaunch P) := by
  have hdirectory : s.mute.directory P = s.directory P := rfl
  unfold attemptLaunch
  rw [hdirectory]
  cases s.directory P with
  | error e => rfl
  | ok directory =>
    simp only [mute_start]
    rcases s.start P directory with ⟨_ | _, t⟩ <;> rfl

@[simp] theorem mute_launch : s.mute.launch P = muted (s.launch P) := by
  unfold launch
  rw [mute_attemptLaunch]
  rfl

@[simp] theorem mute_relaunchNow : s.mute.relaunchNow P = muted (s.relaunchNow P) := by
  have hpicked (t : Supervisor σ) : { t.mute with watchdog := t.mute.watchdog.takeRestart.2 } =
      { t with watchdog := t.watchdog.takeRestart.2 }.mute := rfl
  unfold relaunchNow
  rw [mute_pid, mute_release]
  cases (s.pid P).isSome with
  | true => exact (congrArg (launch P) (hpicked _)).trans (mute_launch P _)
  | false => exact (congrArg (launch P) (hpicked _)).trans (mute_launch P _)

@[simp] theorem mute_relaunch : s.mute.relaunch P = (s.relaunch P).mute := by
  have hpicked : { s.mute with watchdog := s.mute.watchdog.takeRestart.2 } =
      { s with watchdog := s.watchdog.takeRestart.2 }.mute := rfl
  have hdue : s.mute.watchdog.takeRestart.1 = s.watchdog.takeRestart.1 := rfl
  unfold relaunch
  dsimp only
  rw [hpicked, hdue, mute_launch]
  split <;> rfl

/-! ## Settling -/

variable {s} in
@[simp] theorem mute_answer (ticket : Ticket) (reply : Answer) :
    s.mute.answer ticket reply = (s.answer ticket reply).mute := rfl

@[simp] theorem mute_answerWaits (reply : Answer) (waiters : List Waiter) :
    s.mute.answerWaits reply waiters = (s.answerWaits reply waiters).mute := by
  unfold answerWaits
  refine List.foldl_hom mute ?_
  intro t waiter
  cases waiter <;> rfl

@[simp] theorem mute_finishDelete (ticket : Option Ticket) (result : Except Error Unit) :
    s.mute.finishDelete ticket result = (s.finishDelete ticket result).mute := by
  cases ticket <;> rfl

@[simp] theorem mute_nothingLeft (exit : Except String ExitStatus) :
    s.mute.nothingLeft P exit = muted (s.nothingLeft P exit) := by
  cases exit with
  | ok status => rfl
  | error reason =>
    unfold nothingLeft
    rw [mute_isAlive]
    rfl

/-- **Settling the parked callers.** -/
@[simp] theorem mute_resolveWaiters (exit : Except String ExitStatus) :
    s.mute.resolveWaiters P exit = (s.resolveWaiters P exit).mute := by
  have hcleared (t : Supervisor σ) :
      { t.mute with waiters := [] } = { t with waiters := [] }.mute := rfl
  have hwaiters (t : Supervisor σ) : t.mute.waiters = t.waiters := rfl
  have hfailure (t : Supervisor σ) : t.mute.waitFailure = t.waitFailure := rfl
  have hspec (t : Supervisor σ) : t.mute.spec = t.spec := rfl
  unfold resolveWaiters
  rw [hwaiters, mute_nothingLeft]
  split
  · rfl
  · rcases s.nothingLeft P exit with ⟨gone, t⟩
    simp only [muted_mk, hwaiters, hfailure, hcleared, mute_answerWaits]
    rcases parkedDelete? t.waiters with _ | ticket <;>
      rcases parkedRestart? t.waiters with _ | restart
    · rfl
    · simp only [mute_relaunchNow]
      split <;> rfl
    · exact mute_finishDelete _ _ _
    · simp only [hspec, mute_answer, mute_finishDelete]

@[simp] theorem mute_checkWaiters : s.mute.checkWaiters P = (s.checkWaiters P).mute := by
  have hwaiters : s.mute.waiters = s.waiters := rfl
  unfold checkWaiters
  rw [hwaiters, mute_tryWait]
  split
  · rfl
  · rcases s.tryWait P with ⟨_ | (_ | _), t⟩
    · exact mute_resolveWaiters P t _
    · rfl
    · exact mute_resolveWaiters P t _

@[simp] theorem mute_onTerminated : s.mute.onTerminated P = (s.onTerminated P).mute := by
  have hcleared (t : Supervisor σ) :
      { t.mute with startTime := none } = { t with startTime := none }.mute := rfl
  unfold onTerminated
  rw [mute_pid]
  cases s.pid P with
  | none => rfl
  | some pid => simp only [mute_tryWait, muted, mute_release, hcleared, mute_resolveWaiters]

@[simp] theorem mute_reapZombie : s.mute.reapZombie P = (s.reapZombie P).mute := by
  unfold reapZombie
  rw [mute_tryWait]
  rcases s.tryWait P with ⟨_ | (_ | _), t⟩
  · rfl
  · rfl
  · exact mute_resolveWaiters P t _

/-! ## Occasions -/

/-- **The offer of a status change** is all in which the two differ. -/
@[simp] theorem mute_offer (status : Status) : s.mute.offer status = (s.offer status).mute := by
  unfold offer
  cases s.sink <;> rfl

@[simp] theorem mute_record (outcome : TickOutcome) :
    s.mute.record outcome = (s.record outcome).mute := by
  unfold record
  cases outcome.notify with
  | none => rfl
  | some status =>
    exact mute_offer ((s.note (.observed outcome.observed)).note (.decided outcome.restart)) status

/-- **A tick.** -/
@[simp] theorem mute_onTick : s.mute.onTick P = (s.onTick P).mute := by
  have hwatched (t : Supervisor σ) (w : Watchdog) :
      { t.mute with watchdog := w } = { t with watchdog := w }.mute := rfl
  have hwatchdog (t : Supervisor σ) : t.mute.watchdog = t.watchdog := rfl
  unfold onTick
  rw [mute_observe]
  rcases s.observe P with ⟨status, t⟩
  simp only [muted_mk, hwatchdog]
  rcases t.watchdog.step (.tick status) with ⟨outcome | _, watchdog⟩
  · simp only [hwatched, mute_record, mute_onTerminated, mute_reapZombie, ← apply_ite mute]
  · rfl

@[simp] theorem mute_park (waiter : Waiter) : s.mute.park P waiter = (s.park P waiter).mute :=
  mute_checkWaiters P { s with waiters := s.waiters ++ [waiter] }

@[simp] theorem mute_delete (ticket : Option Ticket) :
    s.mute.delete P ticket = (s.delete P ticket).mute := by
  have hwaiters : s.mute.waiters = s.waiters := rfl
  unfold delete
  rw [hwaiters]
  split
  · cases ticket <;> rfl
  · rw [mute_stopGraceful]
    rcases s.stopGraceful P with ⟨_ | _, t⟩
    · simp only [mute_stopForced, muted, mute_finishDelete]
      rfl
    · exact mute_park P t _

@[simp] theorem mute_noticeExit : s.mute.noticeExit P = (s.noticeExit P).mute := by
  unfold noticeExit
  rw [mute_pid, mute_isAlive]
  cases s.pid P with
  | none => rfl
  | some pid =>
    rcases s.isAlive P with ⟨_ | _, t⟩
    · exact mute_onTerminated P t
    · rfl

@[simp] theorem mute_restart (ticket : Ticket) :
    s.mute.restart P ticket = (s.restart P ticket).mute := by
  have hwaiters : s.mute.waiters = s.waiters := rfl
  unfold restart
  rw [hwaiters, mute_noticeExit, mute_stopGraceful]
  split
  · rfl
  · rcases (s.noticeExit P).stopGraceful P with ⟨e | _, t⟩
    · cases e
      case noProcess => simp only [mute_relaunchNow, muted, mute_answer]
      all_goals rfl
    · exact mute_park P t _

/-- **A request.** -/
@[simp] theorem mute_handle (ticket : Ticket) (request : Request) :
    s.mute.handle P ticket request = (s.handle P ticket request).mute := by
  cases request with
  | pid | startTime | restartsRemaining => rfl
  | status => simp only [handle, mute_observe, muted, mute_answer]
  | isAlive => simp only [handle, mute_isAlive, muted, mute_answer]
  | stop => simp only [handle, mute_stopGraceful, muted, mute_answer]
  | kill => simp only [handle, mute_stopForced, muted, mute_answer]
  | signal signal => simp only [handle, mute_sendSignal, muted, mute_answer]
  | restart => exact mute_restart P s ticket
  | delete => exact mute_delete P s (some ticket)
  | wait =>
    simp only [handle, mute_pid]
    cases s.pid P with
    | none => rfl
    | some pid => exact mute_park P s _

@[simp] theorem mute_onDetached : s.mute.onDetached P = (s.onDetached P).mute := by
  have hspec : s.mute.spec = s.spec := rfl
  unfold onDetached
  dsimp only
  rw [hspec]
  split
  · exact mute_delete P { s with detached := true } none
  · rfl

/-! ## The loop -/

/-- **What is due does not depend on the sink**, nor does the moment at which it will be. -/
@[simp] theorem mute_due? : s.mute.due? = s.due? := rfl

@[simp] theorem mute_finish : s.mute.finish = s.finish.mute := by
  have htrace : s.finish.trace.map Event.mute =
      (s.pendingTickets.map (Event.answered · (.error (.gone s.spec.name)))).reverse ++
        s.trace.map Event.mute := by
    rw [congrArg Supervisor.trace finish_eq, List.map_append, List.map_reverse, List.map_map]
    rfl
  change s.mute.finish = { s.finish with sink := none, trace := s.finish.trace.map Event.mute }
  rw [htrace, finish_eq, finish_eq]
  rfl

@[simp] theorem mute_turn : s.mute.turn P = (s.turn P).mute := by
  unfold turn
  rw [mute_due?]
  cases s.due? with
  | none => rfl
  | some occasion =>
    have hrearm (t : Supervisor σ) : t.mute.rearm = t.rearm.mute := rfl
    have hserve : s.mute.serve P occasion = (s.serve P occasion).mute := by
      cases occasion with
      | cancelled => exact mute_finish s
      | relaunch => exact mute_relaunch P s
      | request ticket request =>
        exact mute_handle P { s with queue := s.queue.tail } ticket request
      | detached => exact mute_onDetached P s
      | exitCheck => exact mute_checkWaiters P s
      | tick => exact mute_onTick P (s.opened .tick)
    simp only [hserve, hrearm]

/-- **Every input.** -/
@[simp] theorem mute_step (input : Input σ) : step P s.mute input = (step P s input).mute := by
  cases input with
  | turn => exact mute_turn P s
  | send ticket request =>
    have hrunning : s.mute.running = s.running := rfl
    simp only [step, send, hrunning]
    split <;> rfl
  | _ => rfl

/-! ## Runs -/

/-- The receiver of the sink does something, and nobody else. -/
def Input.isReceiving : Input σ → Bool
  | receive _ | dropReceiver => true
  | _ => false

/-- What the receiver does is lost on a supervisor without a sink. -/
theorem step_receiving {input : Input σ} (h : input.isReceiving = true) :
    (step P s input).mute = s.mute := by
  cases input with
  | receive max => rfl
  | dropReceiver => rfl
  | _ => cases h

/-- What happens in a run but for what the receiver of the sink does. -/
def unreceived (inputs : List (Input σ)) : List (Input σ) := inputs.filter (!·.isReceiving)

/-- The states that a run comes to, whenever anything but the receiver of the sink acts, and at the
end. -/
def course (s : Supervisor σ) : List (Input σ) → List (Supervisor σ)
  | [] => [s]
  | input :: rest =>
    if input.isReceiving then course (step P s input) rest
    else s :: course (step P s input) rest

/-- What is done from `s` to `t`, the oldest first. -/
def since (s t : Supervisor σ) : List Event :=
  (t.trace.take (t.trace.length - s.trace.length)).reverse

/-- What is done in a run, and when, the oldest first. -/
def chronicle (s : Supervisor σ) : List (Input σ) → List (Moment × Event)
  | [] => []
  | input :: rest =>
    (s.since (step P s input)).map (s.now, ·) ++ chronicle (step P s input) rest

/-- **The states of a run**, muted, are those of the muted run. -/
theorem course_mute (inputs : List (Input σ)) :
    (course P s inputs).map mute = course P s.mute (unreceived inputs) := by
  induction inputs generalizing s with
  | nil => rfl
  | cons input rest ih =>
    rw [course]
    cases hreceiving : input.isReceiving with
    | true =>
      have hunreceived : unreceived (input :: rest) = unreceived rest :=
        List.filter_cons_of_neg (by simp [hreceiving])
      rw [if_pos rfl, ih, step_receiving P s hreceiving, hunreceived]
    | false =>
      have hunreceived : unreceived (input :: rest) = input :: unreceived rest :=
        List.filter_cons_of_pos (by simp [hreceiving])
      rw [if_neg (by simp), List.map_cons, ih, hunreceived, course, if_neg (by simp [hreceiving]),
        mute_step]

/-- What is done between two muted supervisors. -/
theorem mute_since : s.mute.since t.mute = (s.since t).map Event.mute := by
  have hlength (u : Supervisor σ) : u.mute.trace.length = u.trace.length := List.length_map _
  unfold since
  rw [hlength, hlength, List.map_reverse, List.map_take]
  rfl

/-- The receiver of the sink does nothing that the supervisor does. -/
theorem since_receiving {input : Input σ} (h : input.isReceiving = true) :
    s.since (step P s input) = [] := by
  have htrace : (step P s input).trace = s.trace := by
    cases input with
    | receive max => rfl
    | dropReceiver => rfl
    | _ => cases h
  rw [since, htrace, Nat.sub_self, List.take_zero, List.reverse_nil]

/-- **What is done in a run**, and when, is what is done in the muted run. -/
theorem chronicle_mute (inputs : List (Input σ)) :
    (chronicle P s inputs).map (Prod.map id Event.mute) =
      chronicle P s.mute (unreceived inputs) := by
  induction inputs generalizing s with
  | nil => rfl
  | cons input rest ih =>
    rw [chronicle]
    cases hreceiving : input.isReceiving with
    | true =>
      have hunreceived : unreceived (input :: rest) = unreceived rest :=
        List.filter_cons_of_neg (by simp [hreceiving])
      rw [since_receiving P s hreceiving, List.map_nil, List.nil_append, ih,
        step_receiving P s hreceiving, hunreceived]
    | false =>
      have hunreceived : unreceived (input :: rest) = input :: unreceived rest :=
        List.filter_cons_of_pos (by simp [hreceiving])
      rw [List.map_append, ih, hunreceived, chronicle, mute_step, mute_since, List.map_map,
        List.map_map]
      rfl

variable (spec : Spec) (system : σ)

/-- The loop begins the same. -/
@[simp] theorem mute_begin : s.mute.begin = s.begin.mute := by
  have hperiod : s.mute.period = s.period := rfl
  have hbegun : { s.mute with running := true, nextTick := s.mute.now + s.mute.period } =
    { s with running := true, nextTick := s.now + s.period }.mute := rfl
  unfold begin
  simp only [hbegun, mute_finish, ← apply_ite mute]
  rfl

/-- **The supervision begins the same**, whatever the sink. -/
theorem supervise_mute (sink : Option Sink) :
    muted (supervise P spec system sink) = supervise P spec system none := by
  have hnew : (Supervisor.new spec system sink).mute = Supervisor.new spec system none := rfl
  unfold supervise
  rw [← hnew, mute_launch]
  rcases (Supervisor.new spec system sink).launch P with ⟨e | pid, t⟩
  · rfl
  · exact congrArg (Prod.mk _) (mute_begin t).symm

/-- **The sink disturbs nothing.**  Two supervisions of one process, each with any sink or none, on
which all happens alike but for what the receivers of the sinks do: they begin the same; whenever
anything happens, and at the end, the two supervisors are the same but for the sink; and the two do
the same, at the same moments, but for what becomes of the offers. -/
theorem sink_noninterference (sink sink' : Option Sink) {inputs inputs' : List (Input σ)}
    (h : unreceived inputs = unreceived inputs') :
    (supervise P spec system sink).1 = (supervise P spec system sink').1 ∧
      (course P (supervise P spec system sink).2 inputs).map mute =
        (course P (supervise P spec system sink').2 inputs').map mute ∧
      (chronicle P (supervise P spec system sink).2 inputs).map (Prod.map id Event.mute) =
        (chronicle P (supervise P spec system sink').2 inputs').map (Prod.map id Event.mute) := by
  have hbegun : muted (supervise P spec system sink) = muted (supervise P spec system sink') :=
    (supervise_mute P spec system sink).trans (supervise_mute P spec system sink').symm
  have hmute : (supervise P spec system sink).2.mute = (supervise P spec system sink').2.mute :=
    congrArg Prod.snd hbegun
  have hlaunched : (muted (supervise P spec system sink)).1 =
      (muted (supervise P spec system sink')).1 := congrArg Prod.fst hbegun
  refine ⟨hlaunched, ?_, ?_⟩
  · rw [course_mute, course_mute, hmute, h]
  · rw [chronicle_mute, chronicle_mute, hmute, h]

/-- The process is seen running and then vanishes; in between, the receiver of the sink goes. -/
def deserted : List (Input ScriptedProcess) :=
  [.elapse 1000, .turn, .dropReceiver, .world ({ · with life := .vanished }), .elapse 1000, .turn,
    .turn]

/-- A supervisor that finds its sink closed relaunches like one that never had a sink. -/
theorem deserted_like_unheard :
    .offered .terminated .closed ∈
        (reached ScriptedProcess.platform (ScriptedProcess.spec .infinite) {}
          (some (.new 1)) deserted).trace ∧
      (chronicle ScriptedProcess.platform
          (supervise ScriptedProcess.platform (ScriptedProcess.spec .infinite) {}
            (some (.new 1))).2 deserted).map (Prod.map id Event.mute) =
        (chronicle ScriptedProcess.platform
          (supervise ScriptedProcess.platform (ScriptedProcess.spec .infinite) {} none).2
          (unreceived deserted)).map (Prod.map id Event.mute) := by
  have htrace : (reached ScriptedProcess.platform (ScriptedProcess.spec .infinite) {}
      (some (.new 1)) deserted).trace[5]? = some (.offered .terminated .closed) := rfl
  have halike : unreceived deserted = unreceived (unreceived deserted) := rfl
  exact ⟨List.mem_of_getElem? htrace,
    (sink_noninterference ScriptedProcess.platform (ScriptedProcess.spec .infinite) {}
      (some (.new 1)) none halike).2.2⟩

end Supervisor

end Overseer
