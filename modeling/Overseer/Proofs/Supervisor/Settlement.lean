import Overseer.Proofs.Supervisor.Conservation
import Overseer.ScriptedProcess

/-!
# What the parked callers are told

Once the exit of the held process is known, or is known to stay unknown, everybody who is parked is
told what came of it: the callers who only wait first and in order, then a restart, then a delete.

* `NothingLeft` -- when there is nothing left to stop; `nothingLeft_iff`;
* `inTurn` -- in which order the parked callers are told, and `due` -- what they are told;
* `Deals replies launched s t` -- from `s` to `t` these replies were given and these launches
  attempted; `told_deals`, `relaunchNow_deals` and `finishDelete_deals` say so of the parts of a
  settling;
* `Settled` -- a settling as a whole;
* `settling_complete` -- with at most one delete and one restart, whoever else is parked and however
  the process ended.
-/

namespace Overseer

namespace Event

/-- An answer, and whom it is given. -/
def reply? : Event → Option (Ticket × Answer)
  | answered ticket answer => some (ticket, answer)
  | _ => none

/-- What a launch that was attempted came to. -/
def launch? : Event → Option (Except Error Pid)
  | launched result => some result
  | _ => none

/-- Somebody was told something, or the null signal was sent.  Nothing else was asked of the process
control. -/
def isQuiet : Event → Bool
  | answered .. | probed _ => true
  | _ => false

end Event

namespace Supervisor

variable {σ : Type} {P : Platform σ} {s t u : Supervisor σ}

/-! ## Who is told what -/

/-- **Nothing is left to stop**: an exit status is known, or no process is held, or the null signal
finds none. -/
def NothingLeft (P : Platform σ) (s : Supervisor σ) (exit : Except String ExitStatus) : Prop :=
  (∃ status, exit = .ok status) ∨ s.pid P = none ∨ (P.signal none s.system).1 = .error .esrch

theorem nothingLeft_iff {exit : Except String ExitStatus} :
    (s.nothingLeft P exit).1 = true ↔ s.NothingLeft P exit := by
  cases exit with
  | ok status => exact iff_of_true rfl (.inl ⟨status, rfl⟩)
  | error reason =>
    have hunknown : ¬ ∃ status, (.error reason : Except String ExitStatus) = .ok status := nofun
    rw [NothingLeft, or_iff_right hunknown]
    unfold nothingLeft isAlive
    cases hpid : s.pid P with
    | none => exact iff_of_true rfl (.inl rfl)
    | some pid =>
      have hprobe : (s.probe P).1 = (P.signal none s.system).1 := rfl
      simp only [hprobe, Bool.not_eq_true', reduceCtorEq, false_or]
      constructor
      · exact alive_eq_false
      · intro h
        rw [h]
        rfl

instance (exit : Except String ExitStatus) : Decidable (s.NothingLeft P exit) :=
  decidable_of_iff _ nothingLeft_iff

/-- The parked callers in the order in which they are told. -/
def inTurn (waiters : List Waiter) : List Waiter :=
  waiters.filter Waiter.isWait ++ waiters.filter Waiter.isRestart ++
    waiters.filter Waiter.isDelete

/-- What a parked caller is told, with what a launch came to, if one was attempted.  A restart
beside a delete is told that the supervision has ended. -/
def due (P : Platform σ) (s : Supervisor σ) (exit : Except String ExitStatus)
    (launched : Option (Except Error Pid)) : Waiter → Option (Ticket × Answer)
  | .wait ticket => some (ticket, s.exitAnswer exit)
  | .restart ticket =>
    if s.waiters.any Waiter.isDelete then some (ticket, .error (.gone s.spec.name))
    else
      match launched with
      | some result => some (ticket, result.map .restarted)
      | none => some (ticket, s.exitAnswer exit)
  | .delete ticket =>
    ticket.map (·, if s.NothingLeft P exit then .ok .done else s.exitAnswer exit)

/-! ## Replies and launches -/

/-- From `s` to `t` these replies were given, in this order, and these launches attempted.  Without
a launch nothing else was done but to send the null signal. -/
def Deals (replies : List (Ticket × Answer)) (launched : List (Except Error Pid))
    (s t : Supervisor σ) : Prop :=
  ∃ done, t.trace = done ++ s.trace ∧ (done.filterMap Event.reply?).reverse = replies ∧
    done.filterMap Event.launch? = launched ∧
    (launched = [] → ∀ e ∈ done, e.isQuiet = true)

theorem Deals.of_trace_eq (h : t.trace = s.trace) : Deals [] [] s t :=
  ⟨[], h, rfl, rfl, fun _ => nofun⟩

theorem Deals.trans {replies replies' : List (Ticket × Answer)}
    {launched launched' : List (Except Error Pid)} (hst : Deals replies launched s t)
    (htu : Deals replies' launched' t u) :
    Deals (replies ++ replies') (launched' ++ launched) s u := by
  obtain ⟨first, hfirst, rfl, rfl, hquiet⟩ := hst
  obtain ⟨second, hsecond, rfl, rfl, hquiet'⟩ := htu
  refine ⟨second ++ first, ?_, ?_, List.filterMap_append, fun hnone => ?_⟩
  · rw [hsecond, hfirst, List.append_assoc]
  · rw [List.filterMap_append, List.reverse_append]
  · obtain ⟨hnone', hnone⟩ := List.append_eq_nil_iff.mp hnone
    exact List.forall_mem_append.mpr ⟨hquiet' hnone', hquiet hnone⟩

theorem Deals.answer (ticket : Ticket) (reply : Answer) :
    Deals [(ticket, reply)] [] s (s.answer ticket reply) :=
  ⟨[.answered ticket reply], rfl, rfl, rfl, fun _ _ he => List.mem_singleton.mp he ▸ rfl⟩

theorem isAlive_deals : Deals [] [] s (s.isAlive P).2 := by
  unfold isAlive
  split
  · exact .of_trace_eq rfl
  · exact ⟨[.probed _], rfl, rfl, rfl, fun _ _ he => List.mem_singleton.mp he ▸ rfl⟩

theorem nothingLeft_deals (exit : Except String ExitStatus) :
    Deals [] [] s (s.nothingLeft P exit).2 := by
  cases exit with
  | ok status => exact .of_trace_eq rfl
  | error reason => exact isAlive_deals

/-- The callers who only wait are all told the same. -/
theorem told_deals (exit : Except String ExitStatus) :
    Deals ((s.waiters.filterMap Waiter.awaits?).map (·, s.exitAnswer exit)) [] s
      (s.told P exit) := by
  have hwaits : Deals ((s.waiters.filterMap Waiter.awaits?).map (·, s.exitAnswer exit)) []
      (s.nothingLeft P exit).2 (s.told P exit) := by
    refine ⟨_, told_trace P s exit, ?_, ?_, fun _ e he => ?_⟩
    · rw [List.filterMap_reverse, List.reverse_reverse, List.filterMap_map]
      exact congrFun List.filterMap_eq_map _
    · rw [List.filterMap_reverse, List.filterMap_map]
      simp [Function.comp_def, Event.launch?]
    · obtain ⟨ticket, rfl⟩ := eq_answered_of_mem he
      rfl
  exact (nothingLeft_deals exit).trans hwaits

variable (P s) in
theorem launch_deals : Deals [] [(s.launch P).1] s (s.launch P).2 := by
  rcases launch_cases P s with
    ⟨e, _, -, hresult, h⟩ | ⟨e, cause, hresult, h⟩ | ⟨pid, reading, hresult, h⟩ <;> rw [hresult]
  · exact ⟨[.launched (.error e)], h, rfl, rfl, nofun⟩
  · exact ⟨[.launched (.error e), .started (.error cause)], h, rfl, rfl, nofun⟩
  · exact ⟨[.launched (.ok pid), .statusRead reading, .started (.ok pid)], h, rfl, rfl, nofun⟩

variable (P s) in
/-- Launching at once attempts one launch. -/
theorem relaunchNow_deals : Deals [] [(s.relaunchNow P).1] s (s.relaunchNow P).2 := by
  unfold relaunchNow
  split
  · obtain ⟨done, htrace, hreplies, hlaunched, -⟩ :=
      launch_deals P { (s.release P).2 with watchdog := (s.release P).2.watchdog.takeRestart.2 }
    refine ⟨done ++ [.released (P.release s.system).1], ?_, ?_, ?_, nofun⟩
    · rw [htrace, List.append_assoc]
      rfl
    · rw [List.filterMap_append]
      exact (congrArg _ (List.append_nil _)).trans hreplies
    · rw [List.filterMap_append]
      exact (List.append_nil _).trans hlaunched
  · exact launch_deals P { s with watchdog := s.watchdog.takeRestart.2 }

theorem finishDelete_deals (ticket : Option Ticket) (result : Except Error Unit) :
    Deals (ticket.toList.map (·, result.map fun () => .done)) [] s
      (s.finishDelete ticket result) := by
  cases ticket with
  | none => exact .of_trace_eq rfl
  | some ticket => exact Deals.answer (s := { s with cancelled := true }) ticket _

/-! ## The settling as a whole -/

/-- Among at most one of a kind, one that is there is the only one. -/
theorem filter_eq_singleton {waiters : List Waiter} {kind : Waiter → Bool} {waiter : Waiter}
    (h : waiters.countP kind ≤ 1) (hmem : waiter ∈ waiters) (hkind : kind waiter = true) :
    waiters.filter kind = [waiter] := by
  have hfound : waiter ∈ waiters.filter kind := List.mem_filter.mpr ⟨hmem, hkind⟩
  have hlength : (waiters.filter kind).length = 1 := by
    have hpos := List.length_pos_of_mem hfound
    rw [← List.countP_eq_length_filter] at hpos ⊢
    omega
  obtain ⟨other, honly⟩ := List.length_eq_one_iff.mp hlength
  rw [honly] at hfound ⊢
  rw [List.mem_singleton.mp hfound]

theorem filter_eq_nil_of_any {waiters : List Waiter} {kind : Waiter → Bool}
    (h : waiters.any kind = false) : waiters.filter kind = [] :=
  List.filter_eq_nil_iff.mpr (List.any_eq_false.mp h)

/-- **With at most one delete and one restart**, those whom the settling finds are told after all
others. -/
theorem inTurn_eq {waiters : List Waiter} (h : OneStop waiters) :
    inTurn waiters = waiters.filter Waiter.isWait ++
      (parkedRestart? waiters).toList.map .restart ++
      (parkedDelete? waiters).toList.map .delete := by
  have hrestart : waiters.filter Waiter.isRestart =
      (parkedRestart? waiters).toList.map .restart := by
    cases hfound : parkedRestart? waiters with
    | none => exact filter_eq_nil_of_any (parkedRestart?_eq_none_iff.mp hfound)
    | some ticket => exact filter_eq_singleton h.restarts (parkedRestart?_mem hfound) rfl
  have hdelete : waiters.filter Waiter.isDelete = (parkedDelete? waiters).toList.map .delete := by
    cases hfound : parkedDelete? waiters with
    | none => exact filter_eq_nil_of_any (parkedDelete?_eq_none_iff.mp hfound)
    | some ticket => exact filter_eq_singleton h.deletes (parkedDelete?_mem hfound) rfl
  rw [inTurn, hrestart, hdelete]

/-- What the parked callers are told, one after the other. -/
def dues (P : Platform σ) (s : Supervisor σ) (exit : Except String ExitStatus)
    (launched : Option (Except Error Pid)) : List (Ticket × Answer) :=
  (inTurn s.waiters).filterMap (s.due P exit launched)

theorem dues_eq (h : OneStop s.waiters) (exit : Except String ExitStatus)
    (launched : Option (Except Error Pid)) :
    s.dues P exit launched = (s.waiters.filterMap Waiter.awaits?).map (·, s.exitAnswer exit) ++
      ((parkedRestart? s.waiters).toList.map .restart).filterMap (s.due P exit launched) ++
      ((parkedDelete? s.waiters).toList.map .delete).filterMap (s.due P exit launched) := by
  have hwaits : (s.waiters.filter Waiter.isWait).filterMap (s.due P exit launched) =
      (s.waiters.filterMap Waiter.awaits?).map (·, s.exitAnswer exit) := by
    rw [List.filterMap_filter, List.map_filterMap]
    congr 1
    funext waiter
    cases waiter <;> rfl
  rw [dues, inTurn_eq h, List.filterMap_append, List.filterMap_append, hwaits]

/-- **A settling as a whole.**  Nobody stays parked, and everybody is told, each in turn.  A delete
fires the cancellation token.  One launch is attempted if there is a restart but no delete and
nothing is left to stop, and none otherwise; without one nothing else is done but to send the null
signal. -/
structure Settled (P : Platform σ) (exit : Except String ExitStatus) (s t : Supervisor σ)
    (launched : Option (Except Error Pid)) : Prop where
  emptied : t.waiters = []
  /-- The callers who only wait are told the exit status, or why none is known. -/
  answer : s.exitAnswer exit =
    match exit with
    | .ok status => .ok (.exited status)
    | .error reason => .error (.wait s!"{s.spec.name}: {reason}")
  dealt : Deals (s.dues P exit launched) launched.toList s t
  launches : launched.isSome = true ↔
    s.waiters.any Waiter.isRestart = true ∧ s.waiters.any Waiter.isDelete = false ∧
      s.NothingLeft P exit
  cancelled : t.cancelled = (s.cancelled || s.waiters.any Waiter.isDelete)

theorem exitAnswer_eq (exit : Except String ExitStatus) :
    s.exitAnswer exit =
      match exit with
      | .ok status => .ok (.exited status)
      | .error reason => .error (.wait s!"{s.spec.name}: {reason}") := by
  cases exit <;> rfl

theorem told_cancelled (exit : Except String ExitStatus) :
    (s.told P exit).cancelled = s.cancelled := by
  rw [told_frame, (nothingLeft_calls P s exit).keeps]

variable (P s) in
theorem relaunchNow_cancelled : (s.relaunchNow P).2.cancelled = s.cancelled := by
  unfold relaunchNow
  split <;> rw [launch_keeps]
  rfl

/-- What a delete is told. -/
theorem deleteAnswer_eq (exit : Except String ExitStatus) :
    (if (s.nothingLeft P exit).1 then .ok ()
        else (exit.mapError s.waitFailure).map fun _ => ()).map (fun () => Reply.done) =
      if s.NothingLeft P exit then .ok .done else s.exitAnswer exit := by
  by_cases hleft : s.NothingLeft P exit
  · rw [if_pos hleft, if_pos (nothingLeft_iff.mpr hleft)]
    rfl
  · rw [if_neg hleft, if_neg (nothingLeft_iff.not.mpr hleft)]
    cases exit with
    | ok status => exact absurd (.inl ⟨status, rfl⟩) hleft
    | error reason => rfl

variable {exit : Except String ExitStatus}

/-- With a delete everybody else is told first. -/
theorem Settled.of_deleted {ticket : Option Ticket} (h : OneStop s.waiters)
    (parked : parkedDelete? s.waiters = some ticket) (emptied : t.waiters = [])
    (result : t =
      (match parkedRestart? s.waiters with
        | some restart => (s.told P exit).answer restart (.error (.gone s.spec.name))
        | none => s.told P exit).finishDelete ticket
          (if (s.nothingLeft P exit).1 then .ok ()
            else (exit.mapError s.waitFailure).map fun _ => ())) :
    Settled P exit s t none := by
  have hany : s.waiters.any Waiter.isDelete = true :=
    List.any_eq_true.mpr ⟨_, parkedDelete?_mem parked, rfl⟩
  refine ⟨emptied, exitAnswer_eq exit, ?_, ?_, ?_⟩
  · have hdelete : ([ticket].map Waiter.delete).filterMap (s.due P exit none) =
        ticket.toList.map (·, if s.NothingLeft P exit then .ok .done else s.exitAnswer exit) := by
      cases ticket <;> rfl
    rw [result, dues_eq h, parked, Option.toList_some, hdelete, ← deleteAnswer_eq]
    refine Deals.trans ?_ (finishDelete_deals ticket _)
    cases parkedRestart? s.waiters with
    | none =>
      rw [Option.toList_none, List.map_nil, List.filterMap_nil, List.append_nil]
      exact told_deals exit
    | some restart =>
      have hrestart : ([restart].map Waiter.restart).filterMap (s.due P exit none) =
          [(restart, .error (.gone s.spec.name))] := by
        simp [due, hany]
      rw [Option.toList_some, hrestart]
      exact (told_deals exit).trans (.answer restart _)
  · simp [hany]
  · rw [result, finishDelete_cancelled, hany, Bool.or_true]

/-- Without a delete a restart is told by itself, after everybody else. -/
theorem dues_eq_of_restart {ticket : Ticket} {launched : Option (Except Error Pid)}
    (h : OneStop s.waiters) (noDelete : parkedDelete? s.waiters = none)
    (parked : parkedRestart? s.waiters = some ticket) :
    s.dues P exit launched = (s.waiters.filterMap Waiter.awaits?).map (·, s.exitAnswer exit) ++
      [(ticket, match launched with
        | some result => result.map .restarted
        | none => s.exitAnswer exit)] := by
  have hnone := parkedDelete?_eq_none_iff.mp noDelete
  rw [dues_eq h, parked, noDelete]
  cases launched <;> simp [due, hnone]

theorem Settled.of_relaunched {ticket : Ticket} (h : OneStop s.waiters)
    (noDelete : parkedDelete? s.waiters = none) (parked : parkedRestart? s.waiters = some ticket)
    (gone : (s.nothingLeft P exit).1 = true) (emptied : t.waiters = [])
    (result : t = ((s.told P exit).relaunchNow P).2.answer ticket
      (((s.told P exit).relaunchNow P).1.map .restarted)) :
    Settled P exit s t (some ((s.told P exit).relaunchNow P).1) := by
  have hnone := parkedDelete?_eq_none_iff.mp noDelete
  have hany : s.waiters.any Waiter.isRestart = true :=
    List.any_eq_true.mpr ⟨_, parkedRestart?_mem parked, rfl⟩
  refine ⟨emptied, exitAnswer_eq exit, ?_, ?_, ?_⟩
  · rw [result, dues_eq_of_restart h noDelete parked]
    exact (told_deals exit).trans ((relaunchNow_deals P _).trans (.answer ticket _))
  · exact iff_of_true rfl ⟨hany, hnone, nothingLeft_iff.mp gone⟩
  · rw [result, hnone, Bool.or_false]
    exact (relaunchNow_cancelled P _).trans (told_cancelled exit)

/-- **Settling is complete and in order.**  Whoever is parked, with at most one delete and one
restart among them, and whether or not the exit status is known: nobody stays parked, everybody is
told what is due when it is their turn, and one launch at most is attempted. -/
theorem settling_complete (P : Platform σ) {s : Supervisor σ} (h : OneStop s.waiters)
    (exit : Except String ExitStatus) :
    ∃ launched, Settled P exit s (s.resolveWaiters P exit) launched := by
  have hemptied := resolveWaiters_waiters P s exit
  cases resolveWaiters_settles P s exit with
  | nobody idle result =>
    refine ⟨none, hemptied, exitAnswer_eq exit, ?_, ?_, ?_⟩
    · rw [result, dues, idle]
      exact .of_trace_eq rfl
    · simp [idle]
    · simp [result, idle]
  | deleted ticket parked result => exact ⟨_, .of_deleted h parked hemptied result⟩
  | relaunched ticket noDelete parked gone result =>
    exact ⟨_, .of_relaunched h noDelete parked gone hemptied result⟩
  | refused ticket noDelete parked gone result =>
    have hnone := parkedDelete?_eq_none_iff.mp noDelete
    have hleft := nothingLeft_iff.not.mp (Bool.not_eq_true _ ▸ gone)
    refine ⟨none, hemptied, exitAnswer_eq exit, ?_, ?_, ?_⟩
    · rw [result, dues_eq_of_restart h noDelete parked]
      exact (told_deals exit).trans (.answer ticket _)
    · exact iff_of_false nofun fun hall => hleft hall.2.2
    · rw [result, hnone, Bool.or_false]
      exact told_cancelled exit
  | waits busy noDelete noRestart result =>
    have hnone := parkedDelete?_eq_none_iff.mp noDelete
    have hwaits : s.dues P exit none =
        (s.waiters.filterMap Waiter.awaits?).map (·, s.exitAnswer exit) := by
      rw [dues_eq h, noRestart, noDelete]
      simp
    refine ⟨none, hemptied, exitAnswer_eq exit, ?_, ?_, ?_⟩
    · rw [result, hwaits]
      exact told_deals exit
    · simp [parkedRestart?_eq_none_iff.mp noRestart]
    · rw [result, hnone, Bool.or_false, told_cancelled]

/-- The status of a process that the null signal does not find is lost: those who only wait are told
so, the delete succeeds, and the restart beside it is told that the supervision has ended. -/
theorem lost_exit_settled :
    let P := ScriptedProcess.platform
    let exit : Except String ExitStatus := .error "process vanished without an exit status"
    let s : Supervisor ScriptedProcess := {
      Supervisor.new (ScriptedProcess.spec .never) { pid := some 1001, life := .dead } none with
      waiters := [.wait 0, .restart 1, .delete (some 2), .wait 3] }
    let lost : Answer := .error (.wait "mock: process vanished without an exit status")
    OneStop s.waiters ∧ Settled P exit s (s.resolveWaiters P exit) none ∧
      s.dues P exit none = [(0, lost), (3, lost), (1, .error (.gone "mock")), (2, .ok .done)] := by
  intro P exit s lost
  have hstop : OneStop s.waiters := ⟨by decide, by decide⟩
  obtain ⟨launched, hsettled⟩ := settling_complete P hstop exit
  have hnone : launched = none := by
    cases launched with
    | none => rfl
    | some result => exact absurd (hsettled.launches.mp rfl).2.1 (by decide)
  subst hnone
  exact ⟨hstop, hsettled, rfl⟩

end Supervisor

end Overseer
