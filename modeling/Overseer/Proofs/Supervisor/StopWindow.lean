import Overseer.Proofs.Supervisor.Deletion
import Overseer.Proofs.Supervisor.Watchful
import Overseer.ScriptedProcess

/-!
# Processes that are created while a stop is parked

From the moment at which a delete or a restart is parked until it is settled, a process may be
created to settle the parked restart, and should not be created otherwise.

* `Revives` -- the tick that schedules a relaunch beside a parked stop: it finds nothing held, since
  a kill let go of the process and settled nobody, and neither the exit check nor another tick has
  looked since;
* `revived_iff` -- a relaunch is scheduled beside a parked stop exactly when the last turn was such
  a tick, and the supervision was not cancelled after it;
* `step_orderly` -- every other step keeps to this;
* `run_noStart_of_ending` -- but for that relaunch a delete is final;
* `stop_window` -- so the window holds up to that relaunch, which creates a process and leaves the
  stop parked.
-/

namespace Overseer

namespace Supervisor

variable {σ : Type} {P : Platform σ} {s t u : Supervisor σ}

/-! ## The relaunch that brings a process back -/

variable (P s) in
/-- The tick that schedules a relaunch beside a parked stop.  It finds nothing held, so that it
settles nobody, and charges the budget for what it takes for the end of a process. -/
structure Revives : Prop where
  due : s.due? = some .tick
  parked : s.stopParked = true
  gone : (s.observe P).1 = .terminated
  free : (s.observe P).2.pid P = none
  changed : s.watchdog.last ≠ some .terminated
  granted : s.watchdog.budget.consume.1 = true

/-- A turn schedules a relaunch only as a tick that finds the process gone. -/
theorem scheduled_by_tick (hs : Watchful s) (h : (s.turn P).due? = some .relaunch) :
    s.due? = some .tick ∧ (s.observe P).1 = .terminated ∧
      s.watchdog.last ≠ some .terminated ∧ s.watchdog.budget.consume.1 = true := by
  obtain ⟨hrunning, -, hpending⟩ := due?_eq_relaunch.mp h
  cases turn_turns P s with
  | idle due result =>
    rw [result, due] at h
    cases h
  | ended _ result =>
    rw [result, finish_stopped] at hrunning
    cases hrunning
  | @handled occasion u due going handles result =>
    -- A handler schedules nothing, so that the relaunch was scheduled before and went first.
    exfalso
    by_cases hrelaunch : occasion = .relaunch
    · have htaken := (turn_of_relaunch (P := P) (hrelaunch ▸ due)).2.1
      rw [hpending] at htaken
      cases htaken
    · have hfree := not_pending_of_due due going hrelaunch
      have hopened : (s.opened occasion).watchdog = s.watchdog := by cases occasion <;> rfl
      have hkept : u.rearm.watchdog = u.watchdog := rfl
      rw [result, hkept] at hpending
      rcases handles.watchdog with h | h <;> rw [h] at hpending
      · rw [hopened, hfree] at hpending
        cases hpending
      · cases hpending
  | ticked due result =>
    have hfree := not_pending_of_due due (by simp) (by simp)
    have hroute := tick_route P (s.opened .tick) (hs.alert (running_of_due due))
    have hstatus := (observe_congr (P := P) (s := s) (t := s.opened .tick) rfl).1
    have hkept : ((s.opened .tick).onTick P).rearm.watchdog =
        ((s.opened .tick).onTick P).watchdog := rfl
    rw [result, hkept] at hpending
    rcases hroute.handles.watchdog with h | h <;> rw [h] at hpending
    · have hnoted : ((s.opened .tick).noted P).watchdog =
          (s.watchdog.observe (s.observe P).1).2 := by
        rw [noted_frame, hstatus]
        rfl
      rw [hnoted] at hpending
      cases Watchdog.observe_observes s.watchdog (s.observe P).1 with
      | relaunch fresh gone _ granted _ _ => exact ⟨due, gone, gone ▸ fresh, granted⟩
      | coalesced _ _ scheduled => rw [hfree] at scheduled; cases scheduled
      | repeated _ _ result | changed _ _ _ result | exhausted _ _ _ _ _ result =>
        rw [result] at hpending
        exact absurd hpending (by simp [hfree])
    · cases hpending

/-- A relaunch is scheduled beside a parked stop by such a tick, and by nothing else. -/
theorem turn_revives (hs : Watchful s) :
    (s.turn P).due? = some .relaunch ∧ (s.turn P).stopParked = true ↔ Revives P s := by
  obtain ⟨hstatus, hpid⟩ := opened_observe (P := P) (s := s)
  have hkept (t : Supervisor σ) : t.rearm.stopParked = t.stopParked := rfl
  constructor
  · rintro ⟨hdue, hparked⟩
    obtain ⟨due, gone, changed, granted⟩ := scheduled_by_tick hs hdue
    rw [turn_of_gone hs due gone, hkept] at hparked
    -- Letting go of a process that is held settles the parked stop.
    have hfree : (s.observe P).2.pid P = none := by
      by_contra hheld
      rw [← hpid] at hheld
      rw [stopParked, onTerminated_of_held hheld] at hparked
      cases hparked
    rw [onTerminated_of_free (hpid.trans hfree), stopParked, noted_waiters] at hparked
    exact ⟨due, hparked, gone, hfree, changed, granted⟩
  · intro h
    have hresult := turn_of_gone hs h.due h.gone
    rw [onTerminated_of_free (hpid.trans h.free)] at hresult
    have hpending : (s.watchdog.observe (s.observe P).1).2.pending = true := by
      rw [h.gone]
      cases Watchdog.observe_observes s.watchdog .terminated with
      | relaunch _ _ _ _ _ result => rw [result]
      | repeated same => exact absurd same h.changed
      | changed _ there => exact absurd rfl there
      | coalesced _ _ scheduled _ result => rw [result]; exact scheduled
      | exhausted _ _ _ refused => rw [h.granted] at refused; cases refused
    have hrunning := running_of_due h.due
    have hcancelled := not_cancelled_of_due h.due (by simp)
    rw [hresult, hkept, stopParked, noted_waiters, noted_frame, hstatus]
    exact ⟨due?_eq_relaunch.mpr ⟨hrunning, hcancelled, hpending⟩, h.parked⟩

section

variable (P) (spec : Spec) (system : σ) (sink : Option Sink)

/-- The last turn of a run was a tick that revives, and the supervision was not cancelled since. -/
def Revived (inputs : List (Input σ)) : Prop :=
  ∃ before after, inputs = before ++ .turn :: after ∧
    Revives P (reached P spec system sink before) ∧
    ∀ input ∈ after, input ≠ .turn ∧ input ≠ .cancel

theorem not_revived_nil : ¬ Revived P spec system sink [] := by
  rintro ⟨before, after, hinputs, -, -⟩
  cases before <;> cases hinputs

theorem revived_turn (inputs : List (Input σ)) :
    Revived P spec system sink (inputs ++ [.turn]) ↔
      Revives P (reached P spec system sink inputs) := by
  constructor
  · rintro ⟨before, after, hinputs, hrevives, hafter⟩
    rcases concat_eq_split hinputs with ⟨rfl, -, -⟩ | ⟨rest, rfl, -⟩
    · exact hrevives
    · exact absurd rfl (hafter .turn (by simp)).1
  · intro h
    exact ⟨inputs, [], rfl, h, by simp⟩

theorem revived_other {input : Input σ} (h : input ≠ .turn) (inputs : List (Input σ)) :
    Revived P spec system sink (inputs ++ [input]) ↔
      Revived P spec system sink inputs ∧ input ≠ .cancel := by
  constructor
  · rintro ⟨before, after, hinputs, hrevives, hafter⟩
    rcases concat_eq_split hinputs with ⟨-, hlast, -⟩ | ⟨rest, rfl, hrest⟩
    · exact absurd hlast.symm h
    · refine ⟨⟨before, rest, hrest, hrevives, ?_⟩, (hafter input (by simp)).2⟩
      intro later hlater
      exact hafter later (by simp [hlater])
  · rintro ⟨⟨before, after, rfl, hrevives, hafter⟩, hcancel⟩
    refine ⟨before, after ++ [input], by simp, hrevives, ?_⟩
    intro later hlater
    rcases List.mem_append.mp hlater with hlater | hlater
    · exact hafter later hlater
    · rw [List.mem_singleton.mp hlater]
      exact ⟨h, hcancel⟩

end

theorem step_due_relaunch {input : Input σ} (h : input ≠ .turn) :
    (step P s input).due? = some .relaunch ∧ (step P s input).stopParked = true ↔
      (s.due? = some .relaunch ∧ s.stopParked = true) ∧ input ≠ .cancel := by
  have hframe := step_frame P s h
  have hrunning : (step P s input).running = s.running := by rw [hframe]
  have hpending : (step P s input).watchdog = s.watchdog := by rw [hframe]
  have hparked : (step P s input).stopParked = s.stopParked := by rw [hframe]; rfl
  rw [due?_eq_relaunch, due?_eq_relaunch, hrunning, hpending, hparked]
  by_cases hcancel : input = .cancel
  · subst hcancel
    simp [step, cancel]
  · rw [step_cancelled P s h hcancel]
    simp [hcancel]

variable (P) in
/-- **A relaunch is scheduled beside a parked stop** exactly when the last turn was a tick that
revives, and the supervision was not cancelled since. -/
theorem revived_iff (spec : Spec) (system : σ) (sink : Option Sink) (inputs : List (Input σ)) :
    Revived P spec system sink inputs ↔
      (reached P spec system sink inputs).due? = some .relaunch ∧
        (reached P spec system sink inputs).stopParked = true := by
  induction inputs using List.reverseRecOn with
  | nil =>
    have hnobody : (reached P spec system sink []).stopParked = false := by
      rw [stopParked, reached, run, List.foldl_nil, supervise_waiters]
      rfl
    simp [not_revived_nil, hnobody]
  | append_singleton rest input ih =>
    rw [reached_concat]
    by_cases hturn : input = .turn
    · rw [hturn, revived_turn]
      exact (turn_revives (Watchful.of_reached P spec system sink rest)).symm
    · rw [revived_other P spec system sink hturn, ih, step_due_relaunch hturn]

/-- From `s` to `t` a process is asked for although a stop is parked, and the stop stays parked. -/
structure Comeback (P : Platform σ) (s t : Supervisor σ) : Prop where
  parked : s.stopParked = true
  unsettled : t.waiters = s.waiters
  started : ∀ directory, s.directory P = .ok directory → t.starts = s.starts + 1

/-- A step that begins or ends with a stop parked is orderly, unless it is a scheduled relaunch. -/
theorem step_orderly {input : Input σ} (h : ¬ (input = .turn ∧ s.due? = some .relaunch))
    (hparked : s.stopParked = true ∨ (step P s input).stopParked = true) :
    Orderly s (step P s input) := by
  by_cases hturn : input = .turn
  · subst hturn
    rcases turn_orderly P s with horderly | hdue | ⟨ticket, hdue⟩
    · exact horderly
    · exact absurd ⟨rfl, hdue⟩ h
    · have hresult : s.turn P = (({ s with queue := s.queue.tail } : Supervisor σ).restart P
          ticket).rearm := turn_eq hdue
      rcases restart_starts P { s with queue := s.queue.tail } ticket with hstarts | hstarts
      · rw [step, hresult]
        exact .inl hstarts
      · have hbefore : s.stopParked = false := hstarts.first
        have hafter : (s.turn P).stopParked = false := by
          rw [hresult]
          exact hstarts.stopParked
        rw [step, hbefore, hafter] at hparked
        simp at hparked
  · exact .inl (step_noStart P s hturn)

variable (P) in
/-- Once a delete is on its way no process is asked for, unless one comes back. -/
theorem run_noStart_of_ending (spec : Spec) (system : σ) (sink : Option Sink)
    {inputs : List (Input σ)} (more : List (Input σ))
    (hending : Ending (reached P spec system sink inputs))
    (hnone : ∀ before after, more = before ++ .turn :: after →
      ¬ Revived P spec system sink (inputs ++ before)) :
    Ending (reached P spec system sink (inputs ++ more)) ∧
      NoStart (reached P spec system sink inputs)
        (reached P spec system sink (inputs ++ more)) := by
  induction more using List.reverseRecOn with
  | nil =>
    rw [List.append_nil]
    exact ⟨hending, .refl _⟩
  | append_singleton rest input ih =>
    obtain ⟨hending, hnoStart⟩ := ih (by
      intro before after hrest
      exact hnone before (after ++ [input]) (by simp [hrest]))
    rw [← List.append_assoc, reached_concat]
    refine ⟨hending.step input, hnoStart.trans ?_⟩
    by_cases hturn : input = .turn
    · rw [hturn]
      refine hending.turn_noStart ?_
      intro hrelaunch
      exact hnone rest [] (by rw [hturn]) ((revived_iff P spec system sink _).mpr hrelaunch)
    · exact step_noStart P _ hturn

/-- **The window of a parked stop.**  A step that begins or ends with a stop parked asks for a
process only to settle the parked restart; but a relaunch that a tick has scheduled beside the
parked stop brings the process back.  But for such a relaunch, no process is ever asked for again
once a delete is parked. -/
theorem stop_window (P : Platform σ) (spec : Spec) (system : σ) (sink : Option Sink)
    (inputs : List (Input σ)) :
    (∀ input, ¬ (input = .turn ∧ Revived P spec system sink inputs) →
      (reached P spec system sink inputs).stopParked = true ∨
          (reached P spec system sink (inputs ++ [input])).stopParked = true →
        Orderly (reached P spec system sink inputs)
          (reached P spec system sink (inputs ++ [input]))) ∧
    (Revived P spec system sink inputs →
      Comeback P (reached P spec system sink inputs)
        (reached P spec system sink (inputs ++ [.turn]))) ∧
    ((reached P spec system sink inputs).waiters.any Waiter.isDelete = true → ∀ more,
      (∀ before after, more = before ++ .turn :: after →
        ¬ Revived P spec system sink (inputs ++ before)) →
      NoStart (reached P spec system sink inputs)
        (reached P spec system sink (inputs ++ more))) := by
  have hrevived := revived_iff P spec system sink inputs
  refine ⟨?_, ?_, ?_⟩
  · intro input hinput hparked
    rw [reached_concat] at hparked ⊢
    refine step_orderly ?_ hparked
    rintro ⟨rfl, hdue⟩
    -- A relaunch parks nobody, so that the stop was parked before.
    have hwaiters := (turn_of_relaunch (P := P) hdue).1
    have hbefore : (reached P spec system sink inputs).stopParked = true := by
      rcases hparked with h | h
      · exact h
      · rwa [step, stopParked, hwaiters] at h
    exact hinput ⟨rfl, hrevived.mpr ⟨hdue, hbefore⟩⟩
  · intro h
    obtain ⟨hdue, hparked⟩ := hrevived.mp h
    obtain ⟨hwaiters, -, hstarts⟩ := turn_of_relaunch (P := P) hdue
    rw [reached_concat]
    exact ⟨hparked, hwaiters, hstarts⟩
  · intro hdelete more hnone
    exact (run_noStart_of_ending P spec system sink more (.inl (.inl hdelete)) hnone).2

/-- A process that ignores `Signal.term` is deleted, and killed just before a tick. -/
def killedBesideDelete : List (Input ScriptedProcess) :=
  [.elapse 990, .send 0 .delete, .turn, .send 1 .kill, .turn, .elapse 10]

/-- **The deleted process comes back**, and the delete is still parked beside it. -/
theorem killed_beside_delete_comes_back :
    Comeback ScriptedProcess.platform
      (reached ScriptedProcess.platform (ScriptedProcess.spec .infinite)
        { script := { ignored := [.term] } } none (killedBesideDelete ++ [.turn]))
      (reached ScriptedProcess.platform (ScriptedProcess.spec .infinite)
        { script := { ignored := [.term] } } none (killedBesideDelete ++ [.turn] ++ [.turn])) := by
  have hrevives : Revives ScriptedProcess.platform
      (reached ScriptedProcess.platform (ScriptedProcess.spec .infinite)
        { script := { ignored := [.term] } } none killedBesideDelete) :=
    ⟨by decide, by decide, by decide, by decide, by decide, by decide⟩
  exact (stop_window _ _ _ _ _).2.1 ((revived_turn _ _ _ _ _).mpr hrevives)

end Supervisor

end Overseer
