import Overseer.Proofs.Supervisor.Starts
import Overseer.Proofs.Supervisor.Watchful
import Overseer.ScriptedProcess

/-!
# The restart policy on the end of a process

The watchdog compares what a tick observes with the last observation, which outlives the process it
was made of.

* `PolicyApplied` -- the budget is charged and a relaunch scheduled, or the budget is exhausted;
* `Overlooked` -- no tick has come since the process was created, and the last one before observed
  `terminated` as well;
* `termination_policy` -- on the first tick that observes the end of a process the policy is applied
  exactly once, unless the end is overlooked, when nothing is decided.
-/

namespace Overseer

/-- What the policy decided. -/
def Event.decision? : Event → Option RestartDecision
  | decided decision => some decision
  | _ => none

/-- Only a tick decides. -/
theorem Event.decision?_of_not_isTick {e : Event} (h : e.isTick = false) : e.decision? = none := by
  cases e <;> simp_all [decision?, isTick]

namespace Supervisor

variable {σ : Type} {P : Platform σ} {s t u : Supervisor σ}

/-- The decisions of the policy, the newest first. -/
def decisions (trace : List Event) : List RestartDecision := trace.filterMap Event.decision?

theorem Handles.decisions_eq (h : Handles s t) : decisions t.trace = decisions s.trace :=
  h.adds.filterMap_eq fun _ he => Event.decision?_of_not_isTick he

variable (P s) in
/-- A tick decides once. -/
theorem noted_decisions :
    decisions (s.noted P).trace = (s.outcome P).restart :: decisions s.trace := by
  obtain ⟨offers, htrace, hoffers⟩ := noted_trace P s
  have hobserve := (Handles.of_calls (observe_calls P s)).decisions_eq
  have hnone : offers.filterMap Event.decision? = [] := by
    rw [List.filterMap_eq_nil_iff]
    intro e he
    obtain ⟨status, delivery, rfl⟩ := hoffers e he
    rfl
  unfold decisions at *
  rw [htrace, List.filterMap_append, hnone, List.nil_append, ← hobserve]
  rfl

/-- A tick that finds the process gone decides as the policy has it, and leaves the watchdog that
the policy leaves; a parked restart may then pick up the relaunch at once. -/
theorem turn_of_gone_policy (hs : Watchful s) (due : s.due? = some .tick)
    (gone : (s.observe P).1 = .terminated) :
    decisions (s.turn P).trace =
        (s.watchdog.observe .terminated).1.restart :: decisions s.trace ∧
      ((s.turn P).watchdog = (s.watchdog.observe .terminated).2 ∨
        (s.turn P).watchdog = (s.watchdog.observe .terminated).2.takeRestart.2 ∧
          SettlesRestart s (s.turn P)) := by
  have hroute := onTerminated_route P ((s.opened .tick).noted P)
  have hstatus : ((s.opened .tick).observe P).1 = .terminated := opened_observe.1.trans gone
  have hnoted : ((s.opened .tick).noted P).watchdog = (s.watchdog.observe .terminated).2 := by
    rw [noted_frame, hstatus]
    rfl
  have hdecisions := noted_decisions P (s.opened .tick)
  have houtcome : (s.opened .tick).outcome P = (s.watchdog.observe .terminated).1 := by
    rw [outcome, hstatus]
    rfl
  rw [houtcome] at hdecisions
  rw [turn_of_gone hs due gone]
  refine ⟨hroute.handles.decisions_eq.trans hdecisions, ?_⟩
  rcases hroute.starts with ⟨-, h⟩ | h
  · exact .inl (h.trans hnoted)
  · have hopened := h.of_noStart (s := s.opened .tick) (noted_waiters P _) (noted_noStart P _)
    rcases hroute.handles.watchdog with hw | hw
    · exact .inl (hw.trans hnoted)
    · rw [hnoted] at hw
      exact .inr ⟨hw, hopened.congr ⟨rfl, rfl⟩ ⟨rfl, rfl⟩⟩

variable (P s) in
/-- The policy is applied in the next turn, and once: the budget is charged and a relaunch is
scheduled, which a parked restart may pick up at once, or the budget is exhausted. -/
structure PolicyApplied : Prop where
  relaunch : s.watchdog.budget.toCount ≠ 0 →
    decisions (s.turn P).trace = .relaunch :: decisions s.trace ∧
      s.watchdog.budget.Charged (s.turn P).watchdog.budget ∧
      ((s.turn P).watchdog.pending = true ∨ SettlesRestart s (s.turn P))
  exhausted : s.watchdog.budget.toCount = 0 →
    decisions (s.turn P).trace = .exhausted :: decisions s.trace ∧
      (s.turn P).watchdog.budget = s.watchdog.budget

/-- Nothing was observed since, and the last observation before was `terminated`. -/
structure Overlooked (since earlier : List Event) : Prop where
  unobserved : ∀ status, .observed status ∉ since
  repeated : lastObserved earlier = some .terminated

/-- The last observation is `terminated`, though not since, exactly when the end is overlooked. -/
theorem overlooked_iff {since earlier : List Event} {pid : Pid}
    (hfirst : .observed .terminated ∉ since) :
    lastObserved (since ++ .started (.ok pid) :: earlier) = some .terminated ↔
      Overlooked since earlier := by
  have hearlier : lastObserved (.started (.ok pid) :: earlier) = lastObserved earlier := rfl
  have hsplit : lastObserved (since ++ .started (.ok pid) :: earlier) =
      (lastObserved since).or (lastObserved earlier) := by
    rw [← hearlier]
    exact List.findSome?_append
  rw [hsplit]
  constructor
  · intro h
    cases hsince : lastObserved since with
    | none =>
      rw [hsince] at h
      refine ⟨?_, h⟩
      intro status hmem
      have hnone := List.findSome?_eq_none_iff.mp hsince _ hmem
      cases hnone
    | some status =>
      rw [hsince] at h
      obtain rfl : status = .terminated := Option.some.inj h
      obtain ⟨e, hmem, he⟩ := List.exists_of_findSome?_eq_some hsince
      cases e with
      | observed found =>
        obtain rfl : found = .terminated := Option.some.inj he
        exact absurd hmem hfirst
      | _ => cases he
  · rintro ⟨unobserved, repeated⟩
    have hnone : lastObserved since = none := by
      rw [lastObserved, List.findSome?_eq_none_iff]
      intro e hmem
      cases e with
      | observed status => exact absurd hmem (unobserved status)
      | _ => rfl
    rw [hnone]
    exact repeated

/-- **The policy on the end of a process.**  On the first tick that observes the end of a process
that was created, the policy is applied exactly once; but when the end is overlooked, nothing is
decided, charged or scheduled. -/
theorem termination_policy (spec : Spec) (system : σ) (sink : Option Sink)
    (inputs : List (Input σ)) {since earlier : List Event} {pid : Pid}
    (hdue : (reached P spec system sink inputs).due? = some .tick)
    (hgone : ((reached P spec system sink inputs).observe P).1 = .terminated)
    (htrace : (reached P spec system sink inputs).trace =
      since ++ .started (.ok pid) :: earlier)
    (hfirst : .observed .terminated ∉ since) :
    (¬ Overlooked since earlier → PolicyApplied P (reached P spec system sink inputs)) ∧
    (Overlooked since earlier →
      decisions ((reached P spec system sink inputs).turn P).trace =
          .skip :: decisions (reached P spec system sink inputs).trace ∧
        ((reached P spec system sink inputs).turn P).watchdog =
          (reached P spec system sink inputs).watchdog) := by
  have hs := Watchful.of_reached P spec system sink inputs
  generalize reached P spec system sink inputs = s at *
  have hlast : s.watchdog.last = some .terminated ↔ Overlooked since earlier := by
    rw [hs.last, htrace, overlooked_iff hfirst]
  obtain ⟨hdecisions, hwatchdog⟩ := turn_of_gone_policy hs hdue hgone
  have hfree := not_pending_of_due hdue (by simp) (by simp)
  cases Watchdog.observe_observes s.watchdog .terminated with
  | changed _ there => exact absurd rfl there
  | coalesced _ _ scheduled => rw [hfree] at scheduled; cases scheduled
  | repeated same decided result =>
    rw [decided] at hdecisions
    rw [result, Watchdog.takeRestart_of_free hfree] at hwatchdog
    refine ⟨fun h => absurd (hlast.mp same) h, fun _ => ⟨hdecisions, ?_⟩⟩
    rcases hwatchdog with h | ⟨h, -⟩ <;> exact h
  | relaunch fresh _ _ granted decided result =>
    rw [decided] at hdecisions
    rw [result] at hwatchdog
    refine ⟨fun _ => ⟨fun _ => ⟨hdecisions, ?_, ?_⟩, ?_⟩, fun h => absurd (hlast.mpr h) fresh⟩
    · have hcharged := Budget.consume_charged granted
      rcases hwatchdog with h | ⟨h, -⟩ <;> rw [h] <;> exact hcharged
    · rcases hwatchdog with h | ⟨-, h⟩
      · left
        rw [h]
      · exact .inr h
    · intro hzero
      rw [Budget.toCount_eq_zero_iff.mp hzero] at granted
      cases granted
  | exhausted fresh _ _ refused decided result =>
    rw [decided] at hdecisions
    rw [result] at hwatchdog
    refine ⟨fun _ => ⟨?_, fun _ => ⟨hdecisions, ?_⟩⟩, fun h => absurd (hlast.mpr h) fresh⟩
    · intro hleft
      exact absurd (Budget.toCount_eq_zero_iff.mpr refused) hleft
    · rcases hwatchdog with h | ⟨h, -⟩ <;> rw [h]
      rfl

/-- A process with a budget of two relaunches, after some inputs. -/
def vanishing (inputs : List (Input ScriptedProcess)) : Supervisor ScriptedProcess :=
  reached ScriptedProcess.platform (ScriptedProcess.spec (.limited 2)) {} none inputs

/-- The process vanishes, and the next tick is due. -/
def vanishes : List (Input ScriptedProcess) :=
  [.world fun p => { p with life := .vanished }, .elapse 1000]

/-- The end of the first process is not overlooked. -/
theorem first_end_noticed : PolicyApplied ScriptedProcess.platform (vanishing vanishes) := by
  have htrace : (vanishing vanishes).trace =
      [.launched (.ok 1001), .statusRead (.ok .running)] ++ .started (.ok 1001) :: [] := rfl
  refine (termination_policy _ _ _ _ (by decide) (by decide) htrace (by simp)).1 ?_
  rintro ⟨-, hrepeated⟩
  cases hrepeated

/-- **An end that is overlooked.**  The process vanishes, is relaunched, and vanishes again before
the next tick, which then repeats the last observation: the policy is not applied, though the budget
has a relaunch left. -/
theorem second_end_overlooked :
    ¬ ∀ (spec : Spec) (system : ScriptedProcess) (sink : Option Sink)
        (inputs : List (Input ScriptedProcess)) (since earlier : List Event) (pid : Pid),
      (reached ScriptedProcess.platform spec system sink inputs).due? = some .tick →
      ((reached ScriptedProcess.platform spec system sink inputs).observe
        ScriptedProcess.platform).1 = .terminated →
      (reached ScriptedProcess.platform spec system sink inputs).trace =
        since ++ .started (.ok pid) :: earlier →
      .observed .terminated ∉ since →
      PolicyApplied ScriptedProcess.platform
        (reached ScriptedProcess.platform spec system sink inputs) := by
  intro h
  have htrace : (vanishing (vanishes ++ [.turn, .turn] ++ vanishes)).trace =
      [.launched (.ok 1002), .statusRead (.ok .running)] ++ .started (.ok 1002) ::
        (vanishing (vanishes ++ [.turn, .turn] ++ vanishes)).trace.drop 3 := rfl
  have happlied := h _ _ _ _ _ _ _ (by decide) (by decide) htrace (by simp)
  obtain ⟨hdecisions, -, -⟩ := happlied.relaunch (by decide)
  revert hdecisions
  decide

end Supervisor

end Overseer
