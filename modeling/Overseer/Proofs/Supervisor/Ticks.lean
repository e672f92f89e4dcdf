import Overseer.Proofs.Supervisor.Settling
import Overseer.Proofs.Watchdog

/-!
# What a tick does

A tick observes, notes the outcome, and then lets go of a process that is gone or collects a zombie.

* `noted` -- the state in which the outcome is noted; `noted_frame`, `noted_trace` -- what it is;
* `onTick_ticks` -- the ways in which a tick goes;
* `tick_route` -- so from `noted` on it is a route to the settling;
* `observe_congr` -- what is observed depends on the surroundings alone.
-/

namespace Overseer

namespace Supervisor

variable {σ : Type} {P : Platform σ} {s t u : Supervisor σ}

variable (P) (s)

/-- The outcome of a tick is noted, the sink may be offered a change, and that is all. -/
theorem record_frame (outcome : TickOutcome) :
    s.record outcome =
      { s with sink := (s.record outcome).sink, trace := (s.record outcome).trace } := by
  cases hsink : s.sink <;> cases hnotify : outcome.notify <;>
    simp [record, offer, note, hsink, hnotify]

theorem record_trace (outcome : TickOutcome) : ∃ offers, (s.record outcome).trace =
    offers ++ .decided outcome.restart :: .observed outcome.observed :: s.trace ∧
      ∀ e ∈ offers, ∃ status delivery, e = .offered status delivery := by
  cases hnotify : outcome.notify with
  | none => exact ⟨[], by simp [record, note, hnotify], by simp⟩
  | some status =>
    cases hsink : s.sink with
    | none =>
      exact ⟨[.offered status .unheard], by simp [record, offer, note, hsink, hnotify], by simp⟩
    | some sink =>
      exact ⟨[.offered status (sink.offer status).1],
        by simp [record, offer, note, hsink, hnotify], by simp⟩

/-- What the policy makes of the state that a tick observes. -/
def outcome : TickOutcome := (s.watchdog.observe (s.observe P).1).1

/-- The state of a tick that has observed and decided, and has not acted on it yet. -/
def noted : Supervisor σ :=
  { (s.observe P).2 with watchdog := (s.watchdog.observe (s.observe P).1).2 }.record (s.outcome P)

theorem noted_frame : s.noted P = { s with
    system := (s.observe P).2.system
    startTime := (s.observe P).2.startTime
    watchdog := (s.watchdog.observe (s.observe P).1).2
    sink := (s.noted P).sink
    trace := (s.noted P).trace } := by
  have hkeeps := (observe_calls P s).keeps
  unfold noted
  rw [record_frame, hkeeps]

/-- A tick adds what it observed, what was decided, and what was offered to the sink. -/
theorem noted_trace : ∃ offers, (s.noted P).trace =
    offers ++ .decided (s.outcome P).restart :: .observed (s.observe P).1 :: (s.observe P).2.trace ∧
      ∀ e ∈ offers, ∃ status delivery, e = .offered status delivery := by
  have htrace := record_trace
    { (s.observe P).2 with watchdog := (s.watchdog.observe (s.observe P).1).2 } (s.outcome P)
  have hobserved : (s.outcome P).observed = (s.observe P).1 := Watchdog.observe_observed _ _
  rwa [hobserved] at htrace

/-- The ways in which a tick goes from `s` to `t`. -/
inductive Ticks (t : Supervisor σ) : Prop where
  /-- The watchdog has stopped. -/
  | stopped (cancelled : s.watchdog.cancelled = true) (result : t = (s.observe P).2)
  /-- The process is gone, and is let go of. -/
  | terminated (live : s.watchdog.cancelled = false) (gone : (s.observe P).1 = .terminated)
      (result : t = (s.noted P).onTerminated P)
  /-- The process has become a zombie, and its exit status is collected. -/
  | zombie (live : s.watchdog.cancelled = false) (gone : (s.observe P).1 = .zombie)
      (result : t = (s.noted P).reapZombie P)
  /-- Nothing is to be done. -/
  | quiet (live : s.watchdog.cancelled = false) (there : (s.observe P).1 ≠ .terminated)
      (result : t = s.noted P)

theorem onTick_ticks : Ticks P s (s.onTick P) := by
  have hwatchdog := (observe_calls P s).keeps.watchdog
  cases hlive : s.watchdog.cancelled with
  | true =>
    refine .stopped hlive ?_
    have hstep : (s.observe P).2.watchdog.step (.tick (s.observe P).1) =
        (.stopped, (s.observe P).2.watchdog) := by
      simp [Watchdog.step, hwatchdog, hlive]
    simp only [onTick, hstep]
  | false =>
    have hstep : (s.observe P).2.watchdog.step (.tick (s.observe P).1) =
        (.observed (s.outcome P), (s.watchdog.observe (s.observe P).1).2) := by
      simp [Watchdog.step, hwatchdog, hlive, outcome]
    by_cases hgone : (s.observe P).1 = .terminated
    · have hreap : ¬ (s.outcome P).reap = true := by
        intro hreap
        have hzombie := Watchdog.observe_reap hreap
        rw [hgone] at hzombie
        cases hzombie
      refine .terminated hlive hgone ?_
      simp only [onTick, hstep, if_pos hgone, if_neg hreap]
      rfl
    · by_cases hreap : (s.outcome P).reap = true
      · refine .zombie hlive (Watchdog.observe_reap hreap) ?_
        simp only [onTick, hstep, if_neg hgone, if_pos hreap]
        rfl
      · refine .quiet hlive hgone ?_
        simp only [onTick, hstep, if_neg hgone, if_neg hreap]
        rfl

/-- A tick that finds the process gone lets go of it. -/
theorem onTick_of_gone (live : s.watchdog.cancelled = false)
    (gone : (s.observe P).1 = .terminated) : s.onTick P = (s.noted P).onTerminated P := by
  cases onTick_ticks P s with
  | stopped cancelled => rw [live] at cancelled; cases cancelled
  | terminated _ _ result => exact result
  | zombie _ zombie => rw [gone] at zombie; cases zombie
  | quiet _ there => exact absurd gone there

/-- From what a tick has noted on, it is a route to the settling. -/
theorem tick_route (live : s.watchdog.cancelled = false) :
    Route P (s.noted P) (s.onTick P) := by
  cases onTick_ticks P s with
  | stopped cancelled => rw [live] at cancelled; cases cancelled
  | terminated _ _ result => rw [result]; exact onTerminated_route P _
  | zombie _ _ result => rw [result]; exact reapZombie_route P _
  | quiet _ _ result => rw [result]; exact .calls (.refl _)

/-- A tick leaves alone the requests, the clock and whatever tells whether the loop goes on. -/
theorem onTick_frame : s.onTick P = { s with
    system := (s.onTick P).system
    startTime := (s.onTick P).startTime
    watchdog := (s.onTick P).watchdog
    sink := (s.onTick P).sink
    cancelled := (s.onTick P).cancelled
    waiters := (s.onTick P).waiters
    trace := (s.onTick P).trace } := by
  have hnoted := noted_frame P s
  cases hlive : s.watchdog.cancelled with
  | true =>
    cases onTick_ticks P s with
    | stopped _ result =>
      have hkeeps := (observe_calls P s).keeps
      rw [result]
      rw [hkeeps]
    | terminated live | zombie live | quiet live => rw [hlive] at live; cases live
  | false =>
    have hframe := (tick_route P s hlive).handles.frame
    rw [hnoted] at hframe
    rw [hframe]

@[simp] theorem noted_waiters : (s.noted P).waiters = s.waiters := by rw [noted_frame]

/-- Once it has observed, a tick notes nothing but its own work. -/
theorem noted_adds : Adds (fun e => e.isTick) (s.observe P).2 (s.noted P) := by
  obtain ⟨offers, htrace, hoffers⟩ := noted_trace P s
  refine ⟨offers ++ [.decided (s.outcome P).restart, .observed (s.observe P).1],
    by simp [htrace], ?_⟩
  intro e he
  rcases List.mem_append.mp he with h | h
  · obtain ⟨status, delivery, rfl⟩ := hoffers e h
    rfl
  · rcases List.mem_pair.mp h with rfl | rfl <;> rfl

/-- A tick adds to the trace. -/
theorem onTick_suffix : s.trace <:+ (s.onTick P).trace := by
  have hobserve := (observe_calls P s).adds.suffix
  cases hlive : s.watchdog.cancelled with
  | true =>
    cases onTick_ticks P s with
    | stopped _ result => rw [result]; exact hobserve
    | terminated live | zombie live | quiet live => rw [hlive] at live; cases live
  | false =>
    have hroute := (tick_route P s hlive).handles.adds.suffix
    exact (hobserve.trans (noted_adds P s).suffix).trans hroute

/-- Noting the outcome of a tick asks for no process. -/
theorem noted_noStart : NoStart s (s.noted P) :=
  (observe_calls P s).noStart.trans
    ((noted_adds P s).mono fun _ he => Event.not_isStart_of_isTick he)

variable {P s} in
/-- What is observed depends on the surroundings alone. -/
theorem observe_congr (h : t.system = s.system) :
    (t.observe P).1 = (s.observe P).1 ∧ (t.observe P).2.system = (s.observe P).2.system := by
  unfold observe isAlive pid
  rw [h]
  cases hpid : P.pid s.system with
  | none => exact ⟨rfl, h⟩
  | some pid =>
    simp only [probe, readStatus, h, note]
    cases halive : alive (P.signal none s.system).1 with
    | false => exact ⟨rfl, rfl⟩
    | true =>
      cases hread : (P.readStatus pid (P.signal none s.system).2).1 <;> simp [hread]

variable {P s} in
/-- With nothing held there is nothing to let go of. -/
theorem onTerminated_of_free (h : s.pid P = none) : s.onTerminated P = s := by
  unfold onTerminated
  rw [h]

variable {P s} in
/-- Letting go of a process settles everybody. -/
theorem onTerminated_of_held (h : s.pid P ≠ none) : (s.onTerminated P).waiters = [] := by
  unfold onTerminated
  split
  · next hfree => exact absurd hfree h
  · exact resolveWaiters_waiters P _ _

end Supervisor

end Overseer
