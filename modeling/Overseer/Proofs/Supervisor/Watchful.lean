import Overseer.Proofs.Supervisor.Turns

/-!
# What the watchdog remembers

* `Watchful` -- the watchdog of a supervisor that goes on is at work, and remembers the state that a
  tick observed last; `Watchful.of_reached` -- so it is in every reachable state;
* `turn_of_gone` -- the turn of a tick that finds the process gone.
-/

namespace Overseer

/-- What a tick observed. -/
def Event.observation? : Event → Option Status
  | observed status => some status
  | _ => none

/-- Only a tick observes. -/
theorem Event.observation?_of_not_isTick {e : Event} (h : e.isTick = false) :
    e.observation? = none := by
  cases e <;> simp_all [observation?, isTick]

namespace Supervisor

variable {σ : Type} {P : Platform σ} {s t u : Supervisor σ}

/-- The state that was observed last. -/
def lastObserved (trace : List Event) : Option Status := trace.findSome? Event.observation?

theorem Adds.lastObserved_eq {p : Event → Prop} (h : Adds p s t)
    (hp : ∀ e, p e → e.observation? = none) : lastObserved t.trace = lastObserved s.trace := by
  obtain ⟨events, htrace, hevents⟩ := h
  have hnone : events.findSome? Event.observation? = none := by
    rw [List.findSome?_eq_none_iff]
    intro e he
    exact hp e (hevents e he)
  unfold lastObserved
  rw [htrace, List.findSome?_append, hnone]
  rfl

/-- The watchdog of a supervisor that goes on is at work, and remembers the last observation. -/
structure Watchful (s : Supervisor σ) : Prop where
  alert : s.running = true → s.watchdog.cancelled = false
  last : s.watchdog.last = lastObserved s.trace

namespace Watchful

theorem of_handles (hs : Watchful s) (h : Handles s t) : Watchful t where
  alert := by
    intro hrunning
    have hs := hs.alert (by rwa [h.frame] at hrunning)
    rcases h.watchdog with hw | hw <;> rw [hw] <;> exact hs
  last := by
    have hkept : t.watchdog.last = s.watchdog.last := by
      rcases h.watchdog with hw | hw <;> rw [hw]
      rfl
    rw [hkept, hs.last, h.adds.lastObserved_eq fun _ he => Event.observation?_of_not_isTick he]

theorem of_noted (hs : Watchful s) : Watchful (s.noted P) where
  alert := by
    intro hrunning
    rw [noted_frame] at hrunning ⊢
    rw [Watchdog.observe_cancelled]
    exact hs.alert hrunning
  last := by
    obtain ⟨offers, htrace, hoffers⟩ := noted_trace P s
    have hnone : offers.findSome? Event.observation? = none := by
      rw [List.findSome?_eq_none_iff]
      intro e he
      obtain ⟨status, delivery, rfl⟩ := hoffers e he
      rfl
    have hlast : (s.noted P).watchdog.last = some (s.observe P).1 := by
      rw [noted_frame, Watchdog.observe_last]
    unfold lastObserved
    rw [hlast, htrace, List.findSome?_append, hnone]
    rfl

/-- Where only the clock, the requests and the like are changed. -/
theorem of_eq (hs : Watchful s) (hrunning : t.running = s.running)
    (hwatchdog : t.watchdog = s.watchdog) (htrace : t.trace = s.trace) : Watchful t where
  alert := by
    rw [hrunning, hwatchdog]
    exact hs.alert
  last := by rw [hwatchdog, htrace, hs.last]

theorem finish (hs : Watchful s) : Watchful s.finish where
  alert := by
    intro hrunning
    rw [finish_eq] at hrunning
    cases hrunning
  last := by
    have hkept : s.finish.watchdog.last = s.watchdog.last := by
      rw [finish_eq, Watchdog.step_cancel]
    rw [hkept, hs.last, finish_adds.lastObserved_eq]
    rintro _ ⟨ticket, rfl⟩
    rfl

theorem turn (hs : Watchful s) : Watchful (s.turn P) := by
  cases turn_turns P s with
  | idle _ result => rwa [result]
  | ended due result => rw [result]; exact hs.finish.of_eq rfl rfl rfl
  | ticked due result =>
    rw [result]
    have hopened : Watchful (s.opened .tick) := hs.of_eq rfl rfl rfl
    have hroute := tick_route P (s.opened .tick) (hs.alert (running_of_due due))
    exact (hopened.of_noted.of_handles hroute.handles).of_eq rfl rfl rfl
  | @handled occasion _ due going handles result =>
    rw [result]
    have hopened : Watchful (s.opened occasion) := by
      cases occasion <;> exact hs.of_eq rfl rfl rfl
    exact (hopened.of_handles handles).of_eq rfl rfl rfl

theorem step (hs : Watchful s) (input : Input σ) : Watchful (step P s input) := by
  by_cases hturn : input = .turn
  · rw [hturn]
    exact hs.turn
  · have hframe := step_frame P s hturn
    have hadds := step_adds P s hturn
    refine ⟨by rw [hframe]; exact hs.alert, ?_⟩
    have hwatchdog : (Supervisor.step P s input).watchdog = s.watchdog := by rw [hframe]
    rw [hwatchdog, hs.last, hadds.lastObserved_eq]
    rintro _ ⟨ticket, rfl⟩
    rfl

variable (P) in
/-- **Every reachable supervisor remembers the last observation.** -/
theorem of_reached (spec : Spec) (system : σ) (sink : Option Sink) (inputs : List (Input σ)) :
    Watchful (reached P spec system sink inputs) := by
  refine run_invariant ?_ fun u hu input _ => hu.step input
  have hnew : Watchful (new spec system sink) := ⟨fun _ => rfl, rfl⟩
  have hlaunch := hnew.of_handles (Handles.of_launch (P := P))
  have hwatchdog := (launch_keeps P (new spec system sink)).watchdog
  refine supervise_invariant hlaunch ⟨?_, hlaunch.last⟩ fun _ h => h.finish
  intro _
  exact congrArg Watchdog.cancelled hwatchdog

end Watchful

/-- The turn of a tick that finds the process gone. -/
theorem turn_of_gone (hs : Watchful s) (due : s.due? = some .tick)
    (gone : (s.observe P).1 = .terminated) :
    s.turn P = (((s.opened .tick).noted P).onTerminated P).rearm := by
  have hlive : (s.opened .tick).watchdog.cancelled = false := hs.alert (running_of_due due)
  rw [← onTick_of_gone P _ hlive (opened_observe.1.trans gone)]
  exact turn_eq due

end Supervisor

end Overseer
