import Overseer.Proofs.Supervisor.Accounting
import Overseer.Proofs.Supervisor.Parking
import Overseer.ScriptedProcess

/-!
# How often the loop looks for an exit

While somebody is parked the exit check is due an interval after the last turn of the loop, whatever
that turn dealt with.  So each turn postpones it by an interval at most, and turns that come in
quick succession postpone it forever.

* `Undisturbed` -- nothing goes before the exit check;
* `Turned` -- the turns of a run that dealt with something; `armed_of_reached` -- the exit check is
  an interval after the last of them;
* `followingTick_bounds` -- a tick that comes late puts off the next one by no more than that;
* `Prompt` -- the runs in which time does not pass while something is due; `OnTime` -- what these
  preserve;
* `LastLook` -- the last turn that looked; `lastLook_of_parked` -- how long ago it was at most;
* `exit_check_cadence` -- when the exit check is due, and how late it comes.
-/

namespace Overseer

namespace Supervisor

variable {σ : Type} {P : Platform σ} {s t : Supervisor σ}

/-! ## The exit check -/

/-- Nothing goes before the exit check. -/
structure Undisturbed (s : Supervisor σ) : Prop where
  running : s.running = true
  going : s.cancelled = false
  free : s.watchdog.pending = false
  unasked : s.detached = true ∨ s.handles = true ∧ s.queue = []

theorem due?_eq_exitCheck : s.due? = some .exitCheck ↔
    Undisturbed s ∧ ∃ check, s.exitCheck = some check ∧ check ≤ s.now := by
  constructor
  · intro h
    obtain ⟨hrunning, hdue⟩ := due_of_eq h
    cases hdue with
    | exitCheck going free unasked armed come =>
      exact ⟨⟨hrunning, going, free, unasked⟩, _, armed, come⟩
  · rintro ⟨⟨hrunning, hcancelled, hfree, hasked⟩, check, hset, hcheck⟩
    rcases hasked with hdetached | ⟨hhandles, hqueue⟩
    · simp [due?, hrunning, hcancelled, hfree, hdetached, hset, hcheck]
    · simp [due?, hrunning, hcancelled, hfree, hhandles, hqueue, hset, hcheck]

/-! ## The timers -/

variable (P s) in
theorem serve_now (occasion : Occasion) : (s.serve P occasion).now = s.now := by
  by_cases hend : occasion = .cancelled
  · subst hend
    have hfinish : s.finish.now = s.now := by rw [finish_eq]
    exact hfinish
  · rw [serve_frame P s hend]
    cases occasion <;> rfl

variable (P s) in
/-- A turn lasts no time. -/
theorem turn_now : (s.turn P).now = s.now := by
  cases hdue : s.due? with
  | none => rw [turn_of_idle hdue]
  | some occasion => rw [turn_eq hdue]; exact serve_now P s occasion

variable (P s) in
/-- Time does not go back. -/
theorem step_now (input : Input σ) : s.now ≤ (step P s input).now := by
  cases input with
  | turn => exact Nat.le_of_eq (turn_now P s).symm
  | elapse ms => exact Nat.le_add_right _ _
  | send ticket request => exact Nat.le_of_eq (by rw [step, send_frame])
  | _ => exact Nat.le_refl _

/-- A turn sets the exit check anew while somebody is parked. -/
theorem turn_exitCheck {occasion : Occasion} (hdue : s.due? = some occasion) :
    (s.turn P).waiters = [] ∧ (s.turn P).exitCheck = none ∨
      (s.turn P).waiters ≠ [] ∧ (s.turn P).exitCheck = some (s.now + exitPollInterval) := by
  rw [turn_eq hdue]
  unfold rearm
  dsimp only
  rw [serve_now]
  cases (s.serve P occasion).waiters with
  | nil => exact .inl ⟨rfl, rfl⟩
  | cons first rest => exact .inr ⟨by simp, rfl⟩

/-- Where the loop deals with nothing the exit check stays. -/
theorem step_of_unturned {input : Input σ} (h : ¬ (input = .turn ∧ s.due? ≠ none)) :
    (step P s input).waiters = s.waiters ∧ (step P s input).exitCheck = s.exitCheck := by
  by_cases hturn : input = .turn
  · subst hturn
    rw [step, turn_of_idle (by simpa using h)]
    exact ⟨rfl, rfl⟩
  · rw [step_frame P s hturn]
    exact ⟨rfl, rfl⟩

/-- A tick does not come early. -/
theorem nextTick_le_of_due (h : s.due? = some .tick) : s.nextTick ≤ s.now := by
  obtain ⟨-, hdue⟩ := due_of_eq h
  cases hdue with
  | tick _ _ _ come => exact come

/-- A tick is followed by another one a period after it was due at the earliest, and a period after
it came at the latest. -/
theorem followingTick_bounds (hcome : s.nextTick ≤ s.now) :
    s.nextTick + s.period ≤ s.followingTick ∧ s.followingTick ≤ s.now + s.period := by
  unfold followingTick
  split
  · exact ⟨Nat.add_le_add_right hcome _, Nat.le_refl _⟩
  · exact ⟨Nat.le_refl _, Nat.add_le_add_right hcome _⟩

/-- Unless it ends, the loop goes on after a turn, and only a tick sets the next tick. -/
theorem turn_nextTick {occasion : Occasion} (hdue : s.due? = some occasion)
    (hend : occasion ≠ .cancelled) :
    (s.turn P).running = true ∧ (s.turn P).period = s.period ∧
      ((s.turn P).nextTick = s.nextTick ∨
        s.nextTick ≤ s.now ∧ (s.turn P).nextTick = s.followingTick) := by
  have hopened : (s.opened occasion).running = s.running ∧ (s.opened occasion).period = s.period ∧
      ((s.opened occasion).nextTick = s.nextTick ∨
        s.nextTick ≤ s.now ∧ (s.opened occasion).nextTick = s.followingTick) := by
    cases occasion with
    | tick => exact ⟨rfl, rfl, .inr ⟨nextTick_le_of_due hdue, rfl⟩⟩
    | _ => exact ⟨rfl, rfl, .inl rfl⟩
  have hserve : (s.serve P occasion).running = (s.opened occasion).running ∧
      (s.serve P occasion).period = (s.opened occasion).period ∧
      (s.serve P occasion).nextTick = (s.opened occasion).nextTick := by
    rw [serve_frame P s hend]
    exact ⟨rfl, rfl, rfl⟩
  have hkept : (s.turn P).running = (s.serve P occasion).running ∧
      (s.turn P).period = (s.serve P occasion).period ∧
      (s.turn P).nextTick = (s.serve P occasion).nextTick := by
    rw [turn_eq hdue]
    exact ⟨rfl, rfl, rfl⟩
  rw [hkept.1, hkept.2.1, hkept.2.2, hserve.1, hserve.2.1, hserve.2.2, hopened.1, hopened.2.1]
  exact ⟨running_of_due hdue, rfl, hopened.2.2⟩

/-- What is due next is neither after the next tick nor after the exit check. -/
theorem nextDeadline?_le (hrunning : s.running = true) :
    ∃ deadline, s.nextDeadline? = some deadline ∧ deadline ≤ s.nextTick ∧
      ∀ check, s.exitCheck = some check → deadline ≤ check := by
  cases hcheck : s.exitCheck with
  | none => exact ⟨s.nextTick, by simp [nextDeadline?, hrunning, hcheck], Nat.le_refl _, by simp⟩
  | some check =>
    refine ⟨min check s.nextTick, by simp [nextDeadline?, hrunning, hcheck],
      Nat.min_le_right _ _, ?_⟩
    rintro _ ⟨⟩
    exact Nat.min_le_left _ _

/-- The timers of a loop that takes every turn in time. -/
structure OnTime (s : Supervisor σ) : Prop where
  stopped : s.running = false → s.exitCheck = none
  ticks : s.running = true → s.now ≤ s.nextTick
  checks : ∀ check, s.exitCheck = some check → s.now ≤ check
  near : s.nextTick ≤ s.now + s.period
  /-- The next tick was set before the exit check. -/
  ahead : ∀ check, s.exitCheck = some check → s.nextTick + exitPollInterval ≤ check + s.period

namespace OnTime

/-- Without an exit check. -/
theorem of_unarmed (hcheck : s.exitCheck = none) (hticks : s.running = true → s.now ≤ s.nextTick)
    (hnear : s.nextTick ≤ s.now + s.period) : OnTime s where
  stopped := fun _ => hcheck
  ticks := hticks
  checks := by simp [hcheck]
  near := hnear
  ahead := by simp [hcheck]

theorem of_finish (hs : OnTime s) : OnTime s.finish := by
  have hframe : s.finish.exitCheck = none ∧ s.finish.running = false ∧
      s.finish.nextTick = s.nextTick ∧ s.finish.now = s.now ∧ s.finish.period = s.period := by
    rw [finish_eq]
    exact ⟨rfl, rfl, rfl, rfl, rfl⟩
  obtain ⟨hcheck, hstopped, htick, hnow, hperiod⟩ := hframe
  refine .of_unarmed hcheck (by simp [hstopped]) ?_
  rw [htick, hnow, hperiod]
  exact hs.near

theorem turn (hs : OnTime s) : OnTime (s.turn P) := by
  cases hdue : s.due? with
  | none => rwa [turn_of_idle hdue]
  | some occasion =>
    have hnow := turn_now P s
    by_cases hend : occasion = .cancelled
    · subst hend
      have hfinish := hs.of_finish
      have hcheck : (s.turn P).exitCheck = none := by
        rcases turn_exitCheck (P := P) hdue with ⟨-, h⟩ | ⟨h, -⟩
        · exact h
        · rw [turn_eq hdue] at h
          exact absurd finish_left.1 h
      rw [turn_eq hdue] at hcheck ⊢
      exact .of_unarmed hcheck hfinish.ticks hfinish.near
    · obtain ⟨hrunning, hperiod, hset⟩ := turn_nextTick (P := P) hdue hend
      have hticks := hs.ticks (running_of_due hdue)
      -- The tick that is due next is not past, and a period away at most.
      have htick : s.now ≤ (s.turn P).nextTick ∧ (s.turn P).nextTick ≤ s.now + s.period := by
        rcases hset with hsame | ⟨hcome, hfollowing⟩
        · rw [hsame]
          exact ⟨hticks, hs.near⟩
        · obtain ⟨hfirst, hlast⟩ := followingTick_bounds hcome
          rw [hfollowing]
          exact ⟨Nat.le_trans hticks (Nat.le_trans (Nat.le_add_right _ _) hfirst), hlast⟩
      rcases turn_exitCheck (P := P) hdue with ⟨-, hcheck⟩ | ⟨-, hcheck⟩
      · exact .of_unarmed hcheck (fun _ => by grind) (by grind)
      · refine ⟨by simp [hrunning], fun _ => by grind, ?_, by grind, ?_⟩ <;>
          rw [hcheck] <;> rintro _ ⟨⟩ <;> grind

/-- Time passes up to what is due next. -/
theorem elapse (hs : OnTime s) {ms : Nat}
    (hnext : ∀ deadline, s.nextDeadline? = some deadline → s.now + ms ≤ deadline) :
    OnTime { s with now := s.now + ms } where
  stopped := hs.stopped
  ticks := by
    intro hrunning
    obtain ⟨deadline, hdeadline, htick, -⟩ := nextDeadline?_le hrunning
    exact Nat.le_trans (hnext deadline hdeadline) htick
  checks := by
    intro check hcheck
    have hrunning : s.running = true := by
      by_contra hstopped
      have hnone := hs.stopped (by simpa using hstopped)
      exact absurd (hnone.symm.trans hcheck) (by simp)
    obtain ⟨deadline, hdeadline, -, hfirst⟩ := nextDeadline?_le hrunning
    exact Nat.le_trans (hnext deadline hdeadline) (hfirst check hcheck)
  near := Nat.le_trans hs.near (Nat.add_le_add_right (Nat.le_add_right _ _) _)
  ahead := hs.ahead

/-- Nothing else from outside concerns the timers. -/
theorem step_other (hs : OnTime s) {input : Input σ} (hturn : input ≠ .turn)
    (helapse : ∀ ms, input ≠ .elapse ms) : OnTime (step P s input) := by
  have hframe := step_frame P s hturn
  have hnow : (step P s input).now = s.now := by
    cases input with
    | turn => exact absurd rfl hturn
    | elapse ms => exact absurd rfl (helapse ms)
    | send ticket request => rw [step, send_frame]
    | _ => rfl
  have hkept : (step P s input).running = s.running ∧ (step P s input).exitCheck = s.exitCheck ∧
      (step P s input).nextTick = s.nextTick ∧ (step P s input).period = s.period := by
    rw [hframe]
    exact ⟨rfl, rfl, rfl, rfl⟩
  obtain ⟨hrunning, hcheck, htick, hperiod⟩ := hkept
  refine ⟨?_, ?_, ?_, ?_, ?_⟩
  · rw [hrunning, hcheck]; exact hs.stopped
  · rw [hrunning, hnow, htick]; exact hs.ticks
  · rw [hcheck, hnow]; exact hs.checks
  · rw [htick, hnow, hperiod]; exact hs.near
  · rw [hcheck, htick, hperiod]; exact hs.ahead

end OnTime

/-! ## Runs -/

section

variable (P) (spec : Spec) (system : σ) (sink : Option Sink)

/-- Time does not pass while something is due, nor past what is due next. -/
def Prompt (inputs : List (Input σ)) : Prop :=
  ∀ before ms after, inputs = before ++ .elapse ms :: after →
    (reached P spec system sink before).due? = none ∧
      ∀ deadline, (reached P spec system sink before).nextDeadline? = some deadline →
        (reached P spec system sink before).now + ms ≤ deadline

/-- A supervision begins on time. -/
theorem onTime_supervise : OnTime (supervise P spec system sink).2 := by
  have hlaunch := launch_keeps P (new spec system sink)
  have hcheck : ((new spec system sink).launch P).2.exitCheck = none := by rw [hlaunch]; rfl
  refine supervise_invariant ?_ ?_ fun _ h => h.of_finish
  · refine .of_unarmed hcheck ?_ ?_ <;> rw [hlaunch]
    · intro h
      cases h
    · exact Nat.zero_le _
  · exact .of_unarmed hcheck (fun _ => Nat.le_add_right _ _) (Nat.le_refl _)

/-- **A prompt loop takes every turn in time.** -/
theorem onTime_of_prompt {inputs : List (Input σ)} (h : Prompt P spec system sink inputs) :
    OnTime (reached P spec system sink inputs) := by
  induction inputs using List.reverseRecOn with
  | nil => exact onTime_supervise P spec system sink
  | append_singleton rest input ih =>
    have hrest : OnTime (reached P spec system sink rest) := by
      refine ih ?_
      rintro before ms after rfl
      exact h before ms (after ++ [input]) (by simp)
    rw [reached_concat]
    by_cases hturn : input = .turn
    · rw [hturn]
      exact hrest.turn
    · by_cases helapse : ∃ ms, input = .elapse ms
      · obtain ⟨ms, rfl⟩ := helapse
        exact hrest.elapse (h rest ms [] rfl).2
      · exact hrest.step_other hturn fun ms hms => helapse ⟨ms, hms⟩

/-- In its turn after `before` the loop dealt with something. -/
def Turned (before inputs : List (Input σ)) : Prop :=
  ∃ after, inputs = before ++ .turn :: after ∧ (reached P spec system sink before).due? ≠ none

/-- A moment that is an interval after the last turn that dealt with something. -/
structure Armed (inputs : List (Input σ)) (check : Moment) : Prop where
  last : ∃ before, Turned P spec system sink before inputs ∧
    check = (reached P spec system sink before).now + exitPollInterval
  later : ∀ before, Turned P spec system sink before inputs →
    (reached P spec system sink before).now + exitPollInterval ≤ check

variable {P spec system sink}

theorem turned_concat {before inputs : List (Input σ)} {input : Input σ} :
    Turned P spec system sink before (inputs ++ [input]) ↔
      Turned P spec system sink before inputs ∨
        before = inputs ∧ input = .turn ∧ (reached P spec system sink inputs).due? ≠ none := by
  constructor
  · rintro ⟨after, hinputs, hdue⟩
    rcases concat_eq_split hinputs with ⟨rfl, hturn, -⟩ | ⟨rest, -, hrest⟩
    · exact .inr ⟨rfl, hturn.symm, hdue⟩
    · exact .inl ⟨rest, hrest, hdue⟩
  · rintro (⟨after, rfl, hdue⟩ | ⟨rfl, rfl, hdue⟩)
    · exact ⟨after ++ [input], by simp, hdue⟩
    · exact ⟨[], rfl, hdue⟩

/-- What the loop dealt with lies in the past. -/
theorem Turned.now_le {before inputs : List (Input σ)}
    (h : Turned P spec system sink before inputs) :
    (reached P spec system sink before).now ≤ (reached P spec system sink inputs).now := by
  obtain ⟨after, rfl, -⟩ := h
  have hsplit := run_append (P := P) (s := (supervise P spec system sink).2) before (.turn :: after)
  unfold reached at *
  rw [hsplit]
  refine @run_invariant σ P _ (fun u => (run P (supervise P spec system sink).2 before).now ≤ u.now)
    (.turn :: after) (Nat.le_refl _) ?_
  intro u hu input _
  exact Nat.le_trans hu (step_now P u input)

/-- **The exit check is an interval after the last turn**, while somebody is parked. -/
theorem armed_of_reached (inputs : List (Input σ)) :
    (reached P spec system sink inputs).waiters = [] ∧
        (reached P spec system sink inputs).exitCheck = none ∨
      (reached P spec system sink inputs).waiters ≠ [] ∧
        ∃ check, (reached P spec system sink inputs).exitCheck = some check ∧
          Armed P spec system sink inputs check := by
  induction inputs using List.reverseRecOn with
  | nil =>
    left
    refine @supervise_invariant σ P (fun u => u.waiters = [] ∧ u.exitCheck = none) spec system sink
      ?_ ?_ ?_
    · rw [launch_keeps]
      exact ⟨rfl, rfl⟩
    · rw [launch_keeps]
      exact ⟨rfl, rfl⟩
    · intro u _
      rw [finish_eq]
      exact ⟨rfl, rfl⟩
  | append_singleton rest input ih =>
    by_cases hturned : input = .turn ∧ (reached P spec system sink rest).due? ≠ none
    · obtain ⟨rfl, hsome⟩ := hturned
      obtain ⟨occasion, hdue⟩ := Option.ne_none_iff_exists'.mp hsome
      rw [reached_concat]
      refine (turn_exitCheck hdue).imp id fun ⟨hparked, hcheck⟩ => ⟨hparked, _, hcheck, ?_⟩
      refine ⟨⟨rest, turned_concat.mpr (.inr ⟨rfl, rfl, hsome⟩), rfl⟩, ?_⟩
      intro before hbefore
      refine Nat.add_le_add_right ?_ _
      rcases turned_concat.mp hbefore with hearlier | ⟨rfl, -⟩
      · exact hearlier.now_le
      · exact Nat.le_refl _
    · -- The loop dealt with nothing, and the exit check stays.
      have hkept := step_of_unturned (P := P) hturned
      have hsame (before : List (Input σ)) : Turned P spec system sink before (rest ++ [input]) ↔
          Turned P spec system sink before rest := by
        rw [turned_concat]
        refine or_iff_left ?_
        rintro ⟨-, hinput, hdue⟩
        exact hturned ⟨hinput, hdue⟩
      rw [reached_concat, hkept.1, hkept.2]
      refine ih.imp id fun ⟨hparked, check, hcheck, harmed⟩ => ⟨hparked, check, hcheck, ?_⟩
      obtain ⟨⟨before, hbefore, hlast⟩, hlater⟩ := harmed
      exact ⟨⟨before, (hsame before).mpr hbefore, hlast⟩, fun u hu => hlater u ((hsame u).mp hu)⟩

end

/-! ## How late the exit check comes -/

section

variable (P) (spec : Spec) (system : σ) (sink : Option Sink)

/-- The turn after `before` was the last that looked for an exit, and `others` turns came since. -/
structure LastLook (before inputs : List (Input σ)) (others : Nat) : Prop where
  looked : Looks P (reached P spec system sink before)
  since : ∃ after, inputs = before ++ .turn :: after ∧
    (served P (reached P spec system sink (before ++ [.turn])) after).length = others ∧
    ∀ middle last, after = middle ++ .turn :: last →
      ¬ Looks P (reached P spec system sink (before ++ .turn :: middle))

variable {P spec system sink}

theorem lastLook_of_looks {inputs : List (Input σ)}
    (h : Looks P (reached P spec system sink inputs)) :
    LastLook P spec system sink inputs (inputs ++ [.turn]) 0 := by
  refine ⟨h, [], rfl, rfl, ?_⟩
  intro middle last hafter
  cases middle <;> cases hafter

/-- What comes after the last look counts if it is another turn. -/
theorem LastLook.concat {before inputs : List (Input σ)} {others : Nat} {input : Input σ}
    (h : LastLook P spec system sink before inputs others)
    (hquiet : input = .turn → ¬ Looks P (reached P spec system sink inputs)) :
    LastLook P spec system sink before (inputs ++ [input])
      (others + (served P (reached P spec system sink inputs) [input]).length) := by
  obtain ⟨looked, after, rfl, hcount, hsince⟩ := h
  have hrun : run P (reached P spec system sink (before ++ [.turn])) after =
      reached P spec system sink (before ++ .turn :: after) := by
    have happend := run_append (P := P) (s := (supervise P spec system sink).2)
      (before ++ [.turn]) after
    rw [List.append_assoc] at happend
    exact happend.symm
  refine ⟨looked, after ++ [input], by simp, ?_, ?_⟩
  · rw [served_append, List.length_append, hcount, hrun]
  · intro middle last hafter
    rcases concat_eq_split hafter with ⟨rfl, hturn, -⟩ | ⟨rest, -, hrest⟩
    · exact hquiet hturn.symm
    · exact hsince middle rest hrest

/-- The exit check is an interval away after the last look, and each other turn since puts it off by
an interval at most. -/
theorem lastLook_of_parked {inputs : List (Input σ)} (hprompt : Prompt P spec system sink inputs)
    {check : Moment} (hcheck : (reached P spec system sink inputs).exitCheck = some check) :
    ∃ before others, LastLook P spec system sink before inputs others ∧
      check ≤ (reached P spec system sink before).now + exitPollInterval * (others + 1) := by
  induction inputs using List.reverseRecOn generalizing check with
  | nil =>
    rcases @armed_of_reached σ P spec system sink [] with ⟨-, hnone⟩ | ⟨hparked, -⟩
    · rw [hnone] at hcheck
      cases hcheck
    · exact absurd (supervise_waiters P spec system sink) hparked
  | append_singleton rest input ih =>
    have hrest : Prompt P spec system sink rest := by
      rintro before ms after rfl
      exact hprompt before ms (after ++ [input]) (by simp)
    have hontime := onTime_of_prompt P spec system sink hrest
    have harmed := @armed_of_reached σ P spec system sink rest
    rw [reached_concat] at hcheck
    by_cases hturned : input = .turn ∧ (reached P spec system sink rest).due? ≠ none
    · obtain ⟨rfl, hsome⟩ := hturned
      obtain ⟨occasion, hdue⟩ := Option.ne_none_iff_exists'.mp hsome
      have hafter := turn_exitCheck (P := P) hdue
      rw [step] at hcheck
      obtain ⟨hparked, hset⟩ := hafter.resolve_left fun h => by simp [h.2] at hcheck
      obtain rfl := Option.some.inj (hset.symm.trans hcheck)
      by_cases hlooks : Looks P (reached P spec system sink rest)
      · exact ⟨rest, 0, lastLook_of_looks hlooks, Nat.le_refl _⟩
      · -- Everybody was parked before this turn, which comes before the exit check is late.
        have hstayed := (turn_waiters hlooks).resolve_right hparked
        rw [hstayed] at hparked
        obtain ⟨-, old, hold, -⟩ := harmed.resolve_left fun h => hparked h.1
        obtain ⟨before, others, hlast, hbound⟩ := ih hrest hold
        have hintime := hontime.checks old hold
        have hone : (served P (reached P spec system sink rest) [.turn]).length = 1 := by
          simp [served, hdue]
        refine ⟨before, others + 1, hone ▸ hlast.concat fun _ => hlooks, ?_⟩
        grind
    · -- The loop dealt with nothing, and the exit check stays.
      rw [(step_of_unturned hturned).2] at hcheck
      obtain ⟨before, others, hlast, hbound⟩ := ih hrest hcheck
      refine ⟨before, _, hlast.concat fun hturn hlooks => hturned ⟨hturn, hlooks.due⟩, ?_⟩
      refine Nat.le_trans hbound (Nat.add_le_add_left (Nat.mul_le_mul_left _ ?_) _)
      omega

end

/-- **The cadence of the exit check.**  It is due when it is the first of what there is, and the
loop has dealt with nothing for an interval.  So a loop that takes every turn in time looks after
whoever is parked an interval after it has looked last, and an interval later for every other turn
that came since; and with ticks that come closer than an interval the exit check is never due. -/
theorem exit_check_cadence (P : Platform σ) (spec : Spec) (system : σ) (sink : Option Sink)
    (inputs : List (Input σ)) :
    ((reached P spec system sink inputs).due? = some .exitCheck ↔
      Undisturbed (reached P spec system sink inputs) ∧
        (reached P spec system sink inputs).waiters ≠ [] ∧
        ∀ before, Turned P spec system sink before inputs →
          (reached P spec system sink before).now + exitPollInterval ≤
            (reached P spec system sink inputs).now) ∧
    (Prompt P spec system sink inputs →
      ((reached P spec system sink inputs).waiters ≠ [] →
        ∃ before others, LastLook P spec system sink before inputs others ∧
          (reached P spec system sink inputs).now ≤
            (reached P spec system sink before).now + exitPollInterval * (others + 1)) ∧
      ((reached P spec system sink inputs).period < exitPollInterval →
        (reached P spec system sink inputs).due? ≠ some .exitCheck)) := by
  have harmed := @armed_of_reached σ P spec system sink inputs
  constructor
  · rw [due?_eq_exitCheck]
    refine and_congr_right fun _ => ?_
    rcases harmed with ⟨hnobody, hnone⟩ | ⟨hparked, check, hset, harmed⟩
    · simp [hnobody, hnone]
    · constructor
      · rintro ⟨found, hfound, hcheck⟩
        obtain rfl := Option.some.inj (hset.symm.trans hfound)
        exact ⟨hparked, fun before hbefore => Nat.le_trans (harmed.later before hbefore) hcheck⟩
      · rintro ⟨-, hall⟩
        obtain ⟨before, hbefore, rfl⟩ := harmed.last
        exact ⟨_, hset, hall before hbefore⟩
  · intro hprompt
    have hontime := onTime_of_prompt P spec system sink hprompt
    constructor
    · intro hparked
      obtain ⟨-, check, hset, -⟩ := harmed.resolve_left fun h => hparked h.1
      obtain ⟨before, others, hlast, hbound⟩ := lastLook_of_parked hprompt hset
      exact ⟨before, others, hlast, Nat.le_trans (hontime.checks check hset) hbound⟩
    · intro hclose hdue
      obtain ⟨hfree, check, hset, hcheck⟩ := due?_eq_exitCheck.mp hdue
      -- The tick comes before the exit check is due, which a turn then sets anew.
      have htick := hontime.ticks hfree.running
      have hahead := hontime.ahead check hset
      grind

/-- A process, after some inputs. -/
def attended (inputs : List (Input ScriptedProcess)) : Supervisor ScriptedProcess :=
  reached ScriptedProcess.platform (ScriptedProcess.spec .never) {} none inputs

/-- Somebody awaits the exit, and somebody else asks for the process identifier in the meantime. -/
def askedMeanwhile : List (Input ScriptedProcess) :=
  [.send 0 .wait, .turn, .elapse 15, .send 1 .pid, .turn, .elapse 15]

theorem prompt_askedMeanwhile :
    Prompt ScriptedProcess.platform (ScriptedProcess.spec .never) {} none askedMeanwhile := by
  intro before ms after hinputs
  obtain ⟨n, hless, rfl, hinput⟩ := split_at_index hinputs
  have hcases : n = 0 ∨ n = 1 ∨ n = 2 ∨ n = 3 ∨ n = 4 ∨ n = 5 := by
    change n < 6 at hless
    omega
  rcases hcases with rfl | rfl | rfl | rfl | rfl | rfl <;> cases hinput
  · have hnext : (attended (askedMeanwhile.take 2)).nextDeadline? = some 20 := by decide
    refine ⟨by decide, fun deadline hdeadline => ?_⟩
    obtain rfl := Option.some.inj (hnext.symm.trans hdeadline)
    decide
  · have hnext : (attended (askedMeanwhile.take 5)).nextDeadline? = some 35 := by decide
    refine ⟨by decide, fun deadline hdeadline => ?_⟩
    obtain rfl := Option.some.inj (hnext.symm.trans hdeadline)
    decide

/-- **A request for the process identifier postpones the exit check.**  The awaited process was
looked at when the wait was parked, and not for more than an interval since. -/
theorem asked_meanwhile_overdue :
    (∃ before others,
      LastLook ScriptedProcess.platform (ScriptedProcess.spec .never) {} none before askedMeanwhile
          others ∧
        (attended askedMeanwhile).now ≤ (attended before).now + exitPollInterval * (others + 1)) ∧
    ∀ before, Turned ScriptedProcess.platform (ScriptedProcess.spec .never) {} none before
        askedMeanwhile →
      Looks ScriptedProcess.platform (attended before) →
      (attended before).now + exitPollInterval < (attended askedMeanwhile).now := by
  have hcadence := (exit_check_cadence ScriptedProcess.platform (ScriptedProcess.spec .never) {}
    none askedMeanwhile).2 prompt_askedMeanwhile
  refine ⟨hcadence.1 (by decide), ?_⟩
  rintro before ⟨after, hinputs, -⟩ hlooks
  obtain ⟨n, hless, rfl, hinput⟩ := split_at_index hinputs
  have hcases : n = 0 ∨ n = 1 ∨ n = 2 ∨ n = 3 ∨ n = 4 ∨ n = 5 := by
    change n < 6 at hless
    omega
  rcases hcases with rfl | rfl | rfl | rfl | rfl | rfl <;> cases hinput
  · decide
  · -- The second turn serves the request, and parks nobody.
    exfalso
    rcases hlooks with hdue | ⟨waiter, hcount⟩
    · revert hdue
      decide
    · have hsame : ((attended (askedMeanwhile.take 4)).turn ScriptedProcess.platform).waiters =
          (attended (askedMeanwhile.take 4)).waiters := by decide
      rw [hsame] at hcount
      exact Nat.lt_irrefl _ hcount

end Supervisor

end Overseer
