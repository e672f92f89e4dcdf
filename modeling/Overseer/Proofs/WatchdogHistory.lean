import Mathlib.Data.List.Destutter
import Mathlib.Data.List.TakeWhile
import Overseer.Proofs.Watchdog

/-!
# The watchdog over a whole history

A watchdog is told of events, and in between its scheduled relaunch is picked up, in any order.
This file says what it answers, and what it is left with, from the calls alone.

* `Watchdog.Call`, `Watchdog.responses`, `Watchdog.after` -- the calls made to a watchdog, its
  answers, and the watchdog after them;
* `observations` -- what it was told before it was cancelled;
* `Tally` -- what every history leaves behind: the last observation, the flags, and the counts;
  `Tally.tick`, `Tally.call` -- so does the history with one more call;
* `destutter_concat` -- a list without repetitions, and one more element;
* `watchdog_history` -- the tally of every history, and what the next call does.
-/

namespace Overseer

/-- A list that goes on with one more element, repetitions removed. -/
theorem destutter'_concat {α : Type} [DecidableEq α] (xs : List α) (first x : α) :
    (xs ++ [x]).destutter' (· ≠ ·) first = xs.destutter' (· ≠ ·) first ++
      if (first :: xs).getLast? = some x then [] else [x] := by
  induction xs generalizing first with
  | nil => by_cases h : first = x <;> simp [h]
  | cons y rest ih =>
    have hlast : (first :: y :: rest).getLast? = (y :: rest).getLast? := by simp
    rw [hlast, List.cons_append, List.destutter'_cons, List.destutter'_cons]
    by_cases h : first = y
    · subst h
      simpa using ih first
    · rw [if_pos h, if_pos h, ih y, List.cons_append]

theorem destutter_concat {α : Type} [DecidableEq α] (xs : List α) (x : α) :
    (xs ++ [x]).destutter (· ≠ ·) =
      xs.destutter (· ≠ ·) ++ if xs.getLast? = some x then [] else [x] := by
  cases xs with
  | nil => simp
  | cons first rest => exact destutter'_concat rest first x

namespace Watchdog

/-! ## Calls and responses -/

/-- What is done to a watchdog. -/
inductive Call where
  /-- It is told of an event. -/
  | event (event : WatchEvent)
  /-- The relaunch that it has scheduled is picked up, if there is one. -/
  | take
  deriving DecidableEq, Repr

/-- What a call is answered. -/
inductive Response where
  | verdict (verdict : Verdict)
  /-- Whether there was a relaunch to pick up. -/
  | taken (due : Bool)
  deriving DecidableEq, Repr

/-- One call. -/
def call (w : Watchdog) : Call → Response × Watchdog
  | .event event => (.verdict (w.step event).1, (w.step event).2)
  | .take => (.taken w.takeRestart.1, w.takeRestart.2)

/-- The watchdog after a list of calls. -/
def after (w : Watchdog) (calls : List Call) : Watchdog :=
  calls.foldl (fun w c => (w.call c).2) w

/-- What a list of calls is answered. -/
def responses (w : Watchdog) : List Call → List Response
  | [] => []
  | c :: rest => (w.call c).1 :: responses (w.call c).2 rest

/-- What a call tells of the process. -/
def Call.observation? : Call → Option Status
  | .event (.tick status) => some status
  | _ => none

/-- The outcome of a tick that was not ignored. -/
def Response.outcome? : Response → Option TickOutcome
  | .verdict (.observed outcome) => some outcome
  | _ => none

/-- What the watchdog was told before it was cancelled. -/
def observations (calls : List Call) : List Status :=
  (calls.takeWhile (· ≠ .event .cancel)).filterMap Call.observation?

/-- The outcomes of the ticks that were not ignored. -/
def outcomes (told : List Response) : List TickOutcome := told.filterMap Response.outcome?

/-- How many relaunches were granted. -/
def relaunches (told : List Response) : Nat :=
  (outcomes told).countP (·.restart = .relaunch)

/-- How often there was a relaunch to pick up. -/
def pickups (told : List Response) : Nat := told.count (.taken true)

variable (w : Watchdog) (calls : List Call) (told : List Response) (c : Call)

theorem after_concat : w.after (calls ++ [c]) = ((w.after calls).call c).2 := by
  simp [after]

theorem responses_concat :
    w.responses (calls ++ [c]) = w.responses calls ++ [((w.after calls).call c).1] := by
  induction calls generalizing w with
  | nil => rfl
  | cons first rest ih =>
    rw [List.cons_append, responses, ih, responses, List.cons_append]
    rfl

/-- Once it is cancelled a watchdog is told of nothing. -/
theorem observations_concat : observations (calls ++ [c]) =
    observations calls ++ if .event .cancel ∈ calls then [] else c.observation?.toList := by
  unfold observations
  rw [List.takeWhile_append]
  by_cases hended : .event .cancel ∈ calls
  · have hshorter : (calls.takeWhile (· ≠ .event .cancel)).length ≠ calls.length := by
      intro hall
      rw [← (List.takeWhile_prefix _).eq_of_length hall] at hended
      simpa using List.mem_takeWhile_imp hended
    rw [if_neg hshorter, if_pos hended, List.append_nil]
  · have hwhole : calls.takeWhile (· ≠ .event .cancel) = calls := by
      rw [List.takeWhile_eq_self_iff]
      intro x hmem
      have hother : x ≠ .event .cancel := fun hcancel => hended (hcancel ▸ hmem)
      simpa using hother
    rw [hwhole, if_pos rfl, if_neg hended, List.filterMap_append]
    congr 1
    cases c with
    | take => rfl
    | event event => cases event <;> rfl

theorem outcomes_concat (r : Response) :
    outcomes (told ++ [r]) = outcomes told ++ r.outcome?.toList := by
  unfold outcomes
  rw [List.filterMap_append]
  cases h : r.outcome? <;> simp [h]

/-! ## What a history leaves behind -/

/-- What the calls leave behind of a watchdog that began with `budget`: it has answered `told`, and
has become `w`. -/
structure Tally (budget : Budget) (calls : List Call) (told : List Response) (w : Watchdog) :
    Prop where
  /-- What was observed last is remembered. -/
  last : w.last = (observations calls).getLast?
  cancelled : w.cancelled = decide (.event .cancel ∈ calls)
  /-- Every tick is answered until the watchdog is cancelled, and none after it. -/
  observed : (outcomes told).map TickOutcome.observed = observations calls
  /-- What is notified is what was observed, the repetitions removed. -/
  notified : (outcomes told).filterMap TickOutcome.notify = (observations calls).destutter (· ≠ ·)
  /-- Something is decided exactly when the end of the process is notified, and an exit status is
  collected exactly when a zombie is. -/
  decided : ∀ outcome ∈ outcomes told,
    (outcome.restart ≠ .skip ↔ outcome.notify = some .terminated) ∧
      (outcome.reap = true ↔ outcome.notify = some .zombie)
  /-- What was granted is charged to the budget, and nothing else is. -/
  spent : Budget.Spent (relaunches told) budget w.budget
  /-- What was granted was picked up, or is still scheduled. -/
  pickedUp : pickups told + w.pending.toNat = relaunches told

/-- A tick decides something exactly when it notifies the end of the process, and has a zombie
collected exactly when it notifies one. -/
theorem observe_decided (status : Status) :
    ((w.observe status).1.restart ≠ .skip ↔ (w.observe status).1.notify = some .terminated) ∧
      ((w.observe status).1.reap = true ↔ (w.observe status).1.notify = some .zombie) := by
  have hreap : (w.observe status).1.reap = true ↔
      w.last ≠ some status ∧ status = .zombie := by
    unfold observe
    split <;> simp_all
  rw [hreap, observe_notify]
  cases observe_observes w status with
  | repeated same decided => simp [same, decided]
  | changed fresh there decided => simp [fresh, there, decided]
  | coalesced fresh gone _ decided | relaunch fresh gone _ _ decided
  | exhausted fresh gone _ _ decided =>
    subst gone
    simp [fresh, decided]

/-- A tick is answered with its outcome while the watchdog is not cancelled. -/
theorem step_tick (h : w.cancelled = false) (status : Status) :
    w.step (.tick status) = (.observed (w.observe status).1, (w.observe status).2) := by
  simp [step, h]

/-- **A watchdog that is cancelled ignores every event.** -/
theorem step_of_cancelled (h : w.cancelled = true) (event : WatchEvent) :
    w.step event = (.stopped, w) := by
  simp [step, h]

namespace Tally

variable {budget : Budget} {w calls told}

theorem nil (budget : Budget) : Tally budget [] [] (new budget) where
  last := rfl
  cancelled := rfl
  observed := rfl
  notified := rfl
  decided := by simp [outcomes]
  spent := .refl budget
  pickedUp := rfl

/-- A call that tells nothing of the process leaves all but the flags as it is. -/
theorem of_untold {v : Watchdog} {r : Response} (h : Tally budget calls told w)
    (huntold : observations (calls ++ [c]) = observations calls) (hmute : r.outcome? = none)
    (hlast : v.last = w.last) (hbudget : v.budget = w.budget)
    (hcancelled : v.cancelled = decide (.event .cancel ∈ calls ++ [c]))
    (hpicked : [r].count (.taken true) + v.pending.toNat = w.pending.toNat) :
    Tally budget (calls ++ [c]) (told ++ [r]) v := by
  have houtcomes : outcomes (told ++ [r]) = outcomes told := by
    rw [outcomes_concat, hmute]
    simp
  have hrelaunches : relaunches (told ++ [r]) = relaunches told := by
    rw [relaunches, houtcomes, relaunches]
  refine ⟨?_, hcancelled, ?_, ?_, ?_, ?_, ?_⟩
  · rw [huntold, hlast, h.last]
  · rw [houtcomes, huntold, h.observed]
  · rw [houtcomes, huntold, h.notified]
  · rw [houtcomes]
    exact h.decided
  · rw [hrelaunches, hbudget]
    exact h.spent
  · have hbefore := h.pickedUp
    rw [hrelaunches, pickups, List.count_append]
    unfold pickups at hbefore
    omega

/-- **A tick** that is not ignored. -/
theorem tick (h : Tally budget calls told w) (hgoing : .event .cancel ∉ calls) (status : Status) :
    Tally budget (calls ++ [.event (.tick status)])
      (told ++ [.verdict (.observed (w.observe status).1)]) (w.observe status).2 := by
  have hobservations : observations (calls ++ [.event (.tick status)]) =
      observations calls ++ [status] := by
    rw [observations_concat, if_neg hgoing]
    rfl
  have houtcomes : outcomes (told ++ [.verdict (.observed (w.observe status).1)]) =
      outcomes told ++ [(w.observe status).1] := outcomes_concat _ _
  have hrelaunches : relaunches (told ++ [.verdict (.observed (w.observe status).1)]) =
      relaunches told + if (w.observe status).1.restart = .relaunch then 1 else 0 := by
    rw [relaunches, houtcomes, List.countP_append, relaunches]
    simp [List.countP_cons]
  have hpickups : pickups (told ++ [.verdict (.observed (w.observe status).1)]) =
      pickups told := by
    simp [pickups, List.count_append]
  have hspent := h.spent
  have hpicked := h.pickedUp
  refine ⟨?_, ?_, ?_, ?_, ?_, ?_, ?_⟩
  · rw [observe_last, hobservations, List.getLast?_concat]
  · rw [observe_cancelled, h.cancelled]
    simp
  · rw [houtcomes, hobservations, List.map_append, h.observed, List.map_singleton,
      observe_observed]
  · rw [houtcomes, hobservations, List.filterMap_append, h.notified, destutter_concat, ← h.last]
    congr 1
    by_cases hsame : w.last = some status <;> simp [observe_notify, hsame]
  · rw [houtcomes]
    intro outcome hmem
    rcases List.mem_append.mp hmem with hmem | hmem
    · exact h.decided outcome hmem
    · rw [List.mem_singleton.mp hmem]
      exact observe_decided w status
  · rw [hrelaunches]
    cases observe_observes w status with
    | repeated _ decided result | changed _ _ decided result | coalesced _ _ _ decided result
    | exhausted _ _ _ _ decided result =>
      rw [result, decided]
      exact hspent
    | relaunch _ _ _ granted decided result =>
      rw [result, decided]
      exact hspent.trans (Budget.consume_spent granted)
  · rw [hrelaunches, hpickups]
    cases observe_observes w status with
    | repeated _ decided result | changed _ _ decided result | coalesced _ _ _ decided result
    | exhausted _ _ _ _ decided result =>
      rw [result, decided]
      exact hpicked
    | relaunch _ _ free _ decided result =>
      rw [free] at hpicked
      rw [result, decided]
      exact congrArg (· + 1) hpicked

/-- **One more call**, whatever it is. -/
theorem call (h : Tally budget calls told w) (c : Call) :
    Tally budget (calls ++ [c]) (told ++ [(w.call c).1]) (w.call c).2 := by
  by_cases hended : .event .cancel ∈ calls
  · have hstopped : w.cancelled = true := by simpa [hended] using h.cancelled
    have huntold : observations (calls ++ [c]) = observations calls := by
      rw [observations_concat, if_pos hended, List.append_nil]
    cases c with
    | take =>
      refine h.of_untold .take huntold rfl rfl rfl ?_ ?_
      · simpa [Watchdog.call, takeRestart] using h.cancelled
      · cases hpending : w.pending <;> simp [Watchdog.call, takeRestart, hpending]
    | event event =>
      have hignored : w.call (.event event) = (.verdict .stopped, w) := by
        rw [Watchdog.call, step_of_cancelled w hstopped]
      rw [hignored]
      refine h.of_untold _ huntold rfl rfl rfl ?_ ?_
      · simp [hstopped, hended]
      · simp
  · have hgoing : w.cancelled = false := by simpa [hended] using h.cancelled
    have hmore : observations (calls ++ [c]) = observations calls ++ c.observation?.toList := by
      rw [observations_concat, if_neg hended]
    cases c with
    | take =>
      refine h.of_untold .take (hmore.trans (List.append_nil _)) rfl rfl rfl ?_ ?_
      · simpa [Watchdog.call, takeRestart] using h.cancelled
      · cases hpending : w.pending <;> simp [Watchdog.call, takeRestart, hpending]
    | event event =>
      cases event with
      | tick status =>
        rw [Watchdog.call, step_tick w hgoing]
        exact h.tick hended status
      | cancel =>
        have hcancel : w.call (.event .cancel) =
            (.verdict .stopped, { w with cancelled := true }) := by
          simp [Watchdog.call, step, hgoing]
        rw [hcancel]
        refine h.of_untold _ (hmore.trans (List.append_nil _)) rfl rfl rfl ?_ ?_
        · simp
        · simp

end Tally

/-- **The tally of every history.** -/
theorem tally_of_history (budget : Budget) (calls : List Call) :
    Tally budget calls ((new budget).responses calls) ((new budget).after calls) := by
  induction calls using List.reverseRecOn with
  | nil => exact .nil budget
  | append_singleton calls c ih =>
    rw [responses_concat, after_concat]
    exact ih.call c

/-- The budget is found exhausted exactly when the end of the process is notified, no relaunch is
scheduled, and the count is zero. -/
theorem observe_exhausted (status : Status) :
    (w.observe status).1.restart = .exhausted ↔
      (w.observe status).1.notify = some .terminated ∧ w.pending = false ∧
        w.budget.toCount = 0 := by
  rw [observe_notify, Budget.toCount_eq_zero_iff]
  cases observe_observes w status with
  | repeated same decided => simp [same, decided]
  | changed fresh there decided => simp [fresh, there, decided]
  | coalesced fresh gone scheduled decided => simp [scheduled, decided]
  | relaunch fresh gone free granted decided => simp [granted, decided]
  | exhausted fresh gone free refused decided =>
    subst gone
    simp [fresh, free, refused, decided]

/-- What a watchdog that began with `budget` has answered to `calls`, and what it has become: `w`
is what the next call meets. -/
structure History (budget : Budget) (calls : List Call) (told : List Response) (w : Watchdog) :
    Prop extends Tally budget calls told w where
  /-- The next tick is answered with its outcome, unless the watchdog was cancelled. -/
  answered : .event .cancel ∉ calls → ∀ status,
    (w.step (.tick status)).1 = .observed (w.observe status).1
  /-- It finds the budget exhausted exactly when it notifies the end of the process, with no
  relaunch scheduled and a count of zero. -/
  exhausted : ∀ status outcome, (w.step (.tick status)).1 = .observed outcome →
    (outcome.restart = .exhausted ↔
      outcome.notify = some .terminated ∧ w.pending = false ∧ w.budget.toCount = 0)
  /-- Being cancelled is answered so, and changes nothing else. -/
  cancels : w.step .cancel = (.stopped, { w with cancelled := true })
  /-- From then on every event is answered so, and changes nothing. -/
  stopped : .event .cancel ∈ calls → ∀ event, w.step event = (.stopped, w)
  /-- A relaunch is picked up if one is scheduled, and nothing else changes. -/
  takes : w.takeRestart = (w.pending, { w with pending := false })

/-- **Every history of a watchdog**, from any budget. -/
theorem watchdog_history (budget : Budget) (calls : List Call) :
    History budget calls ((new budget).responses calls) ((new budget).after calls) := by
  have htally := tally_of_history budget calls
  generalize (new budget).after calls = w at htally ⊢
  refine ⟨htally, ?_, ?_, ?_, ?_, rfl⟩
  · intro hgoing status
    have hlive : w.cancelled = false := by simpa [hgoing] using htally.cancelled
    rw [step_tick w hlive]
  · intro status outcome hanswer
    cases hlive : w.cancelled with
    | true =>
      rw [step_of_cancelled w hlive] at hanswer
      cases hanswer
    | false =>
      rw [step_tick w hlive] at hanswer
      obtain rfl := Verdict.observed.inj hanswer
      exact observe_exhausted w status
  · cases hlive : w.cancelled with
    | true =>
      rw [step_of_cancelled w hlive, ← hlive]
    | false => simp [step, hlive]
  · intro hended
    have hstopped : w.cancelled = true := by simpa [hended] using htally.cancelled
    exact step_of_cancelled w hstopped

/-- A process that comes and goes while a relaunch is scheduled is charged once. -/
example :
    let told := (new (.limited 2)).responses [.event (.tick .terminated), .event (.tick .running),
      .event (.tick .terminated), .take, .take]
    ((outcomes told).map TickOutcome.restart, relaunches told, pickups told) =
      ([.relaunch, .skip, .coalesced], 1, 1) := by
  decide

end Watchdog

end Overseer
