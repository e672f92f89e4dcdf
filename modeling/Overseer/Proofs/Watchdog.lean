import Overseer.Proofs.Budget
import Overseer.Watchdog

/-!
# The watchdog's table

What each decision of the restart policy guarantees.

* `Watchdog.observe_observes` -- the five rows of the table, with the watchdog that each leaves;
* `Watchdog.observe_last`, `Watchdog.observe_cancelled`, `Watchdog.observe_reap` -- what every row
  has in common.
-/

namespace Overseer

namespace Watchdog

variable (w : Watchdog) (status : Status)

/-- The rows of the table: a watchdog `w` is told of a run state, decides, and becomes `v`. -/
inductive Observes (decision : RestartDecision) (v : Watchdog) : Prop where
  /-- The last observation is repeated. -/
  | repeated (same : w.last = some status) (decided : decision = .skip) (result : v = w)
  /-- The process is there, in another state than before. -/
  | changed (fresh : w.last ≠ some status) (there : status ≠ .terminated)
      (decided : decision = .skip) (result : v = { w with last := some status })
  /-- The process is gone, and its relaunch is scheduled already. -/
  | coalesced (fresh : w.last ≠ some status) (gone : status = .terminated)
      (scheduled : w.pending = true) (decided : decision = .coalesced)
      (result : v = { w with last := some status })
  /-- The process is gone, and its relaunch is charged and scheduled. -/
  | relaunch (fresh : w.last ≠ some status) (gone : status = .terminated)
      (free : w.pending = false) (granted : w.budget.consume.1 = true)
      (decided : decision = .relaunch)
      (result : v = { w with last := some status, budget := w.budget.consume.2, pending := true })
  /-- The process is gone, and the budget is exhausted. -/
  | exhausted (fresh : w.last ≠ some status) (gone : status = .terminated)
      (free : w.pending = false) (refused : w.budget.consume.1 = false)
      (decided : decision = .exhausted)
      (result : v = { w with last := some status })

/-- The policy for a process that has just been found terminated, row by row. -/
theorem onTerminated_eq :
    w.onTerminated =
      if w.pending then (.coalesced, w)
      else if w.budget.consume.1 then
        (.relaunch, { w with budget := w.budget.consume.2, pending := true })
      else (.exhausted, w) := by
  unfold onTerminated
  split
  · rfl
  · cases hgranted : w.budget.consume with
    | mk granted budget =>
      cases granted with
      | true => rfl
      | false =>
        have hsame := Budget.consume_refused (congrArg Prod.fst hgranted)
        obtain rfl : budget = w.budget := by rwa [hgranted] at hsame
        rfl

theorem observe_observes :
    Observes w status (w.observe status).1.restart (w.observe status).2 := by
  by_cases hsame : w.last = some status
  · have heq : w.observe status = (⟨status, none, .skip, false⟩, w) := by
      simp [observe, hsame]
    rw [heq]
    exact .repeated hsame rfl rfl
  · by_cases hgone : status = .terminated
    · have heq : w.observe status =
          (⟨status, some status, w.onTerminated.1, status = .zombie⟩,
            { w.onTerminated.2 with last := some status }) := by
        simp only [observe, if_neg hsame, if_pos hgone]
      rw [heq, onTerminated_eq]
      by_cases hpending : w.pending = true
      · rw [if_pos hpending]
        exact .coalesced hsame hgone hpending rfl rfl
      · have hfree : w.pending = false := by simpa using hpending
        rw [if_neg hpending]
        by_cases hgranted : w.budget.consume.1 = true
        · rw [if_pos hgranted]
          exact .relaunch hsame hgone hfree hgranted rfl rfl
        · rw [if_neg hgranted]
          exact .exhausted hsame hgone hfree (by simpa using hgranted) rfl rfl
    · have heq : w.observe status =
          (⟨status, some status, .skip, status = .zombie⟩, { w with last := some status }) := by
        simp only [observe, if_neg hsame, if_neg hgone]
      rw [heq]
      exact .changed hsame hgone rfl rfl

/-- The outcome of a tick names what was observed. -/
theorem observe_observed : (w.observe status).1.observed = status := by
  unfold observe
  split <;> rfl

/-- What differs from the last observation is notified, and nothing else. -/
theorem observe_notify :
    (w.observe status).1.notify = if w.last = some status then none else some status := by
  unfold observe
  split <;> rfl

@[simp] theorem observe_last : (w.observe status).2.last = some status := by
  cases observe_observes w status with
  | repeated same _ result => rw [result, same]
  | changed _ _ _ result | coalesced _ _ _ _ result | relaunch _ _ _ _ _ result
  | exhausted _ _ _ _ _ result => rw [result]

@[simp] theorem observe_cancelled : (w.observe status).2.cancelled = w.cancelled := by
  cases observe_observes w status with
  | repeated _ _ result | changed _ _ _ result | coalesced _ _ _ _ result
  | relaunch _ _ _ _ _ result | exhausted _ _ _ _ _ result => rw [result]

/-- Only the end of the process schedules anything. -/
theorem observe_pending (h : status ≠ .terminated) : (w.observe status).2.pending = w.pending := by
  cases observe_observes w status with
  | repeated _ _ result | changed _ _ _ result => rw [result]
  | coalesced _ gone | relaunch _ gone | exhausted _ gone => exact absurd gone h

/-- The end of the supervision changes nothing else. -/
theorem step_cancel : (w.step .cancel).2 = { w with cancelled := true } := by
  unfold step
  split
  · next h => rw [← h]
  · rfl

/-- With nothing scheduled there is nothing to pick up. -/
theorem takeRestart_of_free {w : Watchdog} (h : w.pending = false) : w.takeRestart.2 = w := by
  unfold takeRestart
  rw [← h]

/-- Nothing but a zombie is collected. -/
theorem observe_reap {w : Watchdog} {status : Status} (h : (w.observe status).1.reap = true) :
    status = .zombie := by
  unfold observe at h
  split at h
  · cases h
  · simpa using h

end Watchdog

end Overseer
