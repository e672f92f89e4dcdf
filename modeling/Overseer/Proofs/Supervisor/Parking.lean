import Overseer.Proofs.Supervisor.Starts

/-!
# Whom a turn parks

A turn parks one caller at most, and looks at once whether the process has exited.

* `Looks` -- the turns that look for an exit, as the exit check or as they park a caller;
* `Attends` -- who is parked after a handler; `serve_attends` -- so it is of every occasion;
* `turn_waiters` -- a turn that does not look parks nobody;
* `Looks.checks` -- a turn that looks asks for the exit status.
-/

namespace Overseer

namespace Supervisor

variable {σ : Type} {P : Platform σ} {s t : Supervisor σ}

variable (P s) in
/-- The turn looks whether the process has exited: as the exit check, or as it parks a caller who is
not settled at once. -/
def Looks : Prop :=
  s.due? = some .exitCheck ∨
    ∃ waiter, s.waiters.count waiter < (s.turn P).waiters.count waiter

variable (P) in
/-- Who is parked from `s` to `t`. -/
inductive Attends (s t : Supervisor σ) : Prop where
  /-- Everybody stays parked, or is settled. -/
  | left (h : t.waiters = s.waiters ∨ t.waiters = [])
  /-- Another caller is parked, when the others stay parked or are settled. -/
  | parked {u : Supervisor σ} {waiter : Waiter} (result : t = u.park P waiter)
      (before : u.waiters = s.waiters ∨ u.waiters = [] ∧ waiter ∉ s.waiters)

theorem Attends.of_eq (h : t.waiters = s.waiters) : Attends P s t := .left (.inl h)

theorem Attends.congr {s' : Supervisor σ} (h : Attends P s t) (hs : s'.waiters = s.waiters) :
    Attends P s' t := by
  cases h with
  | left h => exact .left (hs ▸ h)
  | parked result before => exact .parked result (hs ▸ before)

variable (P s)

theorem delete_attends (ticket : Option Ticket) : Attends P s (s.delete P ticket) := by
  have hgraceful := (stopGraceful_calls P s).keeps.waiters
  cases delete_deletes P s ticket with
  | busy _ result =>
    rcases result with ⟨-, result⟩ | ⟨refused, -, result⟩ <;> rw [result] <;> exact .of_eq rfl
  | parked _ _ result => exact .parked result (.inl hgraceful)
  | forced _ outcome result =>
    have hforced := (stopForced_calls P (s.stopGraceful P).2).keeps.waiters
    rw [result]
    exact .of_eq ((finishDelete_waiters _ ticket outcome).trans (hforced.trans hgraceful))

theorem restart_attends (ticket : Ticket) : Attends P s (s.restart P ticket) := by
  have hnotice := (noticeExit_route P s).waiters
  have hgraceful := (stopGraceful_calls P (s.noticeExit P)).keeps.waiters
  cases restart_restarts P s ticket with
  | busy _ result => rw [result]; exact .of_eq rfl
  | parked first _ result =>
    refine .parked result ?_
    rw [hgraceful]
    rcases hnotice with h | h
    · exact .inl h
    · refine .inr ⟨h, fun hmem => ?_⟩
      simpa [Waiter.isWait] using List.any_eq_false.mp first _ hmem
  | relaunched _ _ result =>
    have hlaunch := relaunchNow_waiters P (s.noticeExit P)
    rw [result]
    refine .left ?_
    rw [← hlaunch] at hnotice
    exact hnotice
  | refused _ e result =>
    rw [result]
    refine .left ?_
    rw [← hgraceful] at hnotice
    exact hnotice

theorem handle_attends (ticket : Ticket) (request : Request) :
    Attends P s (s.handle P ticket request) := by
  by_cases hplain : request.isPlain = true
  · obtain ⟨u, reply, hcalls, hresult, -⟩ := handle_plain P s hplain ticket
    rw [hresult]
    exact .of_eq hcalls.keeps.waiters
  · cases request with
    | restart => exact restart_attends P s ticket
    | delete => exact delete_attends P s (some ticket)
    | wait =>
      rcases wait_cases P s ticket with ⟨-, hresult⟩ | ⟨-, hresult⟩
      · rw [hresult]
        exact .of_eq rfl
      · exact .parked hresult (.inl rfl)
    | _ => exact absurd rfl hplain

theorem onTick_attends : Attends P s (s.onTick P) := by
  cases hlive : s.watchdog.cancelled with
  | true =>
    cases onTick_ticks P s with
    | stopped _ result => rw [result]; exact .of_eq (observe_calls P s).keeps.waiters
    | terminated live | zombie live | quiet live => rw [hlive] at live; cases live
  | false =>
    have hroute := (tick_route P s hlive).waiters
    rw [noted_waiters] at hroute
    exact .left hroute

/-- **Only a request or the loss of the last handle parks a caller**, and then one. -/
theorem serve_attends (occasion : Occasion) : Attends P s (s.serve P occasion) := by
  cases occasion with
  | cancelled => exact .left (.inr finish_left.1)
  | exitCheck => exact .left (checkWaiters_route P s).waiters
  | tick => exact (onTick_attends P (s.opened .tick)).congr rfl
  | request ticket request =>
    exact (handle_attends P { s with queue := s.queue.tail } ticket request).congr rfl
  | relaunch =>
    refine .of_eq ?_
    unfold serve relaunch
    dsimp only
    split
    · exact (launch_keeps P _).waiters
    · rfl
  | detached =>
    unfold serve onDetached
    dsimp only
    split
    · exact (delete_attends P { s with detached := true } none).congr rfl
    · exact .of_eq rfl

variable {P s}

/-- A turn that does not look leaves everybody parked, or nobody. -/
theorem turn_waiters (h : ¬ Looks P s) :
    (s.turn P).waiters = s.waiters ∨ (s.turn P).waiters = [] := by
  cases hdue : s.due? with
  | none => rw [turn_of_idle hdue]; exact .inl rfl
  | some occasion =>
    have hturn : (s.turn P).waiters = (s.serve P occasion).waiters := by rw [turn_eq hdue]; rfl
    rw [hturn]
    cases serve_attends P s occasion with
    | left h => exact h
    | @parked u waiter result before =>
      right
      rcases (park_route P u waiter).waiters with hstays | hsettled
      · -- The caller is parked once more than before.
        refine absurd (.inr ⟨waiter, ?_⟩) h
        have hafter : (s.turn P).waiters = u.waiters ++ [waiter] := by
          rw [hturn, result]
          exact hstays
        rw [hafter, List.count_append, List.count_singleton_self]
        rcases before with hsame | ⟨hnobody, hnew⟩
        · rw [hsame]
          omega
        · rw [List.count_eq_zero.mpr hnew]
          omega
      · rw [result]
        exact hsettled

/-- A turn looks for nothing when it deals with nothing. -/
theorem Looks.due (h : Looks P s) : s.due? ≠ none := by
  intro hdue
  rcases h with h | ⟨waiter, hcount⟩
  · rw [hdue] at h
    cases h
  · rw [turn_of_idle hdue] at hcount
    exact Nat.lt_irrefl _ hcount

/-- **A turn that looks asks for the exit status**, if anybody is parked. -/
theorem Looks.checks (h : Looks P s) : ∃ u : Supervisor σ, s.turn P = (u.checkWaiters P).rearm := by
  obtain ⟨occasion, hdue⟩ := Option.ne_none_iff_exists'.mp h.due
  rw [turn_eq hdue]
  rcases h with hcheck | ⟨waiter, hcount⟩
  · obtain rfl := Option.some.inj (hdue.symm.trans hcheck)
    exact ⟨s, rfl⟩
  · rw [turn_eq hdue] at hcount
    have hkept : (s.serve P occasion).rearm.waiters = (s.serve P occasion).waiters := rfl
    rw [hkept] at hcount
    cases serve_attends P s occasion with
    | parked result => exact ⟨_, by rw [result]; rfl⟩
    | left hleft =>
      rcases hleft with hleft | hleft <;> rw [hleft] at hcount
      · exact absurd hcount (Nat.lt_irrefl _)
      · exact absurd hcount (Nat.not_lt_zero _)

end Supervisor

end Overseer
