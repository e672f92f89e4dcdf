import Overseer.Proofs.Supervisor.Starts

/-!
# A delete that is parked is not forgotten

* `Deleting` -- a delete is parked, or one has been carried out; `Route.deleting`,
  `handle_deleting` -- no settling and no request undoes it; `Deleting.step` -- nothing does;
* `StayParked` -- everybody stays parked, or nobody; `cancelled_of_settled` -- so what settles a
  parked delete cancels the supervision;
* `Ending` -- a delete is on its way, or the loop has ended; `Ending.step` -- what happens from then
  on leaves it so;
* `Ending.turn_noStart` -- and asks for no process, but for a relaunch that is scheduled already.
-/

namespace Overseer

namespace Supervisor

variable {σ : Type} {P : Platform σ} {s t u : Supervisor σ}

/-- A delete is parked, or one was carried out: that cancels the supervision. -/
def Deleting (s : Supervisor σ) : Prop :=
  s.waiters.any Waiter.isDelete = true ∨ s.cancelled = true

theorem Deleting.congr (h : Deleting s) (hwaiters : t.waiters = s.waiters)
    (hcancelled : t.cancelled = s.cancelled) : Deleting t := by
  unfold Deleting
  rwa [hwaiters, hcancelled]

theorem Deleting.of_keeps (hs : Deleting s) (h : Keeps s t) : Deleting t :=
  hs.congr h.waiters (by rw [h])

/-- Parking somebody else beside it makes no difference. -/
theorem Deleting.park (hs : Deleting s) (waiter : Waiter) :
    Deleting { s with waiters := s.waiters ++ [waiter] } := by
  rcases hs with hparked | hcancelled
  · left
    rw [List.any_append, hparked, Bool.true_or]
  · exact .inr hcancelled

theorem finishDelete_cancelled (ticket : Option Ticket) (result : Except Error Unit) :
    (s.finishDelete ticket result).cancelled = true := by
  cases ticket <;> rfl

/-- **Settling everybody carries out the parked delete.** -/
theorem resolveWaiters_cancelled (hs : Deleting s) {exit : Except String ExitStatus} :
    Deleting (s.resolveWaiters P exit) := by
  rcases hs with hparked | hcancelled
  · have hdelete : parkedDelete? s.waiters ≠ none := by
      intro hnone
      rw [parkedDelete?_eq_none_iff, hparked] at hnone
      cases hnone
    cases resolveWaiters_settles P s exit with
    | nobody idle => rw [idle] at hparked; cases hparked
    | deleted ticket _ result => rw [result]; exact .inr (finishDelete_cancelled ticket _)
    | relaunched _ noDelete | refused _ noDelete | waits _ noDelete => exact absurd noDelete hdelete
  · exact .inr ((resolveWaiters_handles P s exit).cancelled hcancelled)

theorem Route.deleting (h : Route P s t) (hs : Deleting s) : Deleting t := by
  cases h with
  | calls h => exact hs.of_keeps h.keeps
  | settled exit h _ result =>
    rw [result]
    exact resolveWaiters_cancelled (hs.of_keeps h.keeps)

/-- A delete beside it is refused, or ends the supervision. -/
theorem delete_deleting (hs : Deleting s) (ticket : Option Ticket) :
    Deleting (s.delete P ticket) := by
  rcases hs with hparked | hcancelled
  · cases delete_deletes P s ticket with
    | busy _ result =>
      rcases result with ⟨-, result⟩ | ⟨ticket, -, result⟩ <;> rw [result] <;> exact .inl hparked
    | parked first | forced first => rw [hparked] at first; cases first
  · exact .inr ((delete_handles P s ticket).cancelled hcancelled)

/-- A delete that is served is on its way from then on. -/
theorem delete_begins (ticket : Option Ticket) : Deleting (s.delete P ticket) := by
  cases delete_deletes P s ticket with
  | busy parked result =>
    rcases result with ⟨-, result⟩ | ⟨refused, -, result⟩ <;> rw [result] <;> exact .inl parked
  | parked _ _ result =>
    have hparked : Deleting { (s.stopGraceful P).2 with
        waiters := (s.stopGraceful P).2.waiters ++ [.delete ticket] } := by
      left
      rw [List.any_append]
      simp [Waiter.isDelete]
    rw [result]
    exact (park_route P _ (.delete ticket)).deleting hparked
  | forced _ outcome result => rw [result]; exact .inr (finishDelete_cancelled ticket outcome)

theorem stopParked_of_delete (h : s.waiters.any Waiter.isDelete = true) :
    s.stopParked = true := by
  obtain ⟨waiter, hmem, hdelete⟩ := List.any_eq_true.mp h
  refine List.any_eq_true.mpr ⟨waiter, hmem, ?_⟩
  cases waiter with
  | delete _ => rfl
  | wait _ => cases hdelete
  | restart _ => cases hdelete

/-- A restart beside it is refused. -/
theorem restart_deleting (hs : Deleting s) (ticket : Ticket) :
    Deleting (s.restart P ticket) := by
  rcases hs with hparked | hcancelled
  · have hstop : s.waiters.any (fun waiter => !waiter.isWait) = true :=
      stopParked_of_delete hparked
    cases restart_restarts P s ticket with
    | busy _ result => rw [result]; exact .inl hparked
    | parked first | relaunched first | refused first => rw [hstop] at first; cases first
  · exact .inr ((restart_handles P s ticket).cancelled hcancelled)

/-- **No request undoes a delete.** -/
theorem handle_deleting (hs : Deleting s) (ticket : Ticket) (request : Request) :
    Deleting (s.handle P ticket request) := by
  by_cases hplain : request.isPlain = true
  · obtain ⟨u, reply, hcalls, hresult, -⟩ := handle_plain P s hplain ticket
    rw [hresult]
    exact (hs.of_keeps hcalls.keeps).congr rfl rfl
  · cases request with
    | restart => exact restart_deleting hs ticket
    | delete => exact delete_deleting hs (some ticket)
    | wait =>
      rcases wait_cases P s ticket with ⟨-, hresult⟩ | ⟨-, hresult⟩ <;> rw [hresult]
      · exact hs.congr rfl rfl
      · exact (park_route P s (.wait ticket)).deleting (hs.park _)
    | _ => exact absurd rfl hplain

theorem onTick_deleting (hs : Deleting s) : Deleting (s.onTick P) := by
  have hnoted : Deleting (s.noted P) := hs.congr (noted_waiters P s) (by rw [noted_frame])
  cases onTick_ticks P s with
  | stopped _ result => rw [result]; exact hs.of_keeps (observe_calls P s).keeps
  | terminated _ _ result => rw [result]; exact (onTerminated_route P _).deleting hnoted
  | zombie _ _ result => rw [result]; exact (reapZombie_route P _).deleting hnoted
  | quiet _ _ result => rwa [result]

theorem onDetached_deleting (hs : Deleting s) : Deleting (s.onDetached P) := by
  have hdetached : Deleting { s with detached := true } := hs.congr rfl rfl
  unfold onDetached
  dsimp only
  split
  · exact delete_deleting hdetached none
  · exact hdetached

/-! ## Who stays parked beside it -/

/-- From `s` to `t` everybody stays parked, perhaps with somebody else behind, or nobody does. -/
def StayParked (s t : Supervisor σ) : Prop := s.waiters <+: t.waiters ∨ t.waiters = []

namespace StayParked

theorem of_eq (h : t.waiters = s.waiters) : StayParked s t := .inl (h ▸ List.prefix_rfl)

theorem of_route (h : Route P s t) : StayParked s t := by
  rcases h.waiters with hsame | hnobody
  · exact .of_eq hsame
  · exact .inr hnobody

theorem park (waiter : Waiter) : StayParked s (s.park P waiter) := by
  rcases (park_route P s waiter).waiters with hstays | hsettled
  · exact .inl ⟨[waiter], hstays.symm⟩
  · exact .inr hsettled

theorem delete (hparked : s.waiters.any Waiter.isDelete = true) (ticket : Option Ticket) :
    StayParked s (s.delete P ticket) := by
  cases delete_deletes P s ticket with
  | busy _ result =>
    rcases result with ⟨-, result⟩ | ⟨refused, -, result⟩ <;> rw [result] <;> exact .of_eq rfl
  | parked first | forced first => rw [hparked] at first; cases first

/-- A restart is refused, and whoever waits is parked behind the others. -/
theorem handle (hparked : s.waiters.any Waiter.isDelete = true) (ticket : Ticket)
    (request : Request) : StayParked s (s.handle P ticket request) := by
  by_cases hplain : request.isPlain = true
  · obtain ⟨u, reply, hcalls, hresult, -⟩ := handle_plain P s hplain ticket
    rw [hresult]
    exact .of_eq hcalls.keeps.waiters
  · cases request with
    | delete => exact .delete hparked (some ticket)
    | restart =>
      have hstop : s.waiters.any (fun waiter => !waiter.isWait) = true :=
        stopParked_of_delete hparked
      cases restart_restarts P s ticket with
      | busy _ result =>
        rw [Supervisor.handle, result]
        exact .of_eq rfl
      | parked first | relaunched first | refused first => rw [hstop] at first; cases first
    | wait =>
      rcases wait_cases P s ticket with ⟨-, hresult⟩ | ⟨-, hresult⟩ <;> rw [hresult]
      · exact .of_eq rfl
      · exact .park _
    | _ => exact absurd rfl hplain

theorem onTick : StayParked s (s.onTick P) := by
  cases onTick_ticks P s with
  | stopped _ result => rw [result]; exact .of_eq (observe_calls P s).keeps.waiters
  | terminated live | zombie live | quiet live =>
    have hroute := StayParked.of_route (tick_route P s live)
    rwa [StayParked, noted_waiters] at hroute

/-- **Beside a parked delete everybody stays parked**, until all are settled. -/
theorem serve (hparked : s.waiters.any Waiter.isDelete = true) (occasion : Occasion) :
    StayParked s (s.serve P occasion) := by
  cases occasion with
  | cancelled =>
    right
    rw [Supervisor.serve, finish_eq]
  | relaunch =>
    unfold Supervisor.serve relaunch
    dsimp only
    split
    · exact .of_eq (launch_keeps P _).waiters
    · exact .of_eq rfl
  | request ticket request => exact handle (s := { s with queue := s.queue.tail }) hparked _ _
  | detached =>
    unfold Supervisor.serve onDetached
    dsimp only
    split
    · exact delete (s := { s with detached := true }) hparked none
    · exact .of_eq rfl
  | exitCheck => exact .of_route (checkWaiters_route P s)
  | tick => exact onTick (s := s.opened .tick)

end StayParked

/-! ## Turns and runs -/

namespace Deleting

theorem turn (hs : Deleting s) : Deleting (s.turn P) := by
  cases hdue : s.due? with
  | none => rwa [turn_of_idle hdue]
  | some occasion =>
    have hserve : Deleting (s.serve P occasion) := by
      cases occasion with
      | cancelled =>
        right
        rw [serve, finish_eq]
        show s.cancelled = true
        exact cancelled_of_due hdue
      | relaunch =>
        have hhandles := relaunch_handles P s
        rcases hs with hparked | hcancelled
        · rw [serve, relaunch_of_pending P s (due?_eq_relaunch.mp hdue).2.2]
          left
          rwa [(launch_keeps P _).waiters]
        · exact .inr (hhandles.cancelled hcancelled)
      | request ticket request =>
        exact handle_deleting (s := { s with queue := s.queue.tail }) (hs.congr rfl rfl)
          ticket request
      | detached => exact onDetached_deleting hs
      | exitCheck => exact (checkWaiters_route P s).deleting hs
      | tick =>
        exact onTick_deleting (s := s.opened .tick) (hs.congr rfl rfl)
    rw [turn_eq hdue]
    exact hserve

/-- **Whatever happens, the delete is parked or was carried out.** -/
theorem step (hs : Deleting s) (input : Input σ) : Deleting (step P s input) := by
  by_cases hturn : input = .turn
  · rw [hturn]
    exact hs.turn
  · rcases hs with hparked | hcancelled
    · left
      rwa [step_frame P s hturn]
    · right
      by_cases hcancel : input = .cancel
      · rw [hcancel]
        rfl
      · rwa [step_cancelled P s hturn hcancel]

end Deleting

/-- **What settles a parked delete cancels the supervision.** -/
theorem cancelled_of_settled {ticket : Option Ticket} {input : Input σ}
    (hparked : .delete ticket ∈ s.waiters)
    (hsettled : .delete ticket ∉ (step P s input).waiters) :
    (step P s input).cancelled = true := by
  have hdelete : s.waiters.any Waiter.isDelete = true :=
    List.any_eq_true.mpr ⟨.delete ticket, hparked, rfl⟩
  have hstays : StayParked s (step P s input) := by
    by_cases hturn : input = .turn
    · subst hturn
      rw [step]
      cases hdue : s.due? with
      | none => rw [turn_of_idle hdue]; exact .of_eq rfl
      | some occasion => rw [turn_eq hdue]; exact StayParked.serve hdelete occasion
    · exact .of_eq (by rw [step_frame P s hturn])
  rcases hstays with hstays | hnobody
  · exact absurd (hstays.subset hparked) hsettled
  · rcases Deleting.step (.inl hdelete) input with hparked' | hcancelled
    · rw [hnobody] at hparked'
      cases hparked'
    · exact hcancelled

/-- A delete is parked, or the supervision is on its way to the end, or the loop has ended. -/
def Ending (s : Supervisor σ) : Prop := Deleting s ∨ s.running = false

namespace Ending

theorem turn (hs : Ending s) : Ending (s.turn P) := by
  rcases hs with hs | hstopped
  · exact .inl hs.turn
  · have hdue : s.due? = none := by simp [due?, hstopped]
    rw [turn_of_idle hdue]
    exact .inr hstopped

/-- **What happens from then on leaves it so.** -/
theorem step (hs : Ending s) (input : Input σ) : Ending (step P s input) := by
  by_cases hturn : input = .turn
  · rw [hturn]
    exact hs.turn
  · rcases hs with hs | hstopped
    · exact .inl (hs.step input)
    · right
      rwa [step_frame P s hturn]

/-- **No process is asked for from then on**, unless a relaunch is carried out that was scheduled
beside the parked delete. -/
theorem turn_noStart (hs : Ending s)
    (h : ¬ (s.due? = some .relaunch ∧ s.stopParked = true)) : NoStart s (s.turn P) := by
  cases hdue : s.due? with
  | none => rw [turn_of_idle hdue]; exact .refl s
  | some occasion =>
    by_cases hend : occasion = .cancelled
    · rw [turn_eq hdue, hend]
      exact NoStart.finish
    · have hparked : s.waiters.any Waiter.isDelete = true := by
        rcases hs with (hparked | hcancelled) | hstopped
        · exact hparked
        · rw [not_cancelled_of_due hdue hend] at hcancelled
          cases hcancelled
        · rw [running_of_due hdue] at hstopped
          cases hstopped
      have hstop := stopParked_of_delete hparked
      rcases turn_orderly P s with (hnone | hsettles) | hrelaunch | ⟨ticket, hrestart⟩
      · exact hnone
      · have hdelete := hsettles.noDelete
        rw [hparked] at hdelete
        cases hdelete
      · exact absurd ⟨hrelaunch, hstop⟩ h
      · rw [turn_eq hrestart]
        rcases restart_starts P { s with queue := s.queue.tail } ticket with hnone | honce
        · exact hnone
        · have hfirst := honce.first
          rw [Supervisor.stopParked] at hfirst hstop
          rw [hstop] at hfirst
          cases hfirst

end Ending

end Supervisor

end Overseer
