import Overseer.Proofs.Supervisor.Settling

/-!
# What the requests do

The requests, the scheduled relaunch and the loss of the last handle, taken apart once and for all.

* `delete_deletes`, `restart_restarts` -- the ways in which a delete and a restart go;
* `handle_plain` -- every request but a restart, a wait and a delete is calls, and an answer;
* `handle_handles`, `relaunch_handles`, `onDetached_handles` -- all do what a handler may do.
-/

namespace Overseer

/-- The answer is that the supervisor has ended. -/
def Answer.isGone : Answer → Bool
  | .error (.gone _) => true
  | _ => false

/-- The answer is that the supervisor has ended, or that another request is in the way: the request
is not tried. -/
def Answer.isRebuff : Answer → Bool
  | .error (.gone _) | .error (.busy _) => true
  | _ => false

theorem Answer.not_isGone_of_tried {reply : Answer} (h : Answer.isRebuff reply = false) :
    Answer.isGone reply = false := by
  cases reply with
  | ok => rfl
  | error e => cases e <;> simp_all [isRebuff, isGone]

/-- The request is calls and an answer, and no more. -/
def Request.isPlain : Request → Bool
  | restart | wait | delete => false
  | _ => true

namespace Supervisor

variable {σ : Type} {P : Platform σ} {s t u : Supervisor σ}

variable (P) (s)

/-- Parking a caller is looking for an exit with the caller parked. -/
theorem park_route (waiter : Waiter) :
    Route P { s with waiters := s.waiters ++ [waiter] } (s.park P waiter) :=
  checkWaiters_route P _

theorem park_handles (waiter : Waiter) : Handles s (s.park P waiter) :=
  (Handles.of_waiters _).trans (park_route P s waiter).handles

/-- The three ways in which a delete goes from `s` to `t`. -/
inductive Deletes (ticket : Option Ticket) (t : Supervisor σ) : Prop where
  /-- Another delete is parked. -/
  | busy (parked : s.waiters.any Waiter.isDelete = true)
      (result : ticket = none ∧ t = s ∨
        ∃ refused, ticket = some refused ∧ t = s.refuseBusy refused)
  /-- The process was asked to end, and the caller is parked. -/
  | parked (first : s.waiters.any Waiter.isDelete = false)
      (asked : (s.stopGraceful P).1 = .ok ())
      (result : t = (s.stopGraceful P).2.park P (.delete ticket))
  /-- The process could not be asked, and the supervision ends. -/
  | forced (first : s.waiters.any Waiter.isDelete = false) (outcome : Except Error Unit)
      (result : t = ((s.stopGraceful P).2.stopForced P).2.finishDelete ticket outcome)
      (told : ∃ graceful, outcome = ((s.stopGraceful P).2.stopForced P).1.mapError
        fun forced => .delete s.spec.name graceful forced)
      (unasked : (s.stopGraceful P).1 ≠ .ok ())

theorem delete_deletes (ticket : Option Ticket) : Deletes P s ticket (s.delete P ticket) := by
  unfold delete
  by_cases hbusy : s.waiters.any Waiter.isDelete = true
  · rw [if_pos hbusy]
    refine .busy hbusy ?_
    cases ticket with
    | none => exact .inl ⟨rfl, rfl⟩
    | some ticket => exact .inr ⟨ticket, rfl, rfl⟩
  · rw [if_neg hbusy]
    have hfirst : s.waiters.any Waiter.isDelete = false := by simpa using hbusy
    split
    · next u h => exact .parked hfirst (congrArg Prod.fst h) (by rw [h])
    · next graceful u h =>
      have hforced := (stopGraceful_calls P s).trans (stopForced_calls P (s.stopGraceful P).2)
      have hspec := hforced.keeps.spec
      rw [h] at hspec
      exact .forced hfirst _ (by rw [h]) ⟨graceful, by rw [h, hspec]⟩ (by simp [h])

theorem delete_handles (ticket : Option Ticket) : Handles s (s.delete P ticket) := by
  have hgraceful := Handles.of_calls (stopGraceful_calls P s)
  cases delete_deletes P s ticket with
  | busy _ result =>
    rcases result with ⟨-, result⟩ | ⟨ticket, -, result⟩ <;> rw [result]
    · exact .refl s
    · exact .of_answer ticket _
  | parked _ _ result => rw [result]; exact hgraceful.trans (park_handles P _ _)
  | forced _ outcome result =>
    rw [result]
    exact (hgraceful.trans (.of_calls (stopForced_calls P _))).trans (finishDelete_handles _ _ _)

/-- With nothing held there is nothing to ask. -/
theorem stopGraceful_of_free (h : s.pid P = none) :
    s.stopGraceful P = (.error s.noProcess, s) := by
  unfold stopGraceful
  rw [h]

/-- Only with nothing to stop is the answer that nothing is held. -/
theorem stopGraceful_noProcess {name : String}
    (h : (s.stopGraceful P).1 = .error (.noProcess name)) :
    s.pid P = none ∧ (s.stopGraceful P).2 = s := by
  unfold stopGraceful at *
  split at h
  · next hpid => exact ⟨hpid, rfl⟩
  · split at h <;> cases h

/-- The four ways in which a restart goes from `s` to `t`. -/
inductive Restarts (ticket : Ticket) (t : Supervisor σ) : Prop where
  /-- A delete or another restart is parked. -/
  | busy (parked : s.waiters.any (fun waiter => !waiter.isWait) = true)
      (result : t = s.refuseBusy ticket)
  /-- The process was asked to end, and the caller is parked. -/
  | parked (first : s.waiters.any (fun waiter => !waiter.isWait) = false)
      (asked : ((s.noticeExit P).stopGraceful P).1 = .ok ())
      (result : t = ((s.noticeExit P).stopGraceful P).2.park P (.restart ticket))
  /-- Nothing is held, and a launch is made at once. -/
  | relaunched (first : s.waiters.any (fun waiter => !waiter.isWait) = false)
      (free : (s.noticeExit P).pid P = none)
      (result : t = ((s.noticeExit P).relaunchNow P).2.answer ticket
        (((s.noticeExit P).relaunchNow P).1.map .restarted))
  /-- The process could not be asked to end. -/
  | refused (first : s.waiters.any (fun waiter => !waiter.isWait) = false) (e : Error)
      (result : t = ((s.noticeExit P).stopGraceful P).2.answer ticket (.error e))
      (refusal : ((s.noticeExit P).stopGraceful P).1 = .error e)
      (held : (s.noticeExit P).pid P ≠ none)

theorem restart_restarts (ticket : Ticket) : Restarts P s ticket (s.restart P ticket) := by
  unfold restart
  by_cases hbusy : s.waiters.any (fun waiter => !waiter.isWait) = true
  · rw [if_pos hbusy]
    exact .busy hbusy rfl
  · rw [if_neg hbusy]
    have hfirst : s.waiters.any (fun waiter => !waiter.isWait) = false := by simpa using hbusy
    split
    · next u h => exact .parked hfirst (congrArg Prod.fst h) (by rw [h])
    · next name u h =>
      obtain ⟨hfree, hsame⟩ := stopGraceful_noProcess P (s.noticeExit P) (congrArg Prod.fst h)
      obtain rfl : s.noticeExit P = u := hsame.symm.trans (congrArg Prod.snd h)
      exact .relaunched hfirst hfree rfl
    · next e u hother h =>
      refine .refused hfirst e (by rw [h]) (congrArg Prod.fst h) fun hfree => ?_
      rw [stopGraceful_of_free P _ hfree] at h
      exact hother _ (Except.error.inj (congrArg Prod.fst h)).symm

theorem restart_handles (ticket : Ticket) : Handles s (s.restart P ticket) := by
  have hnotice := (noticeExit_route P s).handles
  have hgraceful := hnotice.trans (.of_calls (stopGraceful_calls P (s.noticeExit P)))
  cases restart_restarts P s ticket with
  | busy _ result => rw [result]; exact .of_answer _ _
  | parked _ _ result => rw [result]; exact hgraceful.trans (park_handles P _ _)
  | relaunched _ _ result =>
    rw [result]
    exact (hnotice.trans (relaunchNow_handles P _)).trans (.of_answer _ _)
  | refused _ e result => rw [result]; exact hgraceful.trans (.of_answer _ _)

/-- A wait is parked, unless nothing is held. -/
theorem wait_cases (ticket : Ticket) :
    (s.pid P = none ∧ s.handle P ticket .wait = s.answer ticket (.error s.noProcess)) ∨
    ((s.pid P).isSome ∧ s.handle P ticket .wait = s.park P (.wait ticket)) := by
  unfold handle
  cases hpid : s.pid P with
  | none => exact .inl ⟨rfl, rfl⟩
  | some pid => exact .inr ⟨rfl, rfl⟩

/-- What is done, or not, tells no exit status. -/
theorem map_done_ne_exited (result : Except Error Unit) (status : ExitStatus) :
    result.map (fun () => Reply.done) ≠ .ok (.exited status) := by
  cases result <;> simp [Except.map]

theorem stopGraceful_tried :
    Answer.isRebuff ((s.stopGraceful P).1.map fun () => .done) = false := by
  unfold stopGraceful
  split
  · rfl
  · split <;> rfl

theorem stopForced_tried : Answer.isRebuff ((s.stopForced P).1.map fun () => .done) = false := by
  unfold stopForced
  split
  · rfl
  · split
    · rfl
    · split <;> rfl

theorem sendSignal_tried (signal : Signal) :
    Answer.isRebuff ((s.sendSignal P signal).1.map fun () => .done) = false := by
  unfold sendSignal
  split
  · rfl
  · split <;> rfl

/-- A plain request is calls, and the answer, which tells no exit status and is no rebuff. -/
theorem handle_plain {request : Request} (h : request.isPlain = true) (ticket : Ticket) :
    ∃ u reply, Calls s u ∧ s.handle P ticket request = u.answer ticket reply ∧
      (∀ status, reply ≠ .ok (.exited status)) ∧ Answer.isRebuff reply = false := by
  cases request with
  | pid => exact ⟨s, _, .refl s, rfl, by simp, rfl⟩
  | startTime => exact ⟨s, _, .refl s, rfl, by simp, rfl⟩
  | status => exact ⟨_, _, observe_calls P s, rfl, by simp, rfl⟩
  | isAlive => exact ⟨_, _, isAlive_calls P s, rfl, by simp, rfl⟩
  | restartsRemaining => exact ⟨s, _, .refl s, rfl, by simp, rfl⟩
  | stop =>
    exact ⟨_, _, stopGraceful_calls P s, rfl, map_done_ne_exited _, stopGraceful_tried P s⟩
  | kill => exact ⟨_, _, stopForced_calls P s, rfl, map_done_ne_exited _, stopForced_tried P s⟩
  | signal signal =>
    exact ⟨_, _, sendSignal_calls P s signal, rfl, map_done_ne_exited _,
      sendSignal_tried P s signal⟩
  | restart => cases h
  | wait => cases h
  | delete => cases h

theorem handle_handles (ticket : Ticket) (request : Request) :
    Handles s (s.handle P ticket request) := by
  by_cases hplain : request.isPlain = true
  · obtain ⟨u, reply, hcalls, hresult, -⟩ := handle_plain P s hplain ticket
    rw [hresult]
    exact (Handles.of_calls hcalls).trans (.of_answer _ _)
  · cases request with
    | restart => exact restart_handles P s ticket
    | delete => exact delete_handles P s (some ticket)
    | wait =>
      rcases wait_cases P s ticket with ⟨-, hresult⟩ | ⟨-, hresult⟩
      · rw [hresult]; exact .of_answer _ _
      · rw [hresult]; exact park_handles P s _
    | _ => exact absurd rfl hplain

/-- The scheduled relaunch, when there is one. -/
theorem relaunch_of_pending (h : s.watchdog.pending = true) :
    s.relaunch P = ({ s with watchdog := s.watchdog.takeRestart.2 }.launch P).2 := by
  have heq : s.relaunch P = if s.watchdog.pending = true then
      ({ s with watchdog := s.watchdog.takeRestart.2 }.launch P).2
      else { s with watchdog := s.watchdog.takeRestart.2 } := rfl
  rw [heq, if_pos h]

theorem relaunch_handles : Handles s (s.relaunch P) := by
  unfold relaunch
  dsimp only
  split
  · exact Handles.of_takeRestart.trans .of_launch
  · exact .of_takeRestart

theorem onDetached_handles :
    Handles { s with detached := true } (s.onDetached P) := by
  unfold onDetached
  dsimp only
  split
  · exact delete_handles P _ none
  · exact .refl _

end Supervisor

end Overseer
