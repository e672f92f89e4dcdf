import Mathlib.Data.List.Induction
import Overseer.Proofs.Supervisor.Frame

/-!
# How parked callers are settled

An exit becomes known in three ways: somebody looks for it, a tick finds the process gone, or a
tick collects a zombie.  Each of them ends in `resolveWaiters`, which settles everybody.

* `parkedDelete?_eq_none_iff`, `parkedDelete?_mem`, `parkedRestart?_eq_none_iff`,
  `parkedRestart?_mem` -- what the search for a parked delete or restart finds;
* `resolveWaiters_settles` -- the five ways in which `resolveWaiters` ends;
* `Route s t` -- from `s` to `t` the surroundings were called and then, perhaps, everybody was
  settled, with an exit status that was collected on the way, if with any; `checkWaiters_route`,
  `onTerminated_route` and `reapZombie_route` say that the three ways are of this kind.
-/

namespace Overseer

/-- The caller wants the process restarted. -/
def Waiter.isRestart : Waiter → Bool
  | restart _ => true
  | _ => false

/-- The request of a caller who only awaits the exit. -/
def Waiter.awaits? : Waiter → Option Ticket
  | wait ticket => some ticket
  | _ => none

namespace Supervisor

variable {σ : Type} {P : Platform σ} {s t u : Supervisor σ}

/-! ## Who is parked -/

theorem parkedDelete?_concat (waiters : List Waiter) (waiter : Waiter) :
    parkedDelete? (waiters ++ [waiter]) =
      match waiter with
      | .delete ticket => some ticket
      | _ => parkedDelete? waiters := by
  unfold parkedDelete?
  rw [List.foldl_append]
  rfl

theorem parkedRestart?_concat (waiters : List Waiter) (waiter : Waiter) :
    parkedRestart? (waiters ++ [waiter]) =
      match waiter with
      | .restart ticket => some ticket
      | _ => parkedRestart? waiters := by
  unfold parkedRestart?
  rw [List.foldl_append]
  rfl

/-- No parked delete is found exactly when none is parked. -/
theorem parkedDelete?_eq_none_iff {waiters : List Waiter} :
    parkedDelete? waiters = none ↔ waiters.any Waiter.isDelete = false := by
  induction waiters using List.reverseRecOn with
  | nil => simp [parkedDelete?]
  | append_singleton rest waiter ih =>
    rw [parkedDelete?_concat, List.any_append]
    cases waiter <;> simp_all [Waiter.isDelete]

/-- No parked restart is found exactly when none is parked. -/
theorem parkedRestart?_eq_none_iff {waiters : List Waiter} :
    parkedRestart? waiters = none ↔ waiters.any Waiter.isRestart = false := by
  induction waiters using List.reverseRecOn with
  | nil => simp [parkedRestart?]
  | append_singleton rest waiter ih =>
    rw [parkedRestart?_concat, List.any_append]
    cases waiter <;> simp_all [Waiter.isRestart]

/-- A restart that is found is parked. -/
theorem parkedRestart?_mem {waiters : List Waiter} {ticket : Ticket}
    (h : parkedRestart? waiters = some ticket) : .restart ticket ∈ waiters := by
  induction waiters using List.reverseRecOn with
  | nil => simp [parkedRestart?] at h
  | append_singleton rest waiter ih =>
    rw [parkedRestart?_concat] at h
    rw [List.mem_append]
    cases waiter with
    | restart other =>
      obtain rfl : other = ticket := Option.some.inj h
      exact .inr (by simp)
    | wait _ => exact .inl (ih h)
    | delete _ => exact .inl (ih h)

/-- A delete that is found is parked. -/
theorem parkedDelete?_mem {waiters : List Waiter} {ticket : Option Ticket}
    (h : parkedDelete? waiters = some ticket) : .delete ticket ∈ waiters := by
  induction waiters using List.reverseRecOn with
  | nil => simp [parkedDelete?] at h
  | append_singleton rest waiter ih =>
    rw [parkedDelete?_concat] at h
    rw [List.mem_append]
    cases waiter with
    | delete other =>
      obtain rfl : other = ticket := Option.some.inj h
      exact .inr (by simp)
    | wait _ => exact .inl (ih h)
    | restart _ => exact .inl (ih h)

/-! ## Telling the callers who only wait -/

/-- Giving many the same answer adds the answers to the trace, and does no more. -/
theorem answerAll_eq (reply : Answer) (tickets : List Ticket) (s : Supervisor σ) :
    tickets.foldl (fun s ticket => s.answer ticket reply) s =
      { s with trace := (tickets.map (Event.answered · reply)).reverse ++ s.trace } := by
  induction tickets generalizing s with
  | nil => rfl
  | cons ticket rest ih =>
    rw [List.foldl_cons, ih]
    simp [answer, note]

/-- All that is added is that answer. -/
theorem eq_answered_of_mem {reply : Answer} {tickets : List Ticket} {e : Event}
    (h : e ∈ (tickets.map (Event.answered · reply)).reverse) :
    ∃ ticket, e = .answered ticket reply := by
  rw [List.mem_reverse, List.mem_map] at h
  obtain ⟨ticket, -, rfl⟩ := h
  exact ⟨ticket, rfl⟩

theorem answerWaits_eq (reply : Answer) (waiters : List Waiter) (s : Supervisor σ) :
    s.answerWaits reply waiters = { s with
      trace := ((waiters.filterMap Waiter.awaits?).map (Event.answered · reply)).reverse
        ++ s.trace } := by
  rw [← answerAll_eq, List.foldl_filterMap]
  unfold answerWaits
  congr 1
  funext s waiter
  cases waiter <;> rfl

/-- What the callers who only wait are told. -/
def exitAnswer (s : Supervisor σ) (exit : Except String ExitStatus) : Answer :=
  (exit.mapError s.waitFailure).map .exited

theorem Keeps.waitFailure (h : Keeps s t) : t.waitFailure = s.waitFailure := by
  rw [h]
  rfl

theorem Keeps.exitAnswer (h : Keeps s t) (exit : Except String ExitStatus) :
    t.exitAnswer exit = s.exitAnswer exit := by
  rw [h]
  rfl

variable (P) (s)

/-- The state in which it is known whether anything is left to stop, the callers who only wait have
been told of the exit, and nobody is parked any more. -/
def told (exit : Except String ExitStatus) : Supervisor σ :=
  let u := (s.nothingLeft P exit).2
  { u with waiters := [] }.answerWaits (u.exitAnswer exit) u.waiters

theorem nothingLeft_calls (exit : Except String ExitStatus) :
    Calls s (s.nothingLeft P exit).2 := by
  cases exit with
  | ok _ => exact .refl s
  | error _ => exact isAlive_calls P s

theorem told_frame (exit : Except String ExitStatus) : s.told P exit =
    { (s.nothingLeft P exit).2 with waiters := [], trace := (s.told P exit).trace } := by
  unfold told
  rw [answerWaits_eq]

@[simp] theorem told_waiters (exit : Except String ExitStatus) :
    (s.told P exit).waiters = [] := by
  rw [told_frame]

/-- The callers who only wait are told of nothing but the exit. -/
theorem told_trace (exit : Except String ExitStatus) :
    (s.told P exit).trace =
      ((s.waiters.filterMap Waiter.awaits?).map
          (Event.answered · (s.exitAnswer exit))).reverse
        ++ (s.nothingLeft P exit).2.trace := by
  have hkeeps := (nothingLeft_calls P s exit).keeps
  unfold told
  rw [answerWaits_eq, hkeeps.waiters, hkeeps.exitAnswer]

theorem told_adds (exit : Except String ExitStatus) :
    Adds (fun e => ∃ ticket, e = .answered ticket (s.exitAnswer exit))
      (s.nothingLeft P exit).2 (s.told P exit) :=
  ⟨_, told_trace P s exit, fun _ he => eq_answered_of_mem he⟩

theorem told_handles (exit : Except String ExitStatus) : Handles s (s.told P exit) := by
  have hcalls := Handles.of_calls (nothingLeft_calls P s exit)
  have hadds : Adds (fun e => e.isTick = false) (s.nothingLeft P exit).2 (s.told P exit) := by
    refine (told_adds P s exit).mono ?_
    rintro _ ⟨ticket, rfl⟩
    rfl
  refine hcalls.trans ⟨?_, .inl ?_, ?_, hadds⟩
  · rw [told_frame]
  · rw [told_frame]
  · rw [told_frame]
    exact id

theorem told_watchdog (exit : Except String ExitStatus) :
    (s.told P exit).watchdog = s.watchdog := by
  rw [told_frame]
  exact (nothingLeft_calls P s exit).keeps.watchdog

@[simp] theorem told_spec (exit : Except String ExitStatus) : (s.told P exit).spec = s.spec := by
  rw [(told_handles P s exit).frame]

/-! ## Settling everybody -/

/-- The five ways in which the settling of the parked callers of `s` ends in `t`. -/
inductive Settles (exit : Except String ExitStatus) (t : Supervisor σ) : Prop where
  /-- Nobody is parked. -/
  | nobody (idle : s.waiters = []) (result : t = s)
  /-- A delete ends the supervision.  A restart beside it is told so. -/
  | deleted (ticket : Option Ticket) (parked : parkedDelete? s.waiters = some ticket)
      (result : t =
        (match parkedRestart? s.waiters with
          | some restart => (s.told P exit).answer restart (.error (.gone s.spec.name))
          | none => s.told P exit).finishDelete ticket
            (if (s.nothingLeft P exit).1 then .ok ()
              else (exit.mapError s.waitFailure).map fun _ => ()))
  /-- A restart launches, for nothing is left to stop. -/
  | relaunched (ticket : Ticket) (noDelete : parkedDelete? s.waiters = none)
      (parked : parkedRestart? s.waiters = some ticket) (gone : (s.nothingLeft P exit).1 = true)
      (result : t =
        ((s.told P exit).relaunchNow P).2.answer ticket
          (((s.told P exit).relaunchNow P).1.map .restarted))
  /-- A restart is told that no exit is known. -/
  | refused (ticket : Ticket) (noDelete : parkedDelete? s.waiters = none)
      (parked : parkedRestart? s.waiters = some ticket) (gone : (s.nothingLeft P exit).1 = false)
      (result : t = (s.told P exit).answer ticket (s.exitAnswer exit))
  /-- All callers only wait. -/
  | waits (busy : s.waiters ≠ []) (noDelete : parkedDelete? s.waiters = none)
      (noRestart : parkedRestart? s.waiters = none) (result : t = s.told P exit)

theorem resolveWaiters_settles (exit : Except String ExitStatus) :
    Settles P s exit (s.resolveWaiters P exit) := by
  have hkeeps := (nothingLeft_calls P s exit).keeps
  by_cases hidle : s.waiters = []
  · refine .nobody hidle ?_
    simp [resolveWaiters, hidle]
  · have hbusy : s.waiters.isEmpty = false := by simpa using hidle
    have hdelete? := congrArg parkedDelete? hkeeps.waiters
    have hrestart? := congrArg parkedRestart? hkeeps.waiters
    cases hdelete : parkedDelete? s.waiters with
    | some ticket =>
      refine .deleted ticket hdelete ?_
      rw [← hkeeps.waitFailure, ← told_spec P s exit]
      simp only [resolveWaiters, hbusy, hdelete?.trans hdelete, hrestart?]
      rfl
    | none =>
      cases hrestart : parkedRestart? s.waiters with
      | none =>
        refine .waits hidle hdelete hrestart ?_
        simp only [resolveWaiters, hbusy, hdelete?.trans hdelete, hrestart?.trans hrestart]
        rfl
      | some ticket =>
        cases hgone : (s.nothingLeft P exit).1 with
        | true =>
          refine .relaunched ticket hdelete hrestart hgone ?_
          simp only [resolveWaiters, hbusy, hdelete?.trans hdelete, hrestart?.trans hrestart, hgone]
          rfl
        | false =>
          refine .refused ticket hdelete hrestart hgone ?_
          rw [← hkeeps.exitAnswer]
          simp only [resolveWaiters, hbusy, hdelete?.trans hdelete, hrestart?.trans hrestart, hgone]
          rfl

theorem relaunchNow_handles : Handles s (s.relaunchNow P).2 := by
  unfold relaunchNow
  split
  · exact (Handles.of_calls (release_calls P s)).trans (Handles.of_takeRestart.trans .of_launch)
  · exact Handles.of_takeRestart.trans .of_launch

theorem relaunchNow_waiters : (s.relaunchNow P).2.waiters = s.waiters := by
  unfold relaunchNow
  split <;> rw [launch_keeps]
  rfl

/-- Launching at once picks up the relaunch that is scheduled. -/
theorem relaunchNow_watchdog : (s.relaunchNow P).2.watchdog = s.watchdog.takeRestart.2 := by
  unfold relaunchNow
  rw [(launch_keeps P _).watchdog]
  split <;> rfl

theorem relaunchNow_pending : (s.relaunchNow P).2.watchdog.pending = false := by
  rw [relaunchNow_watchdog]
  rfl

theorem finishDelete_handles (ticket : Option Ticket) (result : Except Error Unit) :
    Handles s (s.finishDelete ticket result) := by
  cases ticket with
  | none => exact .of_cancelled
  | some ticket => exact Handles.of_cancelled.trans (.of_answer ticket _)

theorem finishDelete_waiters (ticket : Option Ticket) (result : Except Error Unit) :
    (s.finishDelete ticket result).waiters = s.waiters := by
  cases ticket <;> rfl

theorem finishDelete_watchdog (ticket : Option Ticket) (result : Except Error Unit) :
    (s.finishDelete ticket result).watchdog = s.watchdog := by
  cases ticket <;> rfl

theorem resolveWaiters_handles (exit : Except String ExitStatus) :
    Handles s (s.resolveWaiters P exit) := by
  have htold := told_handles P s exit
  cases resolveWaiters_settles P s exit with
  | nobody _ result => rw [result]; exact .refl s
  | deleted ticket _ result =>
    rw [result]
    refine Handles.trans ?_ (finishDelete_handles _ ticket _)
    split
    · exact htold.trans (.of_answer _ _)
    · exact htold
  | relaunched ticket _ _ _ result =>
    rw [result]
    exact (htold.trans (relaunchNow_handles P _)).trans (.of_answer _ _)
  | refused ticket _ _ _ result => rw [result]; exact htold.trans (.of_answer _ _)
  | waits _ _ _ result => rw [result]; exact htold

/-- **Nobody stays parked.** -/
theorem resolveWaiters_waiters (exit : Except String ExitStatus) :
    (s.resolveWaiters P exit).waiters = [] := by
  cases resolveWaiters_settles P s exit with
  | nobody idle result => rw [result, idle]
  | deleted ticket _ result =>
    rw [result, finishDelete_waiters]
    split <;> exact told_waiters P s exit
  | relaunched ticket _ _ _ result =>
    rw [result]
    exact (relaunchNow_waiters P _).trans (told_waiters P s exit)
  | refused ticket _ _ _ result => rw [result]; exact told_waiters P s exit
  | waits _ _ _ result => rw [result, told_waiters]

/-! ## How an exit becomes known -/

/-- The status was collected when `n` processes had been created. -/
def Collected (n : Nat) (status : ExitStatus) (trace : List Event) : Prop :=
  ∃ since before, trace = since ++ .awaited (.ok (some status)) :: before ∧ instances before = n

theorem Collected.of_suffix {n : Nat} {status : ExitStatus} {trace more : List Event}
    (h : Collected n status trace) (hmore : trace <:+ more) : Collected n status more := by
  obtain ⟨since, before, rfl, hbefore⟩ := h
  obtain ⟨later, rfl⟩ := hmore
  exact ⟨later ++ since, before, by rw [List.append_assoc], hbefore⟩

variable {P s}

/-- What is collected while no process is created is of the process created last. -/
theorem Made.collected {status : ExitStatus} (h : Made (.awaited (.ok (some status))) s t)
    (hst : NoStart s t) : Collected (instances s.trace) status t.trace := by
  obtain ⟨since, before, htrace, hnew⟩ := h
  refine ⟨since, before, htrace, ?_⟩
  have hfirst : instances s.trace ≤ instances before := hnew.sublist.countP_le
  have hsecond : instances before ≤ instances t.trace := by
    have hsuffix : before <:+ t.trace := ⟨since ++ [.awaited (.ok (some status))], by simp [htrace]⟩
    exact hsuffix.sublist.countP_le
  have hsame := hst.instances_eq
  omega

variable (P) (s) in
theorem tryWait_made {status : ExitStatus} (h : (s.tryWait P).1 = .ok (some status)) :
    Made (.awaited (.ok (some status))) s (s.tryWait P).2 := by
  refine .of_cons ?_
  rw [← h]
  rfl

/-- From `s` to `t` the surroundings were called, and then everybody may have been settled: with the
exit status that was collected on the way, if with any. -/
inductive Route (P : Platform σ) (s t : Supervisor σ) : Prop where
  | calls (h : Calls s t)
  | settled {u : Supervisor σ} (exit : Except String ExitStatus) (h : Calls s u)
      (collected : ∀ status, exit = .ok status → Made (.awaited (.ok (some status))) s u)
      (result : t = u.resolveWaiters P exit)

theorem Route.of_calls (h : Calls s u) (hut : Route P u t) : Route P s t := by
  cases hut with
  | calls hut => exact .calls (h.trans hut)
  | settled exit hut collected result =>
    refine .settled exit (h.trans hut) ?_ result
    exact fun status hstatus => (collected status hstatus).after h.adds.suffix

theorem Route.handles (h : Route P s t) : Handles s t := by
  cases h with
  | calls h => exact .of_calls h
  | settled exit h _ result =>
    rw [result]
    exact (Handles.of_calls h).trans (resolveWaiters_handles P _ exit)

/-- Whoever is still parked was so before, and nothing but calls was done. -/
theorem Route.calls_of_parked (h : Route P s t) (hparked : t.waiters ≠ []) : Calls s t := by
  cases h with
  | calls h => exact h
  | settled exit _ _ result =>
    rw [result, resolveWaiters_waiters] at hparked
    exact absurd rfl hparked

variable (P s)

/-- Looking for an exit. -/
theorem checkWaiters_route : Route P s (s.checkWaiters P) := by
  unfold checkWaiters
  split
  · exact .calls (.refl s)
  · have hcalls := tryWait_calls P s
    split
    · next status u h =>
      rw [h] at hcalls
      refine .settled (.ok status) hcalls ?_ rfl
      intro found hfound
      obtain rfl : status = found := Except.ok.inj hfound
      have hcollected := tryWait_made P s (congrArg Prod.fst h)
      rwa [h] at hcollected
    · next u h => rw [h] at hcalls; exact .calls hcalls
    · next e u h =>
      rw [h] at hcalls
      exact .settled (.error e.message) hcalls (by simp) rfl

/-- Letting go of a process that is gone. -/
theorem onTerminated_route : Route P s (s.onTerminated P) := by
  unfold onTerminated
  split
  · exact .calls (.refl s)
  · have hwait := tryWait_calls P s
    have hrelease := release_calls P (s.tryWait P).2
    have hcalls := (hwait.trans hrelease).withStartTime none
    refine .settled _ hcalls ?_ rfl
    intro status hstatus
    have hfound : (s.tryWait P).1 = .ok (some status) := by
      split at hstatus
      · next found h =>
        obtain rfl : found = status := Except.ok.inj hstatus
        exact h
      · cases hstatus
      · cases hstatus
    exact (tryWait_made P s hfound).before (hrelease.withStartTime none).adds.suffix

/-- Collecting a zombie. -/
theorem reapZombie_route : Route P s (s.reapZombie P) := by
  unfold reapZombie
  have hcalls := tryWait_calls P s
  split
  · next status u h =>
    rw [h] at hcalls
    refine .settled (.ok status) hcalls ?_ rfl
    intro found hfound
    obtain rfl : status = found := Except.ok.inj hfound
    have hcollected := tryWait_made P s (congrArg Prod.fst h)
    rwa [h] at hcollected
  · next u h => rw [h] at hcalls; exact .calls hcalls

/-- A restart first sees whether the process has exited. -/
theorem noticeExit_route : Route P s (s.noticeExit P) := by
  unfold noticeExit
  split
  · exact .calls (.refl s)
  · have hcalls := isAlive_calls P s
    split
    · next u h => rw [h] at hcalls; exact .calls hcalls
    · next u h => rw [h] at hcalls; exact .of_calls hcalls (onTerminated_route P u)

end Supervisor

end Overseer
