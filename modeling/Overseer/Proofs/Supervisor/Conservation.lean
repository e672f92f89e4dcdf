import Overseer.Proofs.Supervisor.Answers
import Overseer.ScriptedProcess

/-!
# No request is lost

A request is queued, then perhaps parked, and answered in the end.  Settling answers one delete and
one restart at most, so that nobody may be parked beside another caller of the same kind.

* `OneStop` -- at most one delete and one restart is parked; `parkedTickets_count` -- so those whom
  the settling finds are all who are parked;
* `Takes tickets s t` -- from `s` to `t` the tickets were taken into the supervisor, to be parked or
  answered, and none was lost; `resolveWaiters_takes`, `handle_takes` and the others say so of every
  part of a turn;
* `requests` -- how many requests are queued, parked or answered under a ticket;
  `requests_reached` -- as many as were sent;
* `superseded_of_gone` -- who is told that the supervisor has ended while it goes on;
* `request_conservation` -- where every request is, in every reachable state.
-/

namespace Overseer

namespace Supervisor

variable {σ : Type} {P : Platform σ} {s t u : Supervisor σ} {k : Ticket}

/-! ## Who is parked -/

/-- One more element tells of one more ticket at most. -/
theorem count_filterMap_concat {α : Type} (ticket? : α → Option Ticket) (xs : List α) (x : α) :
    ((xs ++ [x]).filterMap ticket?).count k =
      (xs.filterMap ticket?).count k + (ticket? x).toList.count k := by
  rw [List.filterMap_append, List.count_append, List.filterMap_cons]
  cases ticket? x <;> rfl

/-- The requests that are parked. -/
def parkedTickets (waiters : List Waiter) : List Ticket := waiters.filterMap Waiter.ticket?

/-- At most one delete and one restart is parked. -/
structure OneStop (waiters : List Waiter) : Prop where
  deletes : waiters.countP Waiter.isDelete ≤ 1
  restarts : waiters.countP Waiter.isRestart ≤ 1

theorem countP_eq_zero_iff_any {waiters : List Waiter} {kind : Waiter → Bool} :
    waiters.countP kind = 0 ↔ waiters.any kind = false := by
  rw [List.countP_eq_zero, List.any_eq_false]

namespace OneStop

theorem nil : OneStop [] := ⟨by simp, by simp⟩

variable {waiters : List Waiter}

theorem of_append {more : List Waiter} (h : OneStop (waiters ++ more)) : OneStop waiters := by
  obtain ⟨hdeletes, hrestarts⟩ := h
  rw [List.countP_append] at hdeletes hrestarts
  exact ⟨by omega, by omega⟩

theorem park_wait (h : OneStop waiters) (ticket : Ticket) :
    OneStop (waiters ++ [.wait ticket]) := by
  have hdelete : [Waiter.wait ticket].countP Waiter.isDelete = 0 := rfl
  have hrestart : [Waiter.wait ticket].countP Waiter.isRestart = 0 := rfl
  refine ⟨?_, ?_⟩ <;> rw [List.countP_append]
  · have := h.deletes
    omega
  · have := h.restarts
    omega

theorem park_delete (h : OneStop waiters) (first : waiters.any Waiter.isDelete = false)
    (ticket : Option Ticket) : OneStop (waiters ++ [.delete ticket]) := by
  have hdelete : [Waiter.delete ticket].countP Waiter.isDelete = 1 := rfl
  have hrestart : [Waiter.delete ticket].countP Waiter.isRestart = 0 := rfl
  have hfirst := countP_eq_zero_iff_any.mpr first
  refine ⟨?_, ?_⟩ <;> rw [List.countP_append]
  · omega
  · have := h.restarts
    omega

theorem park_restart (first : waiters.any (fun waiter => !waiter.isWait) = false)
    (ticket : Ticket) : OneStop (waiters ++ [.restart ticket]) := by
  have hdelete : [Waiter.restart ticket].countP Waiter.isDelete = 0 := rfl
  have hrestart : [Waiter.restart ticket].countP Waiter.isRestart = 1 := rfl
  have hwaits (waiter : Waiter) (hmem : waiter ∈ waiters) : waiter.isWait = true := by
    rw [List.any_eq_false] at first
    simpa using first waiter hmem
  have hnoDelete : waiters.countP Waiter.isDelete = 0 := by
    rw [List.countP_eq_zero]
    intro waiter hmem
    have := hwaits waiter hmem
    cases waiter <;> simp_all [Waiter.isWait, Waiter.isDelete]
  have hnoRestart : waiters.countP Waiter.isRestart = 0 := by
    rw [List.countP_eq_zero]
    intro waiter hmem
    have := hwaits waiter hmem
    cases waiter <;> simp_all [Waiter.isWait, Waiter.isRestart]
  refine ⟨?_, ?_⟩ <;> rw [List.countP_append] <;> omega

end OneStop

/-- **Those whom the settling finds are all who are parked.** -/
theorem parkedTickets_count {waiters : List Waiter} (h : OneStop waiters) :
    (parkedTickets waiters).count k =
      (waiters.filterMap Waiter.awaits?).count k +
        (parkedDelete? waiters).join.toList.count k +
        (parkedRestart? waiters).toList.count k := by
  induction waiters using List.reverseRecOn with
  | nil => rfl
  | append_singleton rest waiter ih =>
    have hrest := ih h.of_append
    have hparked : (parkedTickets (rest ++ [waiter])).count k =
        (parkedTickets rest).count k + waiter.ticket?.toList.count k :=
      count_filterMap_concat Waiter.ticket? rest waiter
    have hdeletes := h.deletes
    have hrestarts := h.restarts
    rw [List.countP_append] at hdeletes hrestarts
    rw [hparked, parkedDelete?_concat, parkedRestart?_concat, count_filterMap_concat]
    cases waiter with
    | wait ticket =>
      have hself : (Waiter.wait ticket).awaits?.toList.count k =
          (Waiter.wait ticket).ticket?.toList.count k := rfl
      dsimp only
      omega
    | delete ticket =>
      have hself : [Waiter.delete ticket].countP Waiter.isDelete = 1 := rfl
      have hnone : parkedDelete? rest = none :=
        parkedDelete?_eq_none_iff.mpr (countP_eq_zero_iff_any.mp (by omega))
      rw [hnone] at hrest
      have hempty : (none : Option (Option Ticket)).join.toList.count k = 0 := rfl
      have hawaits : (Waiter.delete ticket).awaits?.toList.count k = 0 := rfl
      have hjoin : (some ticket).join.toList.count k =
          (Waiter.delete ticket).ticket?.toList.count k := rfl
      dsimp only
      omega
    | restart ticket =>
      have hself : [Waiter.restart ticket].countP Waiter.isRestart = 1 := rfl
      have hnone : parkedRestart? rest = none :=
        parkedRestart?_eq_none_iff.mpr (countP_eq_zero_iff_any.mp (by omega))
      rw [hnone] at hrest
      have hempty : (none : Option Ticket).toList.count k = 0 := rfl
      have hawaits : (Waiter.restart ticket).awaits?.toList.count k = 0 := rfl
      have hjoin : (some ticket).toList.count k =
          (Waiter.restart ticket).ticket?.toList.count k := rfl
      dsimp only
      omega

/-! ## Taking requests in -/

/-- The requests that were answered, the newest first. -/
def answeredTickets (trace : List Event) : List Ticket := trace.filterMap Event.answered?

/-- How many requests are parked or answered under a ticket. -/
def taken (k : Ticket) (s : Supervisor σ) : Nat :=
  (answeredTickets s.trace).count k + (parkedTickets s.waiters).count k

theorem taken_of_unanswered (h : Adds (fun e => e.answered? = none) s t)
    (hwaiters : t.waiters = s.waiters) : taken k t = taken k s := by
  unfold taken answeredTickets
  rw [hwaiters, h.filterMap_eq fun _ he => he]

theorem Calls.taken (h : Calls s t) : taken k t = taken k s :=
  taken_of_unanswered h.unanswered h.keeps.waiters

theorem taken_answer (ticket : Ticket) (reply : Answer) :
    taken k (s.answer ticket reply) = taken k s + [ticket].count k := by
  have hanswered : answeredTickets (s.answer ticket reply).trace =
      [ticket] ++ answeredTickets s.trace := rfl
  have hwaiters : (s.answer ticket reply).waiters = s.waiters := rfl
  unfold taken
  rw [hanswered, hwaiters, List.count_append]
  omega

theorem taken_finishDelete (ticket : Option Ticket) (result : Except Error Unit) :
    taken k (s.finishDelete ticket result) = taken k s + ticket.toList.count k := by
  cases ticket with
  | none => rfl
  | some ticket => exact taken_answer (s := { s with cancelled := true }) ticket _

theorem taken_park (waiter : Waiter) :
    taken k { s with waiters := s.waiters ++ [waiter] } =
      taken k s + waiter.ticket?.toList.count k := by
  have hparked : (parkedTickets (s.waiters ++ [waiter])).count k =
      (parkedTickets s.waiters).count k + waiter.ticket?.toList.count k :=
    count_filterMap_concat Waiter.ticket? s.waiters waiter
  unfold taken
  rw [hparked, Nat.add_assoc]

variable (P s) in
theorem relaunchNow_taken : taken k (s.relaunchNow P).2 = taken k s :=
  taken_of_unanswered (relaunchNow_unanswered P s) (relaunchNow_waiters P s)

theorem answeredTickets_answerAll (tickets : List Ticket) (reply : Answer) (trace : List Event) :
    answeredTickets ((tickets.map (Event.answered · reply)).reverse ++ trace) =
      tickets.reverse ++ answeredTickets trace := by
  unfold answeredTickets
  rw [List.filterMap_append, List.filterMap_reverse, List.filterMap_map]
  congr 2
  exact List.filterMap_some

variable (P s) in
/-- The callers who only wait are answered. -/
theorem told_taken (exit : Except String ExitStatus) : taken k (s.told P exit) =
    (answeredTickets s.trace).count k + (s.waiters.filterMap Waiter.awaits?).count k := by
  have hasked : answeredTickets (s.nothingLeft P exit).2.trace = answeredTickets s.trace :=
    (nothingLeft_calls P s exit).unanswered.filterMap_eq fun _ he => he
  have hnobody : (parkedTickets ([] : List Waiter)).count k = 0 := rfl
  unfold taken
  rw [told_trace, told_waiters, answeredTickets_answerAll, hasked, List.count_append,
    List.count_reverse]
  omega

/-- From `s` to `t` the tickets were taken in, each to be answered or parked. -/
def Takes (tickets : List Ticket) (s t : Supervisor σ) : Prop :=
  OneStop t.waiters ∧ ∀ k, taken k t = taken k s + tickets.count k

namespace Takes

variable {tickets more : List Ticket}

theorem trans (hst : Takes tickets s t) (htu : Takes more t u) : Takes (tickets ++ more) s u := by
  refine ⟨htu.1, ?_⟩
  intro k
  rw [htu.2 k, hst.2 k, List.count_append, Nat.add_assoc]

theorem of_calls (hs : OneStop s.waiters) (h : Calls s t) : Takes [] s t :=
  ⟨h.keeps.waiters ▸ hs, fun _ => h.taken⟩

theorem of_eq (hs : OneStop s.waiters) (hwaiters : t.waiters = s.waiters)
    (htrace : t.trace = s.trace) : Takes [] s t :=
  ⟨hwaiters ▸ hs, fun _ => taken_of_unanswered (.of_trace_eq htrace) hwaiters⟩

theorem answer (h : Takes [] s t) (ticket : Ticket) (reply : Answer) :
    Takes [ticket] s (t.answer ticket reply) := by
  refine ⟨h.1, ?_⟩
  intro k
  rw [taken_answer, h.2 k]
  rfl

theorem finishDelete (h : Takes [] s t) (ticket : Option Ticket) (result : Except Error Unit) :
    Takes ticket.toList s (t.finishDelete ticket result) := by
  refine ⟨by rw [finishDelete_waiters]; exact h.1, ?_⟩
  intro k
  rw [taken_finishDelete, h.2 k]
  rfl

end Takes

/-! ## Settling -/

variable (P s) in
/-- **Settling loses nobody**, whoever is parked. -/
theorem resolveWaiters_takes (hs : OneStop s.waiters) (exit : Except String ExitStatus) :
    Takes [] s (s.resolveWaiters P exit) := by
  refine ⟨by rw [resolveWaiters_waiters]; exact .nil, ?_⟩
  intro k
  have htold := told_taken P s exit (k := k)
  have hparked := parkedTickets_count hs (k := k)
  have hempty : ([] : List Ticket).count k = 0 := rfl
  have hnone : (none : Option Ticket).toList.count k = 0 := rfl
  have hnever : (none : Option (Option Ticket)).join.toList.count k = 0 := rfl
  have hself : taken k s = (answeredTickets s.trace).count k + (parkedTickets s.waiters).count k :=
    rfl
  cases resolveWaiters_settles P s exit with
  | nobody _ result => rw [result]; rfl
  | deleted ticket parked result =>
    rw [parked] at hparked
    have hjoin : (some ticket).join = ticket := rfl
    rw [result, taken_finishDelete]
    split
    · next restart hrestart =>
      rw [hrestart] at hparked
      have hsome : (some restart).toList = [restart] := rfl
      rw [hjoin, hsome] at hparked
      rw [taken_answer]
      omega
    · next hrestart =>
      rw [hrestart, hjoin] at hparked
      omega
  | relaunched ticket noDelete parked _ result =>
    rw [noDelete, parked] at hparked
    have hsome : (some ticket).toList = [ticket] := rfl
    rw [hsome] at hparked
    rw [result, taken_answer, relaunchNow_taken]
    omega
  | refused ticket noDelete parked _ result =>
    rw [noDelete, parked] at hparked
    have hsome : (some ticket).toList = [ticket] := rfl
    rw [hsome] at hparked
    rw [result, taken_answer]
    omega
  | waits _ noDelete noRestart result =>
    rw [noDelete, noRestart] at hparked
    rw [result]
    omega

theorem Route.takes (h : Route P s t) (hs : OneStop s.waiters) : Takes [] s t := by
  cases h with
  | calls h => exact .of_calls hs h
  | settled exit h _ result =>
    have hcalls := Takes.of_calls hs h
    rw [result]
    exact hcalls.trans (resolveWaiters_takes P _ hcalls.1 exit)

/-! ## Requests -/

variable (P) in
theorem park_takes {waiter : Waiter} (hs : OneStop (s.waiters ++ [waiter])) :
    Takes waiter.ticket?.toList s (s.park P waiter) := by
  have hroute := (park_route P s waiter).takes hs
  refine ⟨hroute.1, ?_⟩
  intro k
  rw [hroute.2 k, taken_park]
  rfl

variable (P) in
theorem delete_takes (hs : OneStop s.waiters) (ticket : Option Ticket) :
    Takes ticket.toList s (s.delete P ticket) := by
  have hgraceful := stopGraceful_calls P s
  cases delete_deletes P s ticket with
  | busy _ result =>
    rcases result with ⟨rfl, result⟩ | ⟨refused, rfl, result⟩ <;> rw [result]
    · exact .of_eq hs rfl rfl
    · exact Takes.answer (.of_eq hs rfl rfl) refused _
  | parked first _ result =>
    have hwaiters := hgraceful.keeps.waiters
    rw [result]
    exact (Takes.of_calls hs hgraceful).trans
      (park_takes P (by rw [hwaiters]; exact hs.park_delete first ticket))
  | forced _ outcome result =>
    rw [result]
    exact Takes.finishDelete (.of_calls hs (hgraceful.trans (stopForced_calls P _))) ticket outcome

variable (P) in
theorem restart_takes (hs : OneStop s.waiters) (ticket : Ticket) :
    Takes [ticket] s (s.restart P ticket) := by
  have hnotice := noticeExit_route P s
  have htakes := hnotice.takes hs
  have hgraceful := stopGraceful_calls P (s.noticeExit P)
  have hasked := htakes.trans (.of_calls htakes.1 hgraceful)
  cases restart_restarts P s ticket with
  | busy _ result => rw [result]; exact Takes.answer (.of_eq hs rfl rfl) ticket _
  | parked first _ result =>
    have hone : OneStop (((s.noticeExit P).stopGraceful P).2.waiters ++ [.restart ticket]) := by
      rw [hgraceful.keeps.waiters]
      rcases hnotice.waiters with h | h <;> rw [h]
      · exact .park_restart first ticket
      · exact .park_restart rfl ticket
    rw [result]
    exact hasked.trans (park_takes P hone)
  | relaunched _ _ result =>
    have hwaiters := relaunchNow_waiters P (s.noticeExit P)
    rw [result]
    refine Takes.answer (htakes.trans ⟨hwaiters ▸ htakes.1, ?_⟩) ticket _
    exact fun k => relaunchNow_taken P _
  | refused _ e result => rw [result]; exact Takes.answer hasked ticket _

variable (P) in
/-- **A request is parked or answered**, and nobody else is lost. -/
theorem handle_takes (hs : OneStop s.waiters) (ticket : Ticket) (request : Request) :
    Takes [ticket] s (s.handle P ticket request) := by
  by_cases hplain : request.isPlain = true
  · obtain ⟨u, reply, hcalls, hresult, -⟩ := handle_plain P s hplain ticket
    rw [hresult]
    exact Takes.answer (.of_calls hs hcalls) ticket reply
  · cases request with
    | restart => exact restart_takes P hs ticket
    | delete => exact delete_takes P hs (some ticket)
    | wait =>
      rcases wait_cases P s ticket with ⟨-, hresult⟩ | ⟨-, hresult⟩ <;> rw [hresult]
      · exact Takes.answer (.of_eq hs rfl rfl) ticket _
      · exact park_takes P (hs.park_wait ticket)
    | _ => exact absurd rfl hplain

variable (P) in
theorem onTick_takes (hs : OneStop s.waiters) : Takes [] s (s.onTick P) := by
  cases hlive : s.watchdog.cancelled with
  | true =>
    cases onTick_ticks P s with
    | stopped _ result => rw [result]; exact .of_calls hs (observe_calls P s)
    | terminated live | zombie live | quiet live => rw [hlive] at live; cases live
  | false =>
    have hnoted : Takes [] s (s.noted P) := by
      refine ⟨by rw [noted_waiters]; exact hs, ?_⟩
      intro k
      refine taken_of_unanswered ?_ (noted_waiters P s)
      exact (observe_calls P s).unanswered.trans
        ((noted_adds P s).mono fun _ he => Event.answered?_of_isTick he)
    exact hnoted.trans ((tick_route P s hlive).takes hnoted.1)

variable (P) in
theorem onDetached_takes (hs : OneStop s.waiters) : Takes [] s (s.onDetached P) := by
  have hdetached : Takes [] s { s with detached := true } := .of_eq hs rfl rfl
  unfold onDetached
  dsimp only
  split
  · exact hdetached.trans (delete_takes P hdetached.1 none)
  · exact hdetached

variable (P) in
theorem relaunch_takes (hs : OneStop s.waiters) : Takes [] s (s.relaunch P) := by
  have hlaunch := launch_unanswered P { s with watchdog := s.watchdog.takeRestart.2 }
  have hwaiters := (launch_keeps P { s with watchdog := s.watchdog.takeRestart.2 }).waiters
  unfold relaunch
  dsimp only
  split
  · refine ⟨?_, fun _ => taken_of_unanswered hlaunch hwaiters⟩
    rw [hwaiters]
    exact hs
  · exact .of_eq hs rfl rfl

/-! ## Runs -/

/-- The requests that are queued. -/
def queuedTickets (s : Supervisor σ) : List Ticket := s.queue.map (·.1)

/-- How many requests are queued, parked or answered under a ticket. -/
def requests (k : Ticket) (s : Supervisor σ) : Nat := taken k s + (queuedTickets s).count k

/-- The end of the loop answers everybody. -/
theorem finish_requests : requests k s.finish.rearm = requests k s := by
  obtain ⟨hwaiters, hqueue⟩ := finish_left (s := s)
  have htrace : s.finish.rearm.trace = s.finish.trace := rfl
  have hpending : s.pendingTickets = parkedTickets s.waiters ++ queuedTickets s := rfl
  unfold requests taken queuedTickets
  rw [hwaiters, hqueue, htrace, finish_eq]
  dsimp only
  rw [answeredTickets_answerAll, hpending, List.count_append, List.count_reverse, List.count_append]
  unfold parkedTickets queuedTickets
  simp only [List.filterMap_nil, List.map_nil, List.count_nil]
  omega

variable (P) in
/-- What is served is taken in, and nobody else. -/
theorem serve_takes (hs : OneStop s.waiters) {occasion : Occasion} (hdue : s.due? = some occasion)
    (hend : occasion ≠ .cancelled) : ∃ tickets, Takes tickets s (s.serve P occasion) ∧
      queuedTickets s = tickets ++ queuedTickets (s.opened occasion) := by
  cases occasion with
  | cancelled => exact absurd rfl hend
  | relaunch => exact ⟨[], relaunch_takes P hs, rfl⟩
  | detached => exact ⟨[], onDetached_takes P hs, rfl⟩
  | exitCheck => exact ⟨[], (checkWaiters_route P s).takes hs, rfl⟩
  | tick => exact ⟨[], onTick_takes P (s := s.opened .tick) hs, rfl⟩
  | request ticket request =>
    refine ⟨[ticket], handle_takes P (s := { s with queue := s.queue.tail }) hs ticket request, ?_⟩
    rw [queuedTickets, queue_of_due hdue]
    rfl

variable (P) in
/-- **A turn loses nobody.** -/
theorem turn_requests (hs : OneStop s.waiters) :
    OneStop (s.turn P).waiters ∧ ∀ k, requests k (s.turn P) = requests k s := by
  cases hdue : s.due? with
  | none => rw [turn_of_idle hdue]; exact ⟨hs, fun _ => rfl⟩
  | some occasion =>
    by_cases hend : occasion = .cancelled
    · subst hend
      have hturn : s.turn P = s.finish.rearm := turn_eq hdue
      rw [hturn, finish_left.1]
      exact ⟨.nil, fun k => finish_requests⟩
    · have hqueue := turn_queue (P := P) hdue hend
      obtain ⟨tickets, htakes, hqueued⟩ := serve_takes P hs hdue hend
      have hsame (k : Ticket) : taken k (s.turn P) = taken k (s.serve P occasion) := by
        rw [turn_eq hdue]
        rfl
      refine ⟨by rw [turn_eq hdue]; exact htakes.1, ?_⟩
      intro k
      unfold requests
      rw [hsame, htakes.2 k, hqueued, queuedTickets, hqueue, List.count_append, queuedTickets]
      omega

/-- The request that is sent. -/
def Input.sent? : Input σ → Option Ticket
  | send ticket _ => some ticket
  | _ => none

/-- The requests that are sent. -/
def sentTickets (inputs : List (Input σ)) : List Ticket := inputs.filterMap Input.sent?

variable (P s) in
/-- What happens from outside loses nobody, and adds whoever sends a request. -/
theorem step_requests {input : Input σ} (h : input ≠ .turn) :
    requests k (step P s input) = requests k s + input.sent?.toList.count k := by
  cases input with
  | turn => exact absurd rfl h
  | send ticket request =>
    cases hrunning : s.running with
    | true =>
      have hstep : step P s (.send ticket request) =
          { s with queue := s.queue ++ [(ticket, request)] } := by
        simp [step, send, hrunning]
      have hqueued : queuedTickets (step P s (.send ticket request)) =
          queuedTickets s ++ [ticket] := by
        rw [hstep, queuedTickets, List.map_append]
        rfl
      have htaken : taken k (step P s (.send ticket request)) = taken k s := by rw [hstep]; rfl
      have hself : (Input.send (σ := σ) ticket request).sent?.toList = [ticket] := rfl
      unfold requests
      rw [hqueued, htaken, hself, List.count_append, Nat.add_assoc]
    | false =>
      have hstep : step P s (.send ticket request) =
          s.answer ticket (.error (.gone s.spec.name)) := by
        simp [step, send, hrunning]
      have hqueued : queuedTickets (s.answer ticket (.error (.gone s.spec.name))) =
          queuedTickets s := rfl
      have hself : (Input.send (σ := σ) ticket request).sent?.toList = [ticket] := rfl
      unfold requests
      rw [hstep, taken_answer, hqueued, hself]
      omega
  | _ => rfl

variable (P) in
/-- **In every reachable state as many requests are queued, parked or answered as were sent.** -/
theorem requests_reached (spec : Spec) (system : σ) (sink : Option Sink)
    (inputs : List (Input σ)) :
    OneStop (reached P spec system sink inputs).waiters ∧
      ∀ k, requests k (reached P spec system sink inputs) = (sentTickets inputs).count k := by
  induction inputs using List.reverseRecOn with
  | nil =>
    have hlaunch : OneStop ((new spec system sink).launch P).2.waiters ∧
        ∀ k, requests k ((new spec system sink).launch P).2 = 0 := by
      have hkeeps := launch_keeps P (new spec system sink)
      refine ⟨by rw [hkeeps]; exact .nil, ?_⟩
      intro k
      unfold requests queuedTickets
      rw [taken_of_unanswered (launch_unanswered P _) hkeeps.waiters, hkeeps]
      rfl
    refine @supervise_invariant σ P (fun u => OneStop u.waiters ∧ ∀ k, requests k u = 0) spec system
      sink hlaunch hlaunch ?_
    rintro u ⟨-, hnone⟩
    refine ⟨by rw [finish_eq]; exact .nil, ?_⟩
    exact fun k => finish_requests.trans (hnone k)
  | append_singleton rest input ih =>
    obtain ⟨hone, hsent⟩ := ih
    have hlast (k : Ticket) : (sentTickets (rest ++ [input])).count k =
        (sentTickets rest).count k + input.sent?.toList.count k :=
      count_filterMap_concat Input.sent? rest input
    rw [reached_concat]
    by_cases hturn : input = .turn
    · subst hturn
      obtain ⟨hone', hkept⟩ := turn_requests P hone
      refine ⟨hone', ?_⟩
      intro k
      rw [hlast, ← hsent k]
      exact hkept k
    · refine ⟨by rw [step_frame P _ hturn]; exact hone, ?_⟩
      intro k
      rw [step_requests P _ hturn, hsent k, hlast]

/-! ## Who is told that the supervisor has ended -/

variable (P) in
/-- A restart is parked, and the turn ends a delete that is parked beside it or is being served. -/
structure Supersedes (ticket : Ticket) (s : Supervisor σ) : Prop where
  parked : .restart ticket ∈ s.waiters
  beside : ∃ occasion deleter, s.due? = some occasion ∧ .delete deleter ∈ s.audience occasion
  ends : s.cancelled = false ∧ (s.turn P).cancelled = true

/-- While the loop goes on, only a restart that a delete supersedes is told that the supervisor has
ended. -/
theorem superseded_of_gone {ticket : Ticket} {name : String}
    (hmade : Made (.answered ticket (.error (.gone name))) s (s.turn P))
    (hrunning : (s.turn P).running = true) : Supersedes P ticket s := by
  cases hdue : s.due? with
  | none =>
    rw [turn_of_idle hdue] at hmade
    exact absurd hmade (not_made_of_trace_eq rfl)
  | some occasion =>
    have hend : occasion ≠ .cancelled := by
      rintro rfl
      have hstopped : (s.turn P).running = false := by
        rw [turn_eq hdue]
        exact finish_stopped
      rw [hstopped] at hrunning
      cases hrunning
    have hordinary : ¬ Ordinary (s.audience occasion) (.answered ticket (.error (.gone name))) := by
      rintro (h | _ | ⟨-, there⟩)
      · cases h
      · cases there
    obtain ⟨t, hturn, hconcludes⟩ := turn_concludes P hdue hend
    have hkept : (s.turn P).trace = t.trace := by rw [hturn]; rfl
    obtain ⟨since, before, htrace, hnew⟩ := hmade
    rw [hkept] at htrace
    have hmade : Made (.answered ticket (.error (.gone name))) s t := ⟨since, before, htrace, hnew⟩
    cases hconcludes with
    | ordinary _ done => exact absurd (done.of_made hmade) hordinary
    | @ended deleter u result _ wanted done grounds finished =>
      have hcancelled : (s.turn P).cancelled = true := by
        rw [hturn, finished]
        exact finishDelete_cancelled deleter result
      have hlast := finishDelete_adds (s := u) deleter result
      rw [← finished] at hlast
      have hall := (done.mono fun _ he => Or.inl he).trans (hlast.mono fun _ he => Or.inr he)
      rcases hall.of_made hmade with (h | ⟨other, _, hparked, h⟩) | ⟨asked, -, h⟩
      · exact absurd h hordinary
      · obtain ⟨rfl, -⟩ := Event.answered.inj h
        exact ⟨hparked, ⟨occasion, deleter, hdue, wanted⟩, not_cancelled_of_due hdue hend,
          hcancelled⟩
      · have hthere := grounds.there
        rw [← (Event.answered.inj h).2] at hthere
        cases hthere

/-- Nobody is queued or parked. -/
def Idle (s : Supervisor σ) : Prop := s.waiters = [] ∧ s.queue = []

/-- The tickets, told that the supervisor has ended, the newest first. -/
def dismissals (s : Supervisor σ) (tickets : List Ticket) : List Event :=
  (tickets.map (Event.answered · (.error (.gone s.spec.name)))).reverse

/-- The loop ends with everybody told that it has. -/
theorem step_ends {input : Input σ} (hrunning : s.running = true)
    (hends : (step P s input).running = false) :
    Idle (step P s input) ∧ (step P s input).trace = s.dismissals s.pendingTickets ++ s.trace := by
  have hturn : input = .turn := by
    by_contra hother
    rw [step_frame P s hother] at hends
    rw [hends] at hrunning
    cases hrunning
  subst hturn
  have hdue : s.due? = some .cancelled := by
    cases hdue : s.due? with
    | none =>
      rw [step, turn_of_idle hdue, hrunning] at hends
      cases hends
    | some occasion =>
      by_contra hend
      rw [step, turn_running hdue (by simpa using hend)] at hends
      cases hends
  have hresult : step P s .turn = s.finish.rearm := turn_eq hdue
  rw [hresult]
  exact ⟨finish_left, congrArg Supervisor.trace finish_eq⟩

/-- A supervisor that has ended has nobody left waiting. -/
def Rested (s : Supervisor σ) : Prop := s.running = false → Idle s

theorem Rested.step (hs : Rested s) (input : Input σ) : Rested (step P s input) := by
  intro hstopped
  cases hrunning : s.running with
  | true => exact (step_ends hrunning hstopped).1
  | false =>
    obtain ⟨hwaiters, hqueue⟩ := hs hrunning
    cases input with
    | turn =>
      have hdue : s.due? = none := by simp [due?, hrunning]
      rw [Supervisor.step, turn_of_idle hdue]
      exact ⟨hwaiters, hqueue⟩
    | send ticket request =>
      have hstep : Supervisor.step P s (.send ticket request) =
          s.answer ticket (.error (.gone s.spec.name)) := by
        simp [Supervisor.step, send, hrunning]
      rw [hstep]
      exact ⟨hwaiters, hqueue⟩
    | _ => exact ⟨hwaiters, hqueue⟩

variable (P) in
theorem Rested.of_reached (spec : Spec) (system : σ) (sink : Option Sink)
    (inputs : List (Input σ)) : Rested (reached P spec system sink inputs) := by
  refine run_invariant ?_ fun u hu input _ => hu.step input
  have hnobody : Idle ((new spec system sink).launch P).2 := by
    rw [launch_keeps P (new spec system sink)]
    exact ⟨rfl, rfl⟩
  refine supervise_invariant (fun _ => hnobody) (fun _ => hnobody) ?_
  intro u _ _
  exact finish_left

variable (P) in
/-- A supervisor that has ended tells so to everybody who sends a request. -/
theorem run_of_stopped (h : s.running = false) (more : List (Input σ)) :
    (run P s more).running = false ∧ (run P s more).spec = s.spec ∧
      (run P s more).trace = s.dismissals (sentTickets more) ++ s.trace := by
  induction more using List.reverseRecOn with
  | nil => exact ⟨h, rfl, rfl⟩
  | append_singleton rest input ih =>
    obtain ⟨hstopped, hspec, htrace⟩ := ih
    have hsent : sentTickets (rest ++ [input]) = sentTickets rest ++ input.sent?.toList := by
      unfold sentTickets
      rw [List.filterMap_append, List.filterMap_cons]
      cases input.sent? <;> rfl
    rw [run_concat, hsent]
    cases input with
    | turn =>
      have hdue : (run P s rest).due? = none := by simp [due?, hstopped]
      rw [step, turn_of_idle hdue]
      exact ⟨hstopped, hspec, by simpa [Input.sent?] using htrace⟩
    | send ticket request =>
      have hstep : step P (run P s rest) (.send ticket request) =
          (run P s rest).answer ticket (.error (.gone s.spec.name)) := by
        simp [step, send, hstopped, hspec]
      have hanswer : ((run P s rest).answer ticket (.error (.gone s.spec.name))).trace =
          .answered ticket (.error (.gone s.spec.name)) :: (run P s rest).trace := rfl
      rw [hstep]
      refine ⟨hstopped, hspec, ?_⟩
      rw [hanswer, htrace]
      simp [dismissals, Input.sent?]
    | _ =>
      rw [← List.append_nil (sentTickets rest)] at htrace
      exact ⟨hstopped, hspec, htrace⟩

/-! ## Conservation -/

variable (P) in
/-- Where the requests are that were sent to a supervisor. -/
structure Conserved (s : Supervisor σ) (sent : List Ticket) : Prop where
  /-- The requests that are answered, parked or queued are those that were sent. -/
  placed : (answeredTickets s.trace ++ parkedTickets s.waiters ++ queuedTickets s).Perm sent
  /-- A request whose ticket is its own is in one place, and there once. -/
  once : ∀ ticket, sent.count ticket = 1 →
    ((answeredTickets s.trace).count ticket, (parkedTickets s.waiters).count ticket,
      (queuedTickets s).count ticket) ∈ [(1, 0, 0), (0, 1, 0), (0, 0, 1)]
  /-- While the loop goes on, only a superseded restart is told that the supervisor has ended. -/
  gone : ∀ input ticket name, (step P s input).running = true →
    Made (.answered ticket (.error (.gone name))) s (step P s input) →
      input = .turn ∧ Supersedes P ticket s
  /-- When the loop ends, everybody who is parked or queued is told so. -/
  ended : ∀ input, s.running = true → (step P s input).running = false →
    Idle (step P s input) ∧ (step P s input).trace = s.dismissals s.pendingTickets ++ s.trace
  /-- Once it has ended, nobody is left waiting, and whoever sends a request is told so at once. -/
  later : s.running = false → Idle s ∧ ∀ more, (run P s more).running = false ∧
    (run P s more).trace = s.dismissals (sentTickets more) ++ s.trace

/-- **No request is lost.**  In every reachable state every request that was sent is answered,
parked or queued, and is so once. -/
theorem request_conservation (P : Platform σ) (spec : Spec) (system : σ) (sink : Option Sink)
    (inputs : List (Input σ)) :
    Conserved P (reached P spec system sink inputs) (sentTickets inputs) := by
  have hrequests := (requests_reached P spec system sink inputs).2
  have hrested := Rested.of_reached P spec system sink inputs
  generalize reached P spec system sink inputs = s at *
  have hcounts (k : Ticket) : (answeredTickets s.trace).count k +
      (parkedTickets s.waiters).count k + (queuedTickets s).count k =
        (sentTickets inputs).count k := hrequests k
  refine ⟨?_, ?_, ?_, fun _ => step_ends, ?_⟩
  · rw [List.perm_iff_count]
    intro k
    rw [List.count_append, List.count_append]
    exact hcounts k
  · intro ticket hone
    have hsum := hcounts ticket
    rw [hone] at hsum
    have hcases : (answeredTickets s.trace).count ticket = 1 ∧
          (parkedTickets s.waiters).count ticket = 0 ∧ (queuedTickets s).count ticket = 0 ∨
        (answeredTickets s.trace).count ticket = 0 ∧
          (parkedTickets s.waiters).count ticket = 1 ∧ (queuedTickets s).count ticket = 0 ∨
        (answeredTickets s.trace).count ticket = 0 ∧
          (parkedTickets s.waiters).count ticket = 0 ∧ (queuedTickets s).count ticket = 1 := by
      omega
    rcases hcases with ⟨h₁, h₂, h₃⟩ | ⟨h₁, h₂, h₃⟩ | ⟨h₁, h₂, h₃⟩ <;> rw [h₁, h₂, h₃] <;> simp
  · intro input ticket name hrunning hmade
    by_cases hturn : input = .turn
    · subst hturn
      exact ⟨rfl, superseded_of_gone hmade hrunning⟩
    · -- From outside a running supervisor answers nobody.
      exfalso
      have hbefore : s.running = true := by rwa [step_frame P s hturn] at hrunning
      exact not_made_of_trace_eq (step_unheard hturn hbefore) hmade
  · intro hstopped
    refine ⟨hrested hstopped, ?_⟩
    intro more
    obtain ⟨hstill, -, htrace⟩ := run_of_stopped P hstopped more
    exact ⟨hstill, htrace⟩

/-- A wait, a restart and a delete that are parked together are all answered when the process is
found to have exited. -/
example : answeredTickets (reached ScriptedProcess.platform (ScriptedProcess.spec .never)
    { script := { ignored := [.term] } } none
    [.send 0 .wait, .send 1 .restart, .send 2 .delete, .turn, .turn, .turn,
      .world fun p => { p with life := .dead }, .elapse 20, .turn]).trace = [2, 1, 0] := by
  decide

end Supervisor

end Overseer
