import Overseer.Proofs.Supervisor.Unasked
import Overseer.Proofs.Supervisor.Conservation

/-!
# One stop at a time

A parked delete excludes further deletes and restarts, a parked restart excludes further restarts.
Whoever is excluded is refused, and the refusal changes nothing.

* `Request.excluded` -- the requests that parked callers exclude;
* `Ordered` -- no restart is parked behind a delete; `Ordered.step` -- what every input keeps;
* `handle_excluded`, `handle_polite` -- an excluded request is refused, and no other is;
* `stop_exclusion` -- in every reachable state.
-/

namespace Overseer

/-- The request is of no use while `waiters` are parked: a delete beside a delete, and a restart
beside a delete or another restart. -/
def Request.excluded (waiters : List Waiter) : Request → Bool
  | delete => waiters.any Waiter.isDelete
  | restart => waiters.any fun waiter => waiter.isDelete || waiter.isRestart
  | _ => false

/-- A request was refused because another one is parked. -/
def Event.isRefusal : Event → Bool
  | answered _ reply => Answer.isBusy reply
  | _ => false

theorem Event.not_isRefusal_of_isMild {e : Event} (h : e.isMild = true) : e.isRefusal = false := by
  cases e <;> simp_all [isMild, isRefusal]

theorem Event.not_isRefusal_of_isCall {e : Event} (h : e.isCall = true) : e.isRefusal = false := by
  cases e <;> simp_all [isCall, isRefusal]

/-- Whoever does not only wait wants a deletion or a restart. -/
theorem Waiter.isDelete_or_isRestart (waiter : Waiter) :
    (waiter.isDelete || waiter.isRestart) = !waiter.isWait := by
  cases waiter <;> rfl

namespace Supervisor

variable {σ : Type} {P : Platform σ} {s t u : Supervisor σ}

/-! ## The order of the parked callers -/

/-- No restart is parked behind a delete. -/
def Ordered (waiters : List Waiter) : Prop :=
  waiters.Pairwise fun earlier later => earlier.isDelete = true → later.isRestart = false

namespace Ordered

theorem nil : Ordered [] := List.Pairwise.nil

/-- One more caller is parked, no restart behind a delete. -/
theorem concat {waiters : List Waiter} {waiter : Waiter} (h : Ordered waiters)
    (hnew : waiter.isRestart = true → waiters.any Waiter.isDelete = false) :
    Ordered (waiters ++ [waiter]) := by
  refine List.pairwise_append.mpr ⟨h, List.pairwise_singleton _ _, ?_⟩
  intro earlier hearlier later hlater hdelete
  obtain rfl := List.mem_singleton.mp hlater
  by_contra hrestart
  have hnone := hnew (by simpa using hrestart)
  rw [List.any_eq_false] at hnone
  exact hnone earlier hearlier hdelete

theorem of_route (h : Ordered s.waiters) (hroute : Route P s t) : Ordered t.waiters := by
  rcases hroute.waiters with hsame | hnobody
  · rw [hsame]; exact h
  · rw [hnobody]; exact nil

theorem of_calls (h : Ordered s.waiters) (hcalls : Calls s t) : Ordered t.waiters := by
  rw [hcalls.keeps.waiters]
  exact h

theorem park {waiter : Waiter} (h : Ordered s.waiters)
    (hnew : waiter.isRestart = true → s.waiters.any Waiter.isDelete = false) :
    Ordered (s.park P waiter).waiters :=
  of_route (s := { s with waiters := s.waiters ++ [waiter] }) (h.concat hnew)
    (park_route P s waiter)

theorem delete (h : Ordered s.waiters) (ticket : Option Ticket) :
    Ordered (s.delete P ticket).waiters := by
  have hasked := h.of_calls (stopGraceful_calls P s)
  cases delete_deletes P s ticket with
  | busy _ result =>
    rcases result with ⟨-, result⟩ | ⟨refused, -, result⟩ <;> rw [result] <;> exact h
  | parked _ _ result =>
    rw [result]
    exact hasked.park fun hrestart => by cases hrestart
  | forced _ outcome result =>
    rw [result, finishDelete_waiters]
    exact hasked.of_calls (stopForced_calls P _)

theorem restart (h : Ordered s.waiters) (ticket : Ticket) :
    Ordered (s.restart P ticket).waiters := by
  have hnoticed := h.of_route (noticeExit_route P s)
  have hcalls := stopGraceful_calls P (s.noticeExit P)
  cases restart_restarts P s ticket with
  | busy _ result => rw [result]; exact h
  | parked first _ result =>
    rw [result]
    refine (hnoticed.of_calls hcalls).park fun _ => ?_
    rw [hcalls.keeps.waiters]
    rcases (noticeExit_route P s).waiters with hsame | hnobody
    · rw [hsame]
      rw [List.any_eq_false] at first ⊢
      intro waiter hmem hdelete
      have hstop := first waiter hmem
      rw [← Waiter.isDelete_or_isRestart, hdelete] at hstop
      exact hstop rfl
    · rw [hnobody]
      rfl
  | relaunched _ _ result =>
    have hlaunch := relaunchNow_waiters P (s.noticeExit P)
    rw [result]
    rw [← hlaunch] at hnoticed
    exact hnoticed
  | refused _ e result =>
    have hkept := hnoticed.of_calls hcalls
    rw [result]
    exact hkept

theorem handle (h : Ordered s.waiters) (ticket : Ticket) (request : Request) :
    Ordered (s.handle P ticket request).waiters := by
  by_cases hplain : request.isPlain = true
  · obtain ⟨u, reply, hcalls, hresult, -⟩ := handle_plain P s hplain ticket
    have hkept := h.of_calls hcalls
    rw [hresult]
    exact hkept
  · cases request with
    | restart => exact h.restart ticket
    | delete => exact h.delete (some ticket)
    | wait =>
      rcases wait_cases P s ticket with ⟨-, hresult⟩ | ⟨-, hresult⟩ <;> rw [hresult]
      · exact h
      · exact h.park fun hrestart => by cases hrestart
    | _ => exact absurd rfl hplain

theorem onTick (h : Ordered s.waiters) : Ordered (s.onTick P).waiters := by
  have hnoted : Ordered (s.noted P).waiters := by
    rw [noted_waiters]
    exact h
  cases onTick_ticks P s with
  | stopped _ result => rw [result]; exact h.of_calls (observe_calls P s)
  | terminated _ _ result => rw [result]; exact hnoted.of_route (onTerminated_route P _)
  | zombie _ _ result => rw [result]; exact hnoted.of_route (reapZombie_route P _)
  | quiet _ _ result => rw [result]; exact hnoted

/-- **Every occasion** keeps the order. -/
theorem serve (h : Ordered s.waiters) (occasion : Occasion) :
    Ordered (s.serve P occasion).waiters := by
  cases occasion with
  | request ticket request => exact handle (s := { s with queue := s.queue.tail }) h ticket request
  | tick => exact onTick (s := s.opened .tick) h
  | exitCheck => exact h.of_route (checkWaiters_route P s)
  | cancelled =>
    have hnobody : s.finish.waiters = [] := by rw [finish_eq]
    rw [Supervisor.serve, hnobody]
    exact nil
  | relaunch =>
    have hsame : (s.relaunch P).waiters = s.waiters := by
      unfold relaunch
      dsimp only
      split
      · exact (launch_keeps P _).waiters
      · rfl
    rw [Supervisor.serve, hsame]
    exact h
  | detached =>
    unfold Supervisor.serve onDetached
    dsimp only
    split
    · exact delete (s := { s with detached := true }) h none
    · exact h

/-- **Every input** keeps the order. -/
theorem step (h : Ordered s.waiters) (input : Input σ) :
    Ordered (step P s input).waiters := by
  by_cases hturn : input = .turn
  · subst hturn
    rw [Supervisor.step]
    cases hdue : s.due? with
    | none => rwa [turn_of_idle hdue]
    | some occasion =>
      rw [turn_eq hdue]
      exact h.serve occasion
  · rw [step_frame P s hturn]
    exact h

end Ordered

/-! ## Refusals -/

/-- From `s` to `t` no request was refused because another one is parked. -/
abbrev Polite (s t : Supervisor σ) : Prop := Adds (fun e => e.isRefusal = false) s t

theorem Mild.polite (h : Mild s t) : Polite s t :=
  h.mono fun _ he => Event.not_isRefusal_of_isMild he

theorem Calls.polite (h : Calls s t) : Polite s t :=
  h.adds.mono fun _ he => Event.not_isRefusal_of_isCall he

variable (P) (s)

/-- **An excluded request is refused**, and that is all. -/
theorem handle_excluded {ticket : Ticket} {request : Request}
    (h : request.excluded s.waiters = true) :
    s.handle P ticket request = s.refuseBusy ticket := by
  cases request with
  | delete => exact if_pos h
  | restart =>
    have hstop : s.waiters.any (fun waiter => !waiter.isWait) = true := by
      rw [← funext Waiter.isDelete_or_isRestart]
      exact h
    exact if_pos hstop
  | _ => cases h

theorem delete_polite {ticket : Option Ticket}
    (h : ticket = none ∨ s.waiters.any Waiter.isDelete = false) :
    Polite s (s.delete P ticket) := by
  have hasked := (stopGraceful_calls P s).polite
  cases delete_deletes P s ticket with
  | busy parked result =>
    rcases result with ⟨-, result⟩ | ⟨refused, rfl, -⟩
    · rw [result]
      exact .of_trace_eq rfl
    · rcases h with h | h
      · cases h
      · rw [parked] at h
        cases h
  | parked _ _ result => rw [result]; exact hasked.trans (park_mild P _ _).polite
  | forced _ outcome result told =>
    obtain ⟨graceful, htold⟩ := told
    rw [result]
    refine (hasked.trans (stopForced_calls P _).polite).trans
      (finishDelete_mild _ ticket ?_).polite
    rw [htold]
    cases ((s.stopGraceful P).2.stopForced P).1 <;> rfl

theorem restart_polite (ticket : Ticket)
    (h : s.waiters.any (fun waiter => !waiter.isWait) = false) :
    Polite s (s.restart P ticket) := by
  have hnoticed := (noticeExit_mild P s).polite
  have hasked := hnoticed.trans (stopGraceful_calls P (s.noticeExit P)).polite
  cases restart_restarts P s ticket with
  | busy parked => rw [parked] at h; cases h
  | parked _ _ result => rw [result]; exact hasked.trans (park_mild P _ _).polite
  | relaunched _ _ result =>
    have hlaunched := relaunchNow_mild P (s.noticeExit P)
    rw [result]
    exact (hnoticed.trans hlaunched.polite).trans
      (Mild.of_tried (relaunchNow_tried P (s.noticeExit P))).polite
  | refused _ e result refusal =>
    have htried := stopGraceful_tried P (s.noticeExit P)
    rw [refusal] at htried
    rw [result]
    exact hasked.trans (Mild.of_tried htried).polite

/-- **No other request is refused so.** -/
theorem handle_polite {request : Request} (h : request.excluded s.waiters = false)
    (ticket : Ticket) : Polite s (s.handle P ticket request) := by
  by_cases hplain : request.isPlain = true
  · obtain ⟨u, reply, hcalls, hresult, -, htried⟩ := handle_plain P s hplain ticket
    rw [hresult]
    exact hcalls.polite.trans (Mild.of_tried htried).polite
  · cases request with
    | delete => exact delete_polite P s (.inr h)
    | restart =>
      refine restart_polite P s ticket ?_
      rw [← funext Waiter.isDelete_or_isRestart]
      exact h
    | wait =>
      rcases wait_cases P s ticket with ⟨-, hresult⟩ | ⟨-, hresult⟩ <;> rw [hresult]
      · exact (Mild.of_tried rfl).polite
      · exact (park_mild P s _).polite
    | _ => exact absurd rfl hplain

variable {P s}

/-- What is refused when the loop turns to an occasion: nothing, but for an excluded request. -/
theorem serve_polite {occasion : Occasion}
    (h : ∀ ticket request, occasion = .request ticket request →
      request.excluded s.waiters = false) : Polite s (s.serve P occasion) := by
  cases occasion with
  | request ticket request =>
    exact handle_polite P { s with queue := s.queue.tail } (h ticket request rfl) ticket
  | detached =>
    unfold serve onDetached
    dsimp only
    split
    · exact delete_polite P { s with detached := true } (.inl rfl)
    · exact .of_trace_eq rfl
  | cancelled | relaunch | exitCheck | tick => exact (serve_mild P s rfl).polite

/-- Somebody is parked who excludes the request. -/
theorem parked_of_excluded {request : Request} (h : request.excluded s.waiters = true) :
    s.waiters ≠ [] := by
  intro hnobody
  rw [hnobody] at h
  cases request <;> cases h

/-- Whoever is parked stays so while the exit check is set anew. -/
theorem rearm_of_parked (h : s.waiters ≠ []) :
    s.rearm = { s with exitCheck := some (s.now + exitPollInterval) } := by
  unfold rearm
  rw [if_neg (by simpa using h)]

/-- **The turn of an excluded request**, as a whole. -/
theorem turn_of_excluded {ticket : Ticket} {request : Request}
    (due : s.due? = some (.request ticket request))
    (excluded : request.excluded s.waiters = true) : s.turn P = { s with
      queue := s.queue.tail
      exitCheck := some (s.now + exitPollInterval)
      trace := .answered ticket (.error (.busy s.spec.name)) :: s.trace } := by
  have hserve : s.serve P (.request ticket request) =
      { s with queue := s.queue.tail }.refuseBusy ticket :=
    handle_excluded P { s with queue := s.queue.tail } excluded
  rw [turn_eq due, hserve]
  exact rearm_of_parked (parked_of_excluded excluded)

/-- **The loss of the last handle beside a parked delete**, as a whole. -/
theorem turn_of_detached (due : s.due? = some .detached)
    (parked : s.waiters.any Waiter.isDelete = true) : s.turn P = { s with
      detached := true
      exitCheck := some (s.now + exitPollInterval) } := by
  have hserve : s.serve P .detached = { s with detached := true } := by
    unfold serve onDetached
    dsimp only
    split
    · exact if_pos parked
    · rfl
  have hsomebody : s.waiters ≠ [] := by
    intro hnobody
    rw [hnobody] at parked
    cases parked
  rw [turn_eq due, hserve]
  exact rearm_of_parked hsomebody

variable (P) (s)

/-- **Who is refused** because another request is parked: the excluded, as they are served, and
nobody else. -/
theorem made_busy_iff (input : Input σ) (ticket : Ticket) (name : String) :
    Made (.answered ticket (.error (.busy name))) s (step P s input) ↔
      input = .turn ∧ name = s.spec.name ∧ ∃ request,
        s.due? = some (.request ticket request) ∧ request.excluded s.waiters = true := by
  have hnever {t : Supervisor σ} (h : Polite s t) :
      ¬ Made (.answered ticket (.error (.busy name))) s t := by
    intro hmade
    cases h.of_made hmade
  constructor
  · intro hmade
    by_cases hturn : input = .turn
    · subst hturn
      rw [step] at hmade
      cases hdue : s.due? with
      | none =>
        rw [turn_of_idle hdue] at hmade
        exact absurd hmade (not_made_of_trace_eq rfl)
      | some occasion =>
        by_cases hexcluded : ∃ other request, occasion = .request other request ∧
            request.excluded s.waiters = true
        · obtain ⟨other, request, rfl, hexcluded⟩ := hexcluded
          have hadds : Adds (· = .answered other (.error (.busy s.spec.name))) s (s.turn P) :=
            .cons (congrArg Supervisor.trace (turn_of_excluded hdue hexcluded)) rfl
          obtain ⟨rfl, hname⟩ := Event.answered.inj (hadds.of_made hmade)
          exact ⟨rfl, Error.busy.inj (Except.error.inj hname), request, rfl, hexcluded⟩
        · have hpolite : Polite s (s.serve P occasion) := by
            refine serve_polite fun other request hrequest => ?_
            by_contra hnot
            exact hexcluded ⟨other, request, hrequest, by simpa using hnot⟩
          rw [turn_eq hdue] at hmade
          exact absurd hmade (hnever hpolite)
    · exact absurd hmade (hnever (step_mild hturn).polite)
  · rintro ⟨rfl, rfl, request, due, excluded⟩
    rw [step, turn_of_excluded due excluded]
    exact .of_cons rfl

/-- What holds of `s` as to the stops that are parked and asked for. -/
structure Exclusive : Prop where
  /-- At most one delete and one restart is parked. -/
  one : OneStop s.waiters
  /-- No restart is parked behind a delete. -/
  order : Ordered s.waiters
  /-- An excluded request is refused as it is served, and nobody else is refused so. -/
  refused : ∀ input ticket name,
    Made (.answered ticket (.error (.busy name))) s (step P s input) ↔
      input = .turn ∧ name = s.spec.name ∧ ∃ request,
        s.due? = some (.request ticket request) ∧ request.excluded s.waiters = true
  /-- The refusal changes nothing: it takes the request off the queue, answers it, and sets the exit
  check anew, as every turn does. -/
  unchanged : ∀ ticket request, s.due? = some (.request ticket request) →
    request.excluded s.waiters = true → s.turn P = { s with
      queue := s.queue.tail
      exitCheck := some (s.now + exitPollInterval)
      trace := .answered ticket (.error (.busy s.spec.name)) :: s.trace }
  /-- Nor does the loss of the last handle, which asks for a delete of its own. -/
  detached : s.due? = some .detached → s.waiters.any Waiter.isDelete = true →
    s.turn P = { s with detached := true, exitCheck := some (s.now + exitPollInterval) }

/-- **One stop at a time**, in every reachable state. -/
theorem stop_exclusion (P : Platform σ) (spec : Spec) (system : σ) (sink : Option Sink)
    (inputs : List (Input σ)) : Exclusive P (reached P spec system sink inputs) where
  one := (requests_reached P spec system sink inputs).1
  order := by
    refine @run_invariant σ P _ (fun u => Ordered u.waiters) inputs ?_ fun u hu input _ =>
      hu.step input
    rw [supervise_waiters]
    exact .nil
  refused := made_busy_iff P _
  unchanged _ _ := turn_of_excluded
  detached := turn_of_detached

/-- The second of two deletes is refused, and the first stays parked. -/
example :
    let s := reached ScriptedProcess.platform (ScriptedProcess.spec .infinite)
      { script := { ignored := [.term] } } none [.send 0 .delete, .send 1 .delete, .turn, .turn]
    s.trace.head? = some (.answered 1 (.error (.busy "mock"))) ∧ s.waiters = [.delete (some 0)] :=
  ⟨rfl, rfl⟩

end Supervisor

end Overseer
