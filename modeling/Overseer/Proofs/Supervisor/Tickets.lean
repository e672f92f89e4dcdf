import Overseer.Proofs.Supervisor.Answers

/-!
# Tickets of one kind of request

A ticket under which nothing but one kind of request is sent stays a ticket of that kind, while its
requests are queued and while they are parked.

* `Dedicated` -- the ticket is of the kind;
* `Dedicated.audience` -- whoever may be answered under it asked for nothing else;
* `Dedicated.step`, `Dedicated.of_reached` -- every input leaves it so;
* `Unparked` -- nobody is parked under it either; `Unparked.step` -- every input leaves a ticket of
  plain requests so;
* `Unparked.served` -- it is told that all went well when its request is served, and not later.
-/

namespace Overseer

theorem Request.caller_ticket? (ticket : Ticket) (request : Request) :
    (request.caller ticket).ticket? = some ticket := by
  cases request <;> rfl

namespace Supervisor

variable {σ : Type} {P : Platform σ} {s t : Supervisor σ} {kind : Request} {ticket : Ticket}

/-- The ticket is of a request of the kind, if it is of anything that is queued or parked. -/
structure Dedicated (kind : Request) (ticket : Ticket) (s : Supervisor σ) : Prop where
  queued : ∀ request, (ticket, request) ∈ s.queue → request = kind
  parked : ∀ waiter ∈ s.waiters, waiter.ticket? = some ticket → waiter = kind.caller ticket

namespace Dedicated

theorem of_nobody (hqueue : s.queue = []) (hwaiters : s.waiters = []) :
    Dedicated kind ticket s :=
  ⟨by simp [hqueue], by simp [hwaiters]⟩

/-- Whoever may be answered under the ticket asked for a request of the kind. -/
theorem audience (hs : Dedicated kind ticket s) {occasion : Occasion}
    (hdue : s.due? = some occasion) : ∀ waiter ∈ s.audience occasion,
    waiter.ticket? = some ticket → waiter = kind.caller ticket := by
  intro waiter hmem hticket
  cases occasion with
  | request other request =>
    rcases List.mem_append.mp hmem with h | h
    · exact hs.parked waiter h hticket
    · obtain rfl := List.mem_singleton.mp h
      obtain rfl := Option.some.inj ((Request.caller_ticket? other request).symm.trans hticket)
      rw [hs.queued request (by rw [queue_of_due hdue]; exact List.mem_cons_self)]
  | detached =>
    rcases List.mem_append.mp hmem with h | h
    · exact hs.parked waiter h hticket
    · rw [List.mem_singleton.mp h] at hticket
      cases hticket
  | cancelled | relaunch | exitCheck | tick => exact hs.parked waiter hmem hticket

theorem turn (hs : Dedicated kind ticket s) : Dedicated kind ticket (s.turn P) := by
  cases hdue : s.due? with
  | none => rwa [turn_of_idle hdue]
  | some occasion =>
    by_cases hend : occasion = .cancelled
    · subst hend
      obtain ⟨hwaiters, hqueue⟩ := finish_left (s := s)
      have hturn : s.turn P = s.finish.rearm := turn_eq hdue
      rw [hturn]
      exact of_nobody hqueue hwaiters
    · obtain ⟨t, hturn, hconcludes⟩ := turn_concludes P hdue hend
      have hparked : (s.turn P).waiters ⊆ s.audience occasion := by
        rw [hturn]
        exact hconcludes.parked
      refine ⟨?_, fun waiter hmem => hs.audience hdue waiter (hparked hmem)⟩
      intro request hmem
      rw [turn_queue hdue hend] at hmem
      cases occasion with
      | request other served => exact hs.queued request (List.mem_of_mem_tail hmem)
      | _ => exact hs.queued request hmem

/-- **The loop leaves it so**, and so does everybody who sends nothing else under the ticket. -/
theorem step (hs : Dedicated kind ticket s) {input : Input σ}
    (hsent : ∀ request, input = .send ticket request → request = kind) :
    Dedicated kind ticket (step P s input) := by
  by_cases hturn : input = .turn
  · rw [hturn]
    exact hs.turn
  · refine ⟨?_, by rw [step_frame P s hturn]; exact hs.parked⟩
    cases input with
    | send other sent =>
      intro request hmem
      simp only [Supervisor.step, send] at hmem
      split at hmem
      · rcases List.mem_append.mp hmem with h | h
        · exact hs.queued request h
        · obtain ⟨rfl, rfl⟩ := Prod.mk.inj (List.mem_singleton.mp h)
          exact hsent request rfl
      · exact hs.queued request hmem
    | turn => exact absurd rfl hturn
    | _ => exact hs.queued

variable (P) in
/-- A run in which nothing else is sent under the ticket leaves it so. -/
theorem of_reached (spec : Spec) (system : σ) (sink : Option Sink) {inputs : List (Input σ)}
    (hsent : ∀ request, .send ticket request ∈ inputs → request = kind) :
    Dedicated kind ticket (reached P spec system sink inputs) := by
  refine run_invariant ?_ ?_
  · have hnew : Dedicated kind ticket ((new spec system sink).launch P).2 := by
      rw [launch_keeps P (new spec system sink)]
      exact of_nobody rfl rfl
    refine supervise_invariant hnew ⟨hnew.queued, hnew.parked⟩ ?_
    intro u _
    rw [finish_eq]
    exact of_nobody rfl rfl
  · intro u hu input hmem
    refine hu.step ?_
    rintro request rfl
    exact hsent request hmem

end Dedicated

/-! ## Requests that are never parked -/

/-- Whoever is told that all went well may be answered in the turn. -/
theorem audience_of_ok {occasion : Occasion} {reply : Reply} (hdue : s.due? = some occasion)
    (hend : occasion ≠ .cancelled) (made : Made (.answered ticket (.ok reply)) s (s.turn P)) :
    ∃ waiter ∈ s.audience occasion, waiter.ticket? = some ticket := by
  have hordinary (h : Ordinary (s.audience occasion) (.answered ticket (.ok reply))) :
      ∃ waiter ∈ s.audience occasion, waiter.ticket? = some ticket := by
    rcases h with h | _ | ⟨hwait | hrestart, -⟩
    · cases h
    · exact ⟨_, hwait, rfl⟩
    · exact ⟨_, hrestart, rfl⟩
  obtain ⟨t, hturn, hconcludes⟩ := turn_concludes P hdue hend
  rw [hturn] at made
  have hmade : Made (.answered ticket (.ok reply)) s t := made
  cases hconcludes with
  | ordinary _ done => exact hordinary (done.of_made hmade)
  | @ended asked u result _ wanted before _ finished =>
    have hlast := finishDelete_adds (s := u) asked result
    rw [← finished] at hlast
    have hall := (before.mono fun _ he => Or.inl he).trans (hlast.mono fun _ he => Or.inr he)
    rcases hall.of_made hmade with (h | ⟨other, name, -, h⟩) | ⟨deleter, rfl, h⟩
    · exact hordinary h
    · cases h
    · obtain ⟨rfl, -⟩ := Event.answered.inj h
      exact ⟨_, wanted, rfl⟩

/-- Whatever is queued under the ticket is a request of the kind, and nobody is parked under it. -/
structure Unparked (kind : Request) (ticket : Ticket) (s : Supervisor σ) : Prop where
  queued : ∀ request, (ticket, request) ∈ s.queue → request = kind
  nobody : ∀ waiter ∈ s.waiters, waiter.ticket? ≠ some ticket

namespace Unparked

theorem dedicated (hs : Unparked kind ticket s) : Dedicated kind ticket s :=
  ⟨hs.queued, fun waiter hmem hticket => absurd hticket (hs.nobody waiter hmem)⟩

/-- Whoever may be answered under the ticket is being served. -/
theorem audience (hs : Unparked kind ticket s) {occasion : Occasion}
    (hdue : s.due? = some occasion) {waiter : Waiter} (hmem : waiter ∈ s.audience occasion)
    (hticket : waiter.ticket? = some ticket) : occasion = .request ticket kind := by
  cases occasion with
  | request other request =>
    rcases List.mem_append.mp hmem with h | h
    · exact absurd hticket (hs.nobody waiter h)
    · obtain rfl := List.mem_singleton.mp h
      obtain rfl := Option.some.inj ((Request.caller_ticket? other request).symm.trans hticket)
      rw [hs.queued request (by rw [queue_of_due hdue]; exact List.mem_cons_self)]
  | detached =>
    rcases List.mem_append.mp hmem with h | h
    · exact absurd hticket (hs.nobody waiter h)
    · rw [List.mem_singleton.mp h] at hticket
      cases hticket
  | cancelled | relaunch | exitCheck | tick => exact absurd hticket (hs.nobody waiter hmem)

theorem turn (plain : kind.isPlain = true) (hs : Unparked kind ticket s) :
    Unparked kind ticket (s.turn P) := by
  refine ⟨(hs.dedicated.turn (P := P)).queued, fun waiter hmem hticket => ?_⟩
  cases hdue : s.due? with
  | none =>
    rw [turn_of_idle hdue] at hmem
    exact hs.nobody waiter hmem hticket
  | some occasion =>
    by_cases hend : occasion = .cancelled
    · subst hend
      have hturn : s.turn P = s.finish.rearm := turn_eq hdue
      rw [hturn, finish_left.1] at hmem
      cases hmem
    · obtain ⟨t, hturn, hconcludes⟩ := turn_concludes P hdue hend
      have hparked : (s.turn P).waiters ⊆ s.audience occasion := by
        rw [hturn]
        exact hconcludes.parked
      obtain rfl := hs.audience hdue (hparked hmem) hticket
      -- A plain request parks nobody.
      obtain ⟨u, reply, hcalls, hresult, -⟩ :=
        handle_plain P { s with queue := s.queue.tail } plain ticket
      have hserve : s.serve P (.request ticket kind) = u.answer ticket reply := hresult
      have hwaiters : (s.turn P).waiters = s.waiters := by
        rw [turn_eq hdue, hserve]
        exact hcalls.keeps.waiters
      rw [hwaiters] at hmem
      exact hs.nobody waiter hmem hticket

/-- **Every input leaves a ticket of plain requests so**, if nothing else is sent under it. -/
theorem step (plain : kind.isPlain = true) (hs : Unparked kind ticket s) {input : Input σ}
    (hsent : ∀ request, input = .send ticket request → request = kind) :
    Unparked kind ticket (step P s input) := by
  refine ⟨(hs.dedicated.step (P := P) hsent).queued, ?_⟩
  by_cases hturn : input = .turn
  · rw [hturn]
    exact (hs.turn plain).nobody
  · rw [step_frame P s hturn]
    exact hs.nobody

/-- **The ticket is told that all went well when its request is served.** -/
theorem served (hs : Unparked kind ticket s) {input : Input σ} {reply : Reply}
    (made : Made (.answered ticket (.ok reply)) s (Supervisor.step P s input)) :
    input = .turn ∧ s.due? = some (.request ticket kind) := by
  by_cases hturn : input = .turn
  · subst hturn
    refine ⟨rfl, ?_⟩
    cases hdue : s.due? with
    | none =>
      rw [Supervisor.step, turn_of_idle hdue] at made
      exact absurd made (not_made_of_trace_eq rfl)
    | some occasion =>
      have hend : occasion ≠ .cancelled := by
        rintro rfl
        have hresult : Supervisor.step P s .turn = s.finish.rearm := turn_eq hdue
        rw [hresult] at made
        obtain ⟨other, h⟩ := finish_adds.of_made (t := s.finish) made
        cases h
      obtain ⟨waiter, hmem, hticket⟩ := audience_of_ok hdue hend made
      rw [hs.audience hdue hmem hticket]
  · obtain ⟨other, h⟩ := (step_adds P s hturn).of_made made
    cases h

end Unparked

end Supervisor

end Overseer
