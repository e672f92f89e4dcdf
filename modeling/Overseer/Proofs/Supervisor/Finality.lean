import Overseer.Proofs.Supervisor.Tickets
import Overseer.ScriptedProcess

/-!
# A delete is final

The answer to a delete is the last thing that a supervisor does: it comes when the supervision is
cancelled already, and the end of the loop goes before everything else.

* `step_of_cancelled`, `run_of_cancelled` -- what a supervision that is cancelled still does;
* `OnlyDelete` -- a ticket is that of a delete; `OnlyDelete.step` -- the loop leaves it so;
* `Final` -- the answer to a delete, and what comes after it; `delete_final` -- so is every answer
  that a supervisor gives to a delete while it goes on, but for the refusal beside another delete.
-/

namespace Overseer

/-- The answer is that another request is in the way. -/
def Answer.isBusy : Answer → Bool
  | .error (.busy _) => true
  | _ => false

namespace Supervisor

variable {σ : Type} {P : Platform σ} {s t u : Supervisor σ}

/-! ## After the cancellation -/

/-- From `s` to `t` callers were told that the supervisor has ended, and that is all. -/
def Dismisses (s t : Supervisor σ) : Prop :=
  Adds (fun e => ∃ ticket name, e = .answered ticket (.error (.gone name))) s t

variable (P) in
/-- A supervision that is cancelled stays so, tells callers that it has ended, and keeps the
budget. -/
theorem step_of_cancelled (h : s.cancelled = true) (input : Input σ) :
    (step P s input).cancelled = true ∧ Dismisses s (step P s input) ∧
      (step P s input).watchdog.budget = s.watchdog.budget := by
  by_cases hturn : input = .turn
  · subst hturn
    have hdue := due?_of_cancelled h
    cases hrunning : s.running with
    | false =>
      rw [hrunning] at hdue
      rw [step, turn_of_idle hdue]
      exact ⟨h, .of_trace_eq rfl, rfl⟩
    | true =>
      rw [hrunning] at hdue
      rw [step, turn_eq hdue]
      refine ⟨?_, finish_adds.mono ?_, ?_⟩
      · show s.finish.cancelled = true
        rw [finish_eq]
        exact h
      · rintro _ ⟨ticket, rfl⟩
        exact ⟨ticket, _, rfl⟩
      · show s.finish.watchdog.budget = s.watchdog.budget
        rw [finish_eq, Watchdog.step_cancel]
  · refine ⟨?_, (step_adds P s hturn).mono ?_, ?_⟩
    · by_cases hcancel : input = .cancel
      · rw [hcancel]
        rfl
      · rwa [step_cancelled P s hturn hcancel]
    · rintro _ ⟨ticket, rfl⟩
      exact ⟨ticket, _, rfl⟩
    · rw [step_frame P s hturn]

variable (P) in
/-- **Whatever happens to it from then on.** -/
theorem run_of_cancelled (h : s.cancelled = true) (inputs : List (Input σ)) :
    (run P s inputs).cancelled = true ∧ Dismisses s (run P s inputs) ∧
      (run P s inputs).watchdog.budget = s.watchdog.budget := by
  refine @run_invariant σ P s (fun u => u.cancelled = true ∧ Dismisses s u ∧
    u.watchdog.budget = s.watchdog.budget) inputs ⟨h, .of_trace_eq rfl, rfl⟩ ?_
  rintro u ⟨hcancelled, hdismisses, hbudget⟩ input -
  obtain ⟨hcancelled', hdismisses', hbudget'⟩ := step_of_cancelled P hcancelled input
  exact ⟨hcancelled', hdismisses.trans hdismisses', hbudget'.trans hbudget⟩

/-! ## Tickets of deletes -/

/-- The ticket is of a delete, if it is of anything that is queued or parked. -/
structure OnlyDelete (ticket : Ticket) (s : Supervisor σ) : Prop where
  queued : ∀ request, (ticket, request) ∈ s.queue → request = .delete
  parked : .wait ticket ∉ s.waiters ∧ .restart ticket ∉ s.waiters

namespace OnlyDelete

variable {ticket : Ticket}

theorem iff_dedicated : OnlyDelete ticket s ↔ Dedicated .delete ticket s := by
  constructor
  · rintro ⟨queued, hwait, hrestart⟩
    refine ⟨queued, fun waiter hmem hticket => ?_⟩
    cases waiter with
    | wait other =>
      obtain rfl := Option.some.inj hticket
      exact absurd hmem hwait
    | restart other =>
      obtain rfl := Option.some.inj hticket
      exact absurd hmem hrestart
    | delete other => exact congrArg Waiter.delete hticket
  · rintro ⟨queued, parked⟩
    refine ⟨queued, fun hmem => ?_, fun hmem => ?_⟩
    · cases parked (.wait ticket) hmem rfl
    · cases parked (.restart ticket) hmem rfl

/-- Whoever may be answered under the ticket wants a deletion. -/
theorem audience (hs : OnlyDelete ticket s) {occasion : Occasion} (hdue : s.due? = some occasion) :
    .wait ticket ∉ s.audience occasion ∧ .restart ticket ∉ s.audience occasion := by
  have hcaller := (iff_dedicated.mp hs).audience hdue
  constructor <;> intro hmem <;> cases hcaller _ hmem rfl

/-- **Every input leaves it so**, if nothing but deletes is sent under the ticket. -/
theorem step (hs : OnlyDelete ticket s) {input : Input σ}
    (hsent : ∀ request, input = .send ticket request → request = .delete) :
    OnlyDelete ticket (step P s input) :=
  iff_dedicated.mpr ((iff_dedicated.mp hs).step hsent)

variable (P) in
/-- A run in which nothing but deletes is sent under the ticket leaves it so. -/
theorem of_reached (spec : Spec) (system : σ) (sink : Option Sink) {inputs : List (Input σ)}
    (hsent : ∀ request, .send ticket request ∈ inputs → request = .delete) :
    OnlyDelete ticket (reached P spec system sink inputs) :=
  iff_dedicated.mpr (.of_reached P spec system sink hsent)

end OnlyDelete

/-! ## The answer -/

variable (P) in
/-- The turn from `s` ends with the answer to a delete, when `earlier` had been done.  The
supervision is cancelled by then, the answer has its grounds, and whatever happens later, nothing is
done any more, but that callers are told that the supervisor has ended. -/
structure Final (s : Supervisor σ) (ticket : Ticket) (answer : Answer) (earlier : List Event) :
    Prop where
  answered : ∃ u result, u.cancelled = true ∧ u.trace = earlier ∧
    s.turn P = (u.answer ticket answer).rearm ∧
    answer = result.map (fun () => .done) ∧ Grounds P s u result
  later : ∀ more, ∃ dismissals,
    (run P (s.turn P) more).trace = dismissals ++ .answered ticket answer :: earlier ∧
      (∀ e ∈ dismissals, ∃ other name, e = .answered other (.error (.gone name))) ∧
      (run P (s.turn P) more).watchdog.budget = (s.turn P).watchdog.budget ∧
      (run P (s.turn P) more).cancelled = true

/-- A caller who wants a deletion is answered as the last thing of the turn. -/
theorem turn_answers_delete {ticket : Ticket} {answer : Answer} {later earlier : List Event}
    (hs : OnlyDelete ticket s) (going : s.due? ≠ some .cancelled)
    (answered : (s.turn P).trace = later ++ .answered ticket answer :: earlier)
    (now : s.trace <:+ earlier) (notBusy : answer.isBusy = false) :
    ∃ u result, u.cancelled = true ∧ u.trace = earlier ∧
      s.turn P = (u.answer ticket answer).rearm ∧
      answer = result.map (fun () => .done) ∧ Grounds P s u result := by
  have hmade : Made (.answered ticket answer) s (s.turn P) := ⟨later, earlier, answered, now⟩
  cases hdue : s.due? with
  | none =>
    rw [turn_of_idle hdue] at hmade
    exact absurd hmade (not_made_of_trace_eq rfl)
  | some occasion =>
    have hend : occasion ≠ .cancelled := fun h => going (h ▸ hdue)
    obtain ⟨hwait, hrestart⟩ := hs.audience hdue
    have hordinary : ¬ Ordinary (s.audience occasion) (.answered ticket answer) := by
      rintro (h | _ | ⟨caller, -⟩)
      · cases h
      · cases notBusy
      · exact caller.elim hwait hrestart
    have hsuperseded : ¬ Superseded s (.answered ticket answer) := by
      rintro ⟨other, name, hmem, h⟩
      obtain ⟨rfl, -⟩ := Event.answered.inj h
      exact hs.parked.2 hmem
    obtain ⟨t, hturn, hconcludes⟩ := turn_concludes P hdue hend
    have hkept : (s.turn P).trace = t.trace := by rw [hturn]; rfl
    rw [hkept] at answered
    cases hconcludes with
    | ordinary _ done => exact absurd (done.of_made ⟨later, earlier, answered, now⟩) hordinary
    | @ended asked u result _ _ before grounds finished =>
      have hbefore : ¬ Made (.answered ticket answer) s u := by
        intro h
        exact (before.of_made h).elim hordinary hsuperseded
      cases asked with
      | none =>
        have hsame : t.trace = u.trace := by rw [finished]; rfl
        exact absurd ⟨later, earlier, hsame ▸ answered, now⟩ hbefore
      | some asked =>
        have hlast : t.trace = .answered asked (result.map fun () => .done) :: u.trace := by
          rw [finished]
          rfl
        rw [hlast] at answered
        cases later with
        | nil =>
          obtain ⟨hevent, hearlier⟩ := List.cons.inj answered
          obtain ⟨rfl, rfl⟩ := Event.answered.inj hevent
          refine ⟨{ u with cancelled := true }, result, rfl, hearlier, ?_, rfl, ?_⟩
          · rw [hturn, finished]
            rfl
          · exact grounds.of_eq rfl rfl
        | cons head rest =>
          exact absurd ⟨rest, earlier, (List.cons.inj answered).2, now⟩ hbefore

/-- **A delete is final.**  Whatever a supervisor that goes on answers to a delete, but for the
refusal beside another delete, it answers when the supervision is cancelled, as the last thing that
it does; and it answers that all went well only when an exit status was collected, the probe found
no process, none is held, or the process was killed and let go of. -/
theorem delete_final (P : Platform σ) (spec : Spec) (system : σ) (sink : Option Sink)
    {inputs : List (Input σ)} {ticket : Ticket} {answer : Answer} {later earlier : List Event}
    (asked : ∀ request, .send ticket request ∈ inputs → request = .delete)
    (going : (reached P spec system sink inputs).due? ≠ some .cancelled)
    (answered : ((reached P spec system sink inputs).turn P).trace =
      later ++ .answered ticket answer :: earlier)
    (now : (reached P spec system sink inputs).trace <:+ earlier)
    (notBusy : answer.isBusy = false) :
    Final P (reached P spec system sink inputs) ticket answer earlier := by
  have hs := OnlyDelete.of_reached P spec system sink asked
  have hlast := turn_answers_delete hs going answered now notBusy
  refine ⟨hlast, ?_⟩
  intro more
  obtain ⟨u, result, hcancelled, hearlier, hturn, -, -⟩ := hlast
  have hended : ((reached P spec system sink inputs).turn P).cancelled = true := by
    rw [hturn]
    exact hcancelled
  have htrace : ((reached P spec system sink inputs).turn P).trace =
      .answered ticket answer :: earlier := by
    rw [hturn, ← hearlier]
    rfl
  obtain ⟨hstill, ⟨dismissals, hrun, hgone⟩, hbudget⟩ := run_of_cancelled P hended more
  exact ⟨dismissals, by rw [hrun, htrace], hgone, hbudget, hstill⟩

/-- A process that cannot be asked to end is deleted. -/
def unstoppable : Supervisor ScriptedProcess :=
  reached ScriptedProcess.platform (ScriptedProcess.spec .infinite)
    { script := { failSignals := [(.term, .eperm)] } } none [.send 0 .delete]

/-- It is killed and let go of, and the delete is final. -/
theorem unstoppable_deleted : Final ScriptedProcess.platform unstoppable 0 (.ok .done)
    (.released (.ok ()) :: .signalled .kill (.ok ()) :: .signalled .term (.error .eperm) ::
      unstoppable.trace) := by
  have htrace : (unstoppable.turn ScriptedProcess.platform).trace =
      [] ++ .answered 0 (.ok .done) :: .released (.ok ()) :: .signalled .kill (.ok ()) ::
        .signalled .term (.error .eperm) :: unstoppable.trace := rfl
  have hnow : unstoppable.trace <:+ .released (.ok ()) :: .signalled .kill (.ok ()) ::
      .signalled .term (.error .eperm) :: unstoppable.trace :=
    ⟨[_, _, _], rfl⟩
  exact delete_final _ _ _ _ (by simp) (by decide) htrace hnow rfl

end Supervisor

end Overseer
