import Overseer.Proofs.Supervisor.Accounting
import Overseer.Proofs.Supervisor.Finality

/-!
# The loss of the last handle

Once the last handle is gone the loop serves the requests that are still queued, and then deals with
the loss, once.  If the process is to be terminated with its handles it is deleted, and otherwise
nothing is done.

* `due?_eq_detached` -- when the loop deals with the loss;
* `run_served` -- requests are served in the order in which they were sent, and the queue holds the
  rest; `run_detached` -- the loss is dealt with once at most;
* `ahead` -- what the loop deals with before; `turn_ahead`, `run_ahead` -- so it comes to the loss;
* `handle_loss` -- what is done about the loss, in every run.
-/

namespace Overseer

namespace Supervisor

variable {σ : Type} {P : Platform σ} {s : Supervisor σ}

/-- The request that is served. -/
def Occasion.request? : Occasion → Option (Ticket × Request)
  | request ticket asked => some (ticket, asked)
  | _ => none

/-- The request that is sent. -/
def Input.request? : Input σ → Option (Ticket × Request)
  | send ticket request => some (ticket, request)
  | _ => none

/-- The loop takes a turn. -/
def Input.isTurn : Input σ → Bool
  | turn => true
  | _ => false

/-- The requests that are sent in a run, in their order. -/
def sentRequests (inputs : List (Input σ)) : List (Ticket × Request) :=
  inputs.filterMap Input.request?

/-- The requests among the occasions that a run deals with, in their order. -/
def servedRequests (occasions : List Occasion) : List (Ticket × Request) :=
  occasions.filterMap Occasion.request?

/-- **The loop deals with the loss of the last handle** when no relaunch is scheduled and nobody is
queued. -/
theorem due?_eq_detached : s.due? = some .detached ↔
    s.running = true ∧ s.cancelled = false ∧ s.watchdog.pending = false ∧ s.detached = false ∧
      s.handles = false ∧ s.queue = [] := by
  constructor
  · intro h
    obtain ⟨hrunning, hdue⟩ := due_of_eq h
    cases hdue with
    | detached going free attached lost nobody =>
      exact ⟨hrunning, going, free, attached, lost, nobody⟩
  · rintro ⟨hrunning, hcancelled, hfree, hdetached, hhandles, hqueue⟩
    simp [due?, hrunning, hcancelled, hfree, hdetached, hhandles, hqueue]

/-! ## In order -/

theorem served_turn : served P s [.turn] = s.due?.toList := List.append_nil _

theorem served_of_outside {input : Input σ} (h : input ≠ .turn) : served P s [input] = [] := by
  cases input with
  | turn => exact absurd rfl h
  | _ => rfl

/-- What a turn takes off the queue is what it serves. -/
theorem turn_served (h : (s.turn P).running = true) :
    servedRequests s.due?.toList ++ (s.turn P).queue = s.queue := by
  cases hdue : s.due? with
  | none => rw [turn_of_idle hdue]; rfl
  | some occasion =>
    have hend : occasion ≠ .cancelled := by
      rintro rfl
      have hturn : s.turn P = s.finish.rearm := turn_eq hdue
      rw [hturn, finish_stopped] at h
      cases h
    rw [turn_queue hdue hend]
    cases occasion with
    | request ticket request => exact (queue_of_due hdue).symm
    | _ => rfl

theorem sentRequests_concat (inputs : List (Input σ)) (input : Input σ) :
    sentRequests (inputs ++ [input]) = sentRequests inputs ++ input.request?.toList := by
  unfold sentRequests
  rw [List.filterMap_append, List.filterMap_cons]
  cases input.request? <;> rfl

/-- What is sent to a loop that goes on is queued behind the others. -/
theorem step_sent {input : Input σ} (hturn : input ≠ .turn) (hrunning : s.running = true) :
    (step P s input).queue = s.queue ++ input.request?.toList := by
  cases input with
  | turn => exact absurd rfl hturn
  | send ticket request => rw [step, send_of_running hrunning]; rfl
  | _ => exact (List.append_nil _).symm

/-- **Requests are served in the order in which they were sent**, and the queue holds the rest. -/
theorem run_served {inputs : List (Input σ)} (h : (run P s inputs).running = true) :
    servedRequests (served P s inputs) ++ (run P s inputs).queue =
      s.queue ++ sentRequests inputs := by
  induction inputs using List.reverseRecOn with
  | nil => exact (List.append_nil _).symm
  | append_singleton inputs input ih =>
    rw [run_concat] at h ⊢
    have hrunning := running_of_step h
    have hserved : servedRequests (served P s (inputs ++ [input])) =
        servedRequests (served P s inputs) ++
          servedRequests (served P (run P s inputs) [input]) := by
      rw [served_append]
      exact List.filterMap_append
    rw [sentRequests_concat, hserved, ← List.append_assoc, ← ih hrunning]
    by_cases hturn : input = .turn
    · subst hturn
      rw [served_turn, List.append_assoc, step, turn_served h]
      exact (List.append_nil _).symm
    · rw [served_of_outside hturn, step_sent hturn hrunning, List.append_assoc, List.append_assoc]
      rfl

/-! ## Once -/

/-- That the loss has been dealt with changes when the loop deals with it, and then for good. -/
theorem step_detached (input : Input σ) :
    (served P s [input]).count .detached + s.detached.toNat =
      (step P s input).detached.toNat := by
  by_cases hturn : input = .turn
  · subst hturn
    rw [served_turn, step]
    cases hdue : s.due? with
    | none => rw [turn_of_idle hdue]; exact Nat.zero_add _
    | some occasion =>
      have hkept : (s.serve P occasion).detached = (s.opened occasion).detached := by
        by_cases hend : occasion = .cancelled
        · subst hend
          rw [serve, finish_eq]
          rfl
        · rw [serve_frame P s hend]
      have hturn : (s.turn P).detached = (s.opened occasion).detached := by
        rw [turn_eq hdue]
        exact hkept
      rw [hturn]
      cases occasion with
      | detached =>
        rw [(due?_eq_detached.mp hdue).2.2.2.1]
        rfl
      | _ => exact Nat.zero_add _
  · rw [served_of_outside hturn, step_frame P s hturn]
    exact Nat.zero_add _

/-- What has been dealt with stays so. -/
theorem detached_stays (h : s.detached = true) (input : Input σ) :
    (step P s input).detached = true := by
  have hstep := step_detached (P := P) (s := s) input
  rw [h] at hstep
  by_contra hnot
  rw [Bool.eq_false_iff.mpr hnot] at hstep
  cases hstep

/-- **The loss is dealt with once at most.** -/
theorem run_detached (inputs : List (Input σ)) :
    (served P s inputs).count .detached + s.detached.toNat =
      (run P s inputs).detached.toNat := by
  induction inputs using List.reverseRecOn with
  | nil => exact Nat.zero_add _
  | append_singleton inputs input ih =>
    have hlast := step_detached (P := P) (s := run P s inputs) input
    rw [run_concat, served_append, List.count_append]
    omega

/-! ## In the end -/

/-- How many turns the loop takes before it deals with the loss of the last handle. -/
def ahead (s : Supervisor σ) : Nat := s.queue.length + s.watchdog.pending.toNat

/-- Without a tick no relaunch is scheduled. -/
theorem serve_pending {occasion : Occasion} (hend : occasion ≠ .cancelled)
    (htick : occasion ≠ .tick) :
    (s.serve P occasion).watchdog.pending.toNat ≤ s.watchdog.pending.toNat := by
  have hopened : (s.opened occasion).watchdog = s.watchdog := by cases occasion <;> rfl
  rcases (serve_handles P s hend htick).watchdog with h | h
  · exact Nat.le_of_eq (by rw [h, hopened])
  · rw [h, pending_takeRestart]
    exact Nat.zero_le _

/-- **Every turn comes closer to the loss**, or deals with it. -/
theorem turn_ahead (hrunning : s.running = true) (hcancelled : s.cancelled = false)
    (hhandles : s.handles = false) (hdetached : s.detached = false) :
    (s.turn P).running = true ∧
      ((s.turn P).detached = true ∨ (s.turn P).ahead + 1 ≤ s.ahead) := by
  cases hpending : s.watchdog.pending with
  | true =>
    -- The relaunch goes first, and without a tick no other one is scheduled.
    have hdue := due?_eq_relaunch.mpr ⟨hrunning, hcancelled, hpending⟩
    have hdone : (s.turn P).watchdog.pending = false := by
      rw [turn_eq hdue]
      exact (relaunch_launches (P := P) hpending).2.1
    refine ⟨turn_running hdue (by simp), .inr ?_⟩
    unfold ahead
    rw [turn_queue hdue (by simp), hdone, hpending]
    exact Nat.le_refl _
  | false =>
    cases hqueue : s.queue with
    | nil =>
      have hdue := due?_eq_detached.mpr
        ⟨hrunning, hcancelled, hpending, hdetached, hhandles, hqueue⟩
      have hdealt : (s.serve P .detached).detached = true := by
        rw [serve_frame P s (by simp)]
        rfl
      refine ⟨turn_running hdue (by simp), .inl ?_⟩
      rw [turn_eq hdue]
      exact hdealt
    | cons first rest =>
      obtain ⟨ticket, request⟩ := first
      have hdue : s.due? = some (.request ticket request) := by
        simp [due?, hrunning, hcancelled, hpending, hdetached, hqueue]
      have hfree : (s.turn P).watchdog.pending.toNat ≤ s.watchdog.pending.toNat := by
        rw [turn_eq hdue]
        exact serve_pending (by simp) (by simp)
      have hleft : (s.turn P).queue = rest := by
        rw [turn_queue hdue (by simp)]
        exact congrArg List.tail hqueue
      refine ⟨turn_running hdue (by simp), .inr ?_⟩
      unfold ahead
      rw [hleft, hqueue, List.length_cons]
      omega

variable (P) in
/-- **The loop comes to the loss of the last handle**, unless the token fires: it takes no more turns
before than there are requests, and one for a relaunch. -/
theorem run_ahead (hrunning : s.running = true) (hhandles : s.handles = false)
    (more : List (Input σ)) :
    (run P s more).detached = true ∨ (run P s more).cancelled = true ∨
      (run P s more).running = true ∧ (run P s more).handles = false ∧
        (run P s more).ahead + more.countP Input.isTurn ≤
          s.ahead + (sentRequests more).length := by
  induction more using List.reverseRecOn with
  | nil => exact .inr (.inr ⟨hrunning, hhandles, Nat.le_refl _⟩)
  | append_singleton more input ih =>
    rw [run_concat]
    generalize run P s more = u at ih
    by_cases hdetached : u.detached = true
    · exact .inl (detached_stays hdetached input)
    · by_cases hcancelled : u.cancelled = true
      · exact .inr (.inl (step_of_cancelled P hcancelled input).1)
      · obtain ⟨hgoing, hgone, hbound⟩ := (ih.resolve_left hdetached).resolve_left hcancelled
        have hstill := (step_lasting P u input).2 hgone
        rw [sentRequests_concat, List.length_append, List.countP_append]
        by_cases hturn : input = .turn
        · subst hturn
          have hone : [Input.turn (σ := σ)].countP Input.isTurn = 1 := rfl
          obtain ⟨hon, hdone | hcloser⟩ := turn_ahead (P := P) hgoing
            (by simpa using hcancelled) hgone (by simpa using hdetached)
          · exact .inl hdone
          · refine .inr (.inr ⟨hon, hstill, ?_⟩)
            rw [hone, step]
            omega
        · have hnone : [input].countP Input.isTurn = 0 := by
            cases input with
            | turn => exact absurd rfl hturn
            | _ => rfl
          have hwatchdog : (step P u input).watchdog = u.watchdog := by rw [step_frame P u hturn]
          have hkept : (step P u input).ahead = u.ahead + input.request?.toList.length := by
            unfold ahead
            rw [step_sent hturn hgoing, hwatchdog, List.length_append]
            omega
          refine .inr (.inr ⟨by rw [step_frame P u hturn]; exact hgoing, hstill, ?_⟩)
          rw [hnone, hkept]
          omega

/-! ## What is done about it -/

/-- The loss of the last handle begins a deletion when the process is to be terminated with it. -/
theorem turn_detached_deleting (hdue : s.due? = some .detached)
    (hterminate : s.spec.autoTerminate = true) : Deleting (s.turn P) := by
  have hserve : s.serve P .detached = { s with detached := true }.delete P none := if_pos hterminate
  rw [turn_eq hdue, hserve]
  exact delete_begins (P := P) (s := { s with detached := true }) none

/-- Otherwise it is noted, and that is all. -/
theorem turn_detached_eq (hdue : s.due? = some .detached)
    (hterminate : s.spec.autoTerminate = false) :
    s.turn P = { s with detached := true }.rearm := by
  have hserve : s.serve P .detached = { s with detached := true } :=
    if_neg (by simp [hterminate])
  rw [turn_eq hdue, hserve]

variable (P) in
/-- How a supervisor in `s` deals with the loss of the last handle, when it has dealt with
`occasions` and `sent` was sent to it so far. -/
structure DealsWithLoss (spec : Spec) (occasions : List Occasion)
    (sent : List (Ticket × Request)) (s : Supervisor σ) : Prop where
  /-- The loop deals with it once at most. -/
  once : occasions.count .detached ≤ 1
  /-- When it does, all requests that were sent have been served, in their order. -/
  last : s.due? = some .detached → s.queue = [] ∧ servedRequests occasions = sent
  /-- It comes to it, unless the token fires: only the requests that are queued, or are sent
  meanwhile, and one relaunch go before. -/
  arrives : s.running = true → s.handles = false → ∀ more,
    s.queue.length + (sentRequests more).length + 1 < more.countP Input.isTurn →
      (run P s more).detached = true ∨ (run P s more).cancelled = true
  /-- If the process is to be terminated, from then on the token has fired or a delete is parked,
  whatever happens; and what settles that delete fires the token. -/
  terminates : s.due? = some .detached → spec.autoTerminate = true → ∀ more,
    ((run P (s.turn P) more).waiters.any Waiter.isDelete = true ∨
      (run P (s.turn P) more).cancelled = true) ∧
    ∀ ticket input, .delete ticket ∈ (run P (s.turn P) more).waiters →
      .delete ticket ∉ (step P (run P (s.turn P) more) input).waiters →
        (step P (run P (s.turn P) more) input).cancelled = true
  /-- If not, nothing is called and nothing is changed: the loop goes round. -/
  stays : s.due? = some .detached → spec.autoTerminate = false →
    s.turn P = { s with
      detached := true
      exitCheck := if s.waiters.isEmpty then none else some (s.now + exitPollInterval) }

/-- **The loss of the last handle**, in every run. -/
theorem handle_loss (P : Platform σ) (spec : Spec) (system : σ) (sink : Option Sink)
    (inputs : List (Input σ)) :
    DealsWithLoss P spec (served P (supervise P spec system sink).2 inputs) (sentRequests inputs)
      (reached P spec system sink inputs) := by
  have hspec := reached_spec P spec system sink inputs
  have hdetached : (served P (supervise P spec system sink).2 inputs).count .detached +
      (supervise P spec system sink).2.detached.toNat =
        (reached P spec system sink inputs).detached.toNat := run_detached inputs
  have hserved : (reached P spec system sink inputs).running = true →
      servedRequests (served P (supervise P spec system sink).2 inputs) ++
          (reached P spec system sink inputs).queue =
        (supervise P spec system sink).2.queue ++ sentRequests inputs := run_served
  have hempty : (supervise P spec system sink).2.queue = [] := by
    have hlaunch : ((new spec system sink).launch P).2.queue = [] := by
      rw [launch_keeps P (new spec system sink)]
      rfl
    refine @supervise_invariant σ P (fun u => u.queue = []) spec system sink hlaunch hlaunch ?_
    intro u _
    rw [finish_eq]
  rw [hempty, List.nil_append] at hserved
  generalize reached P spec system sink inputs = s at *
  refine ⟨?_, ?_, ?_, ?_, ?_⟩
  · have hbound := Bool.toNat_le s.detached
    omega
  · intro hdue
    have hqueue := (due?_eq_detached.mp hdue).2.2.2.2.2
    have hall := hserved (running_of_due hdue)
    rw [hqueue, List.append_nil] at hall
    exact ⟨hqueue, hall⟩
  · intro hrunning hhandles more hmore
    rcases run_ahead P hrunning hhandles more with h | h | ⟨-, -, hbound⟩
    · exact .inl h
    · exact .inr h
    · have hpending := Bool.toNat_le s.watchdog.pending
      unfold ahead at hbound
      omega
  · intro hdue hterminate more
    have hdeleting : Deleting (run P (s.turn P) more) :=
      run_invariant (turn_detached_deleting hdue (hspec ▸ hterminate)) fun u hu input _ =>
        hu.step input
    exact ⟨hdeleting, fun ticket input => cancelled_of_settled⟩
  · intro hdue hterminate
    exact turn_detached_eq hdue (hspec ▸ hterminate)

/-- A request is served, and then the loss of the last handle parks a delete, for the process does
not end when it is asked to. -/
example :
    let s := reached ScriptedProcess.platform
      { ScriptedProcess.spec .never with autoTerminate := true }
      { script := { ignored := [.term] } } none [.send 0 .wait, .loseHandles, .turn, .turn]
    (s.waiters, s.detached, s.cancelled) = ([.wait 0, .delete none], true, false) := by
  decide

end Supervisor

end Overseer
