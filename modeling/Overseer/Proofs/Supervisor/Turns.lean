import Overseer.Proofs.Supervisor.Requests
import Overseer.Proofs.Supervisor.Ticks

/-!
# Turns of the loop, and runs

* `serve_handles` -- every occasion but a tick and the end of the loop does what a handler may do;
* `Due`, `due_of_eq` -- what tells that an occasion is due; `turn_eq` -- a turn deals with the
  occasion that is; `turn_turns` -- the ways in which a turn goes;
* `step_frame`, `step_adds` -- what happens from outside touches nothing of the loop's own;
* `reached` -- the reachable states; `run_invariant` -- what one input preserves, a run preserves;
* `finish_eq`, `supervise_waiters` -- the end of the loop, and its beginning.
-/

namespace Overseer

namespace Supervisor

variable {σ : Type} {P : Platform σ} {s t u : Supervisor σ}

/-! ## Turns -/

/-- The loop has turned to an occasion: the request is off the queue, the loss of the handles is
noted, the tick after this one is set. -/
def opened (s : Supervisor σ) : Occasion → Supervisor σ
  | .request .. => { s with queue := s.queue.tail }
  | .detached => { s with detached := true }
  | .tick => { s with nextTick := s.followingTick }
  | _ => s

variable (P s) in
/-- Every occasion but a tick and the end of the loop does what a handler may do. -/
theorem serve_handles {occasion : Occasion} (hend : occasion ≠ .cancelled)
    (htick : occasion ≠ .tick) : Handles (s.opened occasion) (s.serve P occasion) := by
  cases occasion with
  | cancelled => exact absurd rfl hend
  | relaunch => exact relaunch_handles P s
  | request ticket request => exact handle_handles P _ ticket request
  | detached => exact onDetached_handles P s
  | exitCheck => exact (checkWaiters_route P s).handles
  | tick => exact absurd rfl htick

variable (P s) in
/-- **An occasion but the end of the loop** leaves alone the requests, the clock and whatever tells
whether the loop goes on, but for the turning to it. -/
theorem serve_frame {occasion : Occasion} (hend : occasion ≠ .cancelled) :
    s.serve P occasion = { s.opened occasion with
      system := (s.serve P occasion).system
      startTime := (s.serve P occasion).startTime
      watchdog := (s.serve P occasion).watchdog
      sink := (s.serve P occasion).sink
      cancelled := (s.serve P occasion).cancelled
      waiters := (s.serve P occasion).waiters
      trace := (s.serve P occasion).trace } := by
  by_cases htick : occasion = .tick
  · subst htick
    exact onTick_frame P (s.opened .tick)
  · have hframe := (serve_handles P s hend htick).frame
    rw [hframe]

theorem turn_eq {occasion : Occasion} (h : s.due? = some occasion) :
    s.turn P = (s.serve P occasion).rearm := by
  unfold turn
  rw [h]

theorem turn_of_idle (h : s.due? = none) : s.turn P = s := by
  unfold turn
  rw [h]

/-- What tells that an occasion is due: nothing that goes before it is, and it has come. -/
inductive Due (s : Supervisor σ) : Occasion → Prop where
  | cancelled (fired : s.cancelled = true) : Due s .cancelled
  | relaunch (going : s.cancelled = false) (pending : s.watchdog.pending = true) : Due s .relaunch
  | request {ticket : Ticket} {request : Request} {rest : List (Ticket × Request)}
      (going : s.cancelled = false) (free : s.watchdog.pending = false)
      (attached : s.detached = false) (queued : s.queue = (ticket, request) :: rest) :
      Due s (.request ticket request)
  | detached (going : s.cancelled = false) (free : s.watchdog.pending = false)
      (attached : s.detached = false) (lost : s.handles = false) (nobody : s.queue = []) :
      Due s .detached
  | exitCheck {check : Moment} (going : s.cancelled = false) (free : s.watchdog.pending = false)
      (unasked : s.detached = true ∨ s.handles = true ∧ s.queue = [])
      (armed : s.exitCheck = some check) (come : check ≤ s.now) : Due s .exitCheck
  | tick (going : s.cancelled = false) (free : s.watchdog.pending = false)
      (unasked : s.detached = true ∨ s.handles = true ∧ s.queue = [])
      (come : s.nextTick ≤ s.now) : Due s .tick

/-- **What the loop turns to is due**, and the loop is running. -/
theorem due_of_eq {occasion : Occasion} (h : s.due? = some occasion) :
    s.running = true ∧ Due s occasion := by
  unfold due? at h
  split at h
  · cases h
  · next hrunning =>
    refine ⟨by simpa using hrunning, ?_⟩
    split at h
    · next hfired =>
      cases h
      exact .cancelled hfired
    · next hgoing =>
      rw [Bool.not_eq_true] at hgoing
      split at h
      · next hpending =>
        cases h
        exact .relaunch hgoing hpending
      · next hfree =>
        rw [Bool.not_eq_true] at hfree
        split at h
        · next hattached hqueue =>
          cases h
          exact .request hgoing hfree hattached hqueue
        · next hnone =>
          have hempty (hattached : s.detached = false) : s.queue = [] := by
            cases hqueue : s.queue with
            | nil => rfl
            | cons first rest => exact absurd hqueue (hnone first.1 first.2 rest hattached)
          split at h
          · next hlost =>
            simp only [Bool.and_eq_true, Bool.not_eq_true'] at hlost
            cases h
            exact .detached hgoing hfree hlost.1 hlost.2 (hempty hlost.1)
          · next hkept =>
            have hunasked : s.detached = true ∨ s.handles = true ∧ s.queue = [] := by
              cases hattached : s.detached with
              | true => exact .inl rfl
              | false => exact .inr ⟨by simpa [hattached] using hkept, hempty hattached⟩
            split at h
            · next hcheck =>
              obtain ⟨check, harmed, hcome⟩ := (Option.any_eq_true _ _).mp hcheck
              cases h
              exact .exitCheck hgoing hfree hunasked harmed (by simpa using hcome)
            · split at h
              · next hcome =>
                cases h
                exact .tick hgoing hfree hunasked hcome
              · cases h

theorem running_of_due {occasion : Occasion} (h : s.due? = some occasion) : s.running = true :=
  (due_of_eq h).1

theorem not_cancelled_of_due {occasion : Occasion} (h : s.due? = some occasion)
    (hend : occasion ≠ .cancelled) : s.cancelled = false := by
  cases (due_of_eq h).2 with
  | cancelled => exact absurd rfl hend
  | _ => assumption

theorem not_pending_of_due {occasion : Occasion} (h : s.due? = some occasion)
    (hend : occasion ≠ .cancelled) (hrelaunch : occasion ≠ .relaunch) :
    s.watchdog.pending = false := by
  cases (due_of_eq h).2 with
  | cancelled => exact absurd rfl hend
  | relaunch => exact absurd rfl hrelaunch
  | _ => assumption

/-- Only its end stops the loop. -/
theorem turn_running {occasion : Occasion} (h : s.due? = some occasion)
    (hend : occasion ≠ .cancelled) : (s.turn P).running = true := by
  have hserve : (s.serve P occasion).running = s.running := by
    rw [serve_frame P s hend]
    cases occasion <;> rfl
  rw [turn_eq h, ← running_of_due h, ← hserve]
  rfl

/-- A turn takes the request that it serves off the queue, and no other. -/
theorem turn_queue {occasion : Occasion} (h : s.due? = some occasion)
    (hend : occasion ≠ .cancelled) : (s.turn P).queue = (s.opened occasion).queue := by
  have hserve : (s.serve P occasion).queue = (s.opened occasion).queue := by
    rw [serve_frame P s hend]
  rw [turn_eq h]
  exact hserve

/-- The request that is served is the oldest of the queue. -/
theorem queue_of_due {ticket : Ticket} {request : Request}
    (h : s.due? = some (.request ticket request)) :
    s.queue = (ticket, request) :: s.queue.tail := by
  obtain ⟨-, hdue⟩ := due_of_eq h
  cases hdue with
  | request _ _ _ queued => rw [queued, List.tail_cons]

/-- A supervision that is cancelled ends, if it has not ended. -/
theorem due?_of_cancelled (h : s.cancelled = true) :
    s.due? = if s.running then some .cancelled else none := by
  cases hrunning : s.running <;> simp [due?, hrunning, h]

/-- The loop ends for no other reason. -/
theorem cancelled_of_due (h : s.due? = some .cancelled) : s.cancelled = true := by
  obtain ⟨-, hdue⟩ := due_of_eq h
  cases hdue with
  | cancelled fired => exact fired

/-- **The relaunch goes before everything but the end of the loop.** -/
theorem due?_eq_relaunch : s.due? = some .relaunch ↔
    s.running = true ∧ s.cancelled = false ∧ s.watchdog.pending = true := by
  constructor
  · intro h
    obtain ⟨hrunning, hdue⟩ := due_of_eq h
    cases hdue with
    | relaunch going pending => exact ⟨hrunning, going, pending⟩
  · rintro ⟨hrunning, hcancelled, hpending⟩
    simp [due?, hrunning, hcancelled, hpending]

variable (P s) in
/-- The four ways in which a turn goes from `s` to `t`. -/
inductive Turns (t : Supervisor σ) : Prop where
  /-- Nothing is due. -/
  | idle (due : s.due? = none) (result : t = s)
  /-- The loop ends. -/
  | ended (due : s.due? = some .cancelled) (result : t = s.finish.rearm)
  | ticked (due : s.due? = some .tick) (result : t = ((s.opened .tick).onTick P).rearm)
  /-- Something else is dealt with. -/
  | handled {occasion : Occasion} {u : Supervisor σ} (due : s.due? = some occasion)
      (going : occasion ≠ .cancelled) (handles : Handles (s.opened occasion) u)
      (result : t = u.rearm)

variable (P s) in
theorem turn_turns : Turns P s (s.turn P) := by
  cases hdue : s.due? with
  | none => exact .idle hdue (turn_of_idle hdue)
  | some occasion =>
    have hturn := turn_eq (P := P) hdue
    by_cases hend : occasion = .cancelled
    · subst hend
      exact .ended hdue hturn
    · by_cases htick : occasion = .tick
      · subst htick
        exact .ticked hdue hturn
      · exact .handled hdue hend (serve_handles P s hend htick) hturn

/-- What a tick observes and finds held. -/
theorem opened_observe : ((s.opened .tick).observe P).1 = (s.observe P).1 ∧
    ((s.opened .tick).noted P).pid P = (s.observe P).2.pid P := by
  obtain ⟨hstatus, hsystem⟩ := observe_congr (P := P) (s := s) (t := s.opened .tick) rfl
  refine ⟨hstatus, ?_⟩
  rw [noted_frame]
  exact congrArg P.pid hsystem

/-! ## Inputs from outside -/

/-- What is sent is queued or answered, and that is all. -/
theorem send_frame (ticket : Ticket) (request : Request) : s.send ticket request = { s with
    queue := (s.send ticket request).queue
    trace := (s.send ticket request).trace } := by
  unfold send
  split <;> rfl

variable (P s) in
/-- What happens from outside touches nothing that the loop keeps for itself. -/
theorem step_frame {input : Input σ} (h : input ≠ .turn) : step P s input = { s with
    system := (step P s input).system
    sink := (step P s input).sink
    cancelled := (step P s input).cancelled
    queue := (step P s input).queue
    handles := (step P s input).handles
    now := (step P s input).now
    trace := (step P s input).trace } := by
  cases input with
  | turn => exact absurd rfl h
  | send ticket request =>
    unfold step send
    dsimp only
    split <;> rfl
  | _ => rfl

variable (P s) in
/-- From outside a request is at most told that the supervisor has ended. -/
theorem step_adds {input : Input σ} (h : input ≠ .turn) :
    Adds (fun e => ∃ ticket, e = .answered ticket (.error (.gone s.spec.name)))
      s (step P s input) := by
  cases input with
  | turn => exact absurd rfl h
  | send ticket request =>
    unfold step send
    dsimp only
    split
    · exact .of_trace_eq rfl
    · exact .cons rfl ⟨ticket, rfl⟩
  | _ => exact .of_trace_eq rfl

variable (P s) in
theorem step_cancelled {input : Input σ} (hturn : input ≠ .turn) (hcancel : input ≠ .cancel) :
    (step P s input).cancelled = s.cancelled := by
  cases input with
  | turn => exact absurd rfl hturn
  | cancel => exact absurd rfl hcancel
  | send ticket request => rw [step, send_frame]
  | _ => rfl

/-- A loop that goes on queues what is sent. -/
theorem send_of_running (h : s.running = true) (ticket : Ticket) (request : Request) :
    s.send ticket request = { s with queue := s.queue ++ [(ticket, request)] } := if_pos h

/-- From outside a loop that goes on is made to tell nobody anything. -/
theorem step_unheard {input : Input σ} (hturn : input ≠ .turn) (hrunning : s.running = true) :
    (step P s input).trace = s.trace := by
  cases input with
  | turn => exact absurd rfl hturn
  | send ticket request => rw [step, send_of_running hrunning]
  | _ => rfl

/-! ## Runs -/

theorem run_append (inputs more : List (Input σ)) :
    run P s (inputs ++ more) = run P (run P s inputs) more :=
  List.foldl_append

theorem run_concat (inputs : List (Input σ)) (input : Input σ) :
    run P s (inputs ++ [input]) = step P (run P s inputs) input :=
  run_append inputs [input]

variable (P) in
/-- The supervisor after a launch and any number of inputs.  What is said of it is said of every
reachable state. -/
def reached (spec : Spec) (system : σ) (sink : Option Sink) (inputs : List (Input σ)) :
    Supervisor σ :=
  run P (supervise P spec system sink).2 inputs

theorem reached_concat (spec : Spec) (system : σ) (sink : Option Sink) (inputs : List (Input σ))
    (input : Input σ) : reached P spec system sink (inputs ++ [input]) =
      step P (reached P spec system sink inputs) input :=
  run_concat inputs input

/-- A split of a list is one at its last element, or one of the rest. -/
theorem concat_eq_split {α : Type} {xs before after : List α} {x y : α}
    (h : xs ++ [x] = before ++ y :: after) :
    (before = xs ∧ y = x ∧ after = []) ∨
      ∃ rest, after = rest ++ [x] ∧ xs = before ++ y :: rest := by
  cases after using List.reverseRecOn with
  | nil =>
    obtain ⟨rfl, hlast⟩ := List.append_inj' h rfl
    exact .inl ⟨rfl, (List.cons.inj hlast).1.symm, rfl⟩
  | append_singleton rest last =>
    rw [← List.cons_append, ← List.append_assoc] at h
    obtain ⟨hrest, hlast⟩ := List.append_inj' h rfl
    obtain rfl := (List.cons.inj hlast).1
    exact .inr ⟨rest, rfl, hrest⟩

/-- A split of a list is given by how many elements come first. -/
theorem split_at_index {α : Type} {xs before after : List α} {x : α}
    (h : xs = before ++ x :: after) :
    ∃ n < xs.length, before = xs.take n ∧ xs[n]? = some x := by
  subst h
  exact ⟨before.length, by simp, by simp, by simp⟩

/-- What every input preserves, a run preserves. -/
theorem run_invariant {inv : Supervisor σ → Prop} {inputs : List (Input σ)} (hstart : inv s)
    (hstep : ∀ u, inv u → ∀ input ∈ inputs, inv (step P u input)) : inv (run P s inputs) := by
  induction inputs generalizing s with
  | nil => exact hstart
  | cons input rest ih =>
    refine ih (hstep s hstart input List.mem_cons_self) ?_
    intro u hu later hlater
    exact hstep u hu later (List.mem_cons_of_mem input hlater)

/-! ## The end of the loop -/

/-- The tickets that the end of the loop leaves without an answer of their own. -/
def pendingTickets (s : Supervisor σ) : List Ticket :=
  s.waiters.filterMap Waiter.ticket? ++ s.queue.map (·.1)

/-- Everybody is told the same, for an answer does not change the specification. -/
theorem dismissAll_eq (tickets : List Ticket) (s : Supervisor σ) :
    tickets.foldl (fun u ticket => u.answer ticket (.error (.gone u.spec.name))) s =
      tickets.foldl (fun u ticket => u.answer ticket (.error (.gone s.spec.name))) s := by
  induction tickets generalizing s with
  | nil => rfl
  | cons ticket rest ih =>
    rw [List.foldl_cons, List.foldl_cons, ih]
    rfl

/-- The loop ends with everybody told that it has. -/
theorem finish_eq : s.finish = { s with
    running := false
    watchdog := (s.watchdog.step .cancel).2
    sink := s.sink.map Sink.hangUp
    exitCheck := none
    waiters := []
    queue := []
    trace := (s.pendingTickets.map (Event.answered · (.error (.gone s.spec.name)))).reverse
      ++ s.trace } := by
  have heq : s.finish =
      s.pendingTickets.foldl (fun u ticket => u.answer ticket (.error (.gone u.spec.name)))
        { s with
          running := false
          watchdog := (s.watchdog.step .cancel).2
          sink := s.sink.map Sink.hangUp
          exitCheck := none
          waiters := []
          queue := [] } := rfl
  rw [heq, dismissAll_eq, answerAll_eq]

/-- The loop does not go on. -/
theorem finish_stopped : s.finish.rearm.running = false := by
  show s.finish.running = false
  rw [finish_eq]

/-- Nobody is left waiting. -/
theorem finish_left : s.finish.rearm.waiters = [] ∧ s.finish.rearm.queue = [] := by
  have hkept : s.finish.rearm.waiters = s.finish.waiters ∧
      s.finish.rearm.queue = s.finish.queue := ⟨rfl, rfl⟩
  rw [hkept.1, hkept.2, finish_eq]
  exact ⟨rfl, rfl⟩

theorem finish_adds :
    Adds (fun e => ∃ ticket, e = .answered ticket (.error (.gone s.spec.name))) s s.finish :=
  ⟨_, congrArg Supervisor.trace finish_eq, fun _ he => eq_answered_of_mem he⟩

variable (P s) in
/-- **What has been done stays done.** -/
theorem step_suffix (input : Input σ) : s.trace <:+ (step P s input).trace := by
  by_cases hturn : input = .turn
  · subst hturn
    rw [step]
    cases turn_turns P s with
    | idle _ result => exact ⟨[], (congrArg Supervisor.trace result).symm⟩
    | ended _ result => rw [result]; exact finish_adds.suffix
    | ticked _ result => rw [result]; exact onTick_suffix P (s.opened .tick)
    | @handled occasion _ _ _ handles result =>
      have hopened : (s.opened occasion).trace = s.trace := by cases occasion <;> rfl
      rw [result, ← hopened]
      exact handles.adds.suffix
  · exact (step_adds P s hturn).suffix

variable (P s) in
/-- Nothing changes the specification, nor brings the handles back. -/
theorem step_lasting (input : Input σ) : (step P s input).spec = s.spec ∧
    (s.handles = false → (step P s input).handles = false) := by
  by_cases hturn : input = .turn
  · subst hturn
    rw [step]
    cases hdue : s.due? with
    | none => rw [turn_of_idle hdue]; exact ⟨rfl, id⟩
    | some occasion =>
      have hkept : (s.serve P occasion).spec = s.spec ∧
          (s.serve P occasion).handles = s.handles := by
        by_cases hend : occasion = .cancelled
        · subst hend
          rw [serve, finish_eq]
          exact ⟨rfl, rfl⟩
        · rw [serve_frame P s hend]
          cases occasion <;> exact ⟨rfl, rfl⟩
      rw [turn_eq hdue]
      exact ⟨hkept.1, fun h => hkept.2.trans h⟩
  · refine ⟨by rw [step_frame P s hturn], fun h => ?_⟩
    cases input with
    | turn => exact absurd rfl hturn
    | loseHandles => rfl
    | send ticket request =>
      rw [step, send_frame]
      exact h
    | _ => exact h

/-- A loop that goes on after an input went on before. -/
theorem running_of_step {input : Input σ} (h : (step P s input).running = true) :
    s.running = true := by
  by_cases hturn : input = .turn
  · subst hturn
    cases hdue : s.due? with
    | none => rwa [step, turn_of_idle hdue] at h
    | some occasion => exact running_of_due hdue
  · rwa [step_frame P s hturn] at h

/-! ## The beginning -/

/-- What the first launch establishes holds at the beginning of a run, if the loop may begin and
end with it. -/
theorem supervise_invariant {inv : Supervisor σ → Prop} {spec : Spec} {system : σ}
    {sink : Option Sink} (hlaunch : inv ((new spec system sink).launch P).2)
    (hbegun : inv { ((new spec system sink).launch P).2 with
      running := true
      nextTick := ((new spec system sink).launch P).2.now +
        ((new spec system sink).launch P).2.period })
    (hfinish : ∀ u, inv u → inv u.finish) : inv (supervise P spec system sink).2 := by
  unfold supervise
  split
  · next pid u h =>
    rw [h] at hbegun
    unfold begin
    dsimp only
    split
    · exact hfinish _ hbegun
    · exact hbegun
  · next e u h => rwa [h] at hlaunch

variable (P) in
/-- A supervisor keeps the specification that it was given. -/
theorem reached_spec (spec : Spec) (system : σ) (sink : Option Sink) (inputs : List (Input σ)) :
    (reached P spec system sink inputs).spec = spec := by
  have hlaunch := (launch_keeps P (new spec system sink)).spec
  refine run_invariant ?_ fun u hu input _ => (step_lasting P u input).1.trans hu
  refine @supervise_invariant σ P (fun u => u.spec = spec) spec system sink hlaunch hlaunch ?_
  intro u hu
  rw [finish_eq]
  exact hu

variable (P) in
/-- The first launch parks nobody. -/
theorem supervise_waiters (spec : Spec) (system : σ) (sink : Option Sink) :
    (supervise P spec system sink).2.waiters = [] := by
  have hlaunch := (launch_keeps P (new spec system sink)).waiters
  refine @supervise_invariant σ P (fun u => u.waiters = []) spec system sink hlaunch hlaunch ?_
  intro u _
  rw [finish_eq]

end Supervisor

end Overseer
