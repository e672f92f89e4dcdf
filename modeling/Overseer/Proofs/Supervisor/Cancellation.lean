import Overseer.Proofs.Supervisor.Conservation
import Overseer.Proofs.Supervisor.HandleLoss
import Overseer.Proofs.Supervisor.Notices

/-!
# Cancellation

Once the cancellation token has fired, whoever fired it, the loop has one more turn, in which it
ends.  The process is left alone, whatever was due.

* `Sink.receive_closed` -- a receiver gets what is queued and then finds the sink closed;
* `changed` -- the surroundings, as they change on their own; `step_leaves` -- a cancelled
  supervision does not call them; `run_again` -- cancelling it again changes nothing;
* `served_of_cancelled` -- what the loop still deals with; `run_waiting`, `run_ended` -- what is done
  before its last turn, and from then on;
* `Hung` -- a loop that has ended has let go of its sink; `run_sink` -- what the receiver gets;
* `cancellation_terminal` -- all this, at every moment at which the token has fired.
-/

namespace Overseer

/-- **Who fetches enough gets all that is queued**, and then finds the sink closed, if the supervisor
has let go of it. -/
theorem Sink.receive_closed {k : Sink} {max : Nat} (hreceiver : k.receiver = true)
    (hsender : k.sender = false) (hmax : k.queued.length < max) :
    (k.receive max).1 = k.queued.map .status ++ [.closed] := by
  obtain ⟨capacity, queued, receiver, sender⟩ := k
  obtain rfl : receiver = true := hreceiver
  obtain rfl : sender = false := hsender
  induction queued generalizing max with
  | nil =>
    obtain ⟨n, rfl⟩ := Nat.exists_eq_add_of_lt hmax
    simp [receive]
  | cons status rest ih =>
    cases max with
    | zero => cases hmax
    | succ max =>
      have hrest := ih (Nat.lt_of_succ_lt_succ hmax)
      simp only [receive, List.map_cons, List.cons_append]
      exact congrArg _ hrest

namespace Supervisor

variable {σ : Type} {P : Platform σ} {s : Supervisor σ}

/-- The token fires. -/
def Input.isCancel : Input σ → Bool
  | cancel => true
  | _ => false

/-- The surroundings after a run in which nobody called them. -/
def changed (inputs : List (Input σ)) (system : σ) : σ :=
  inputs.foldl (fun system input =>
    match input with
    | .world change => change system
    | _ => system) system

/-! ## One input -/

/-- The last turn of a loop, or no turn at all. -/
theorem turn_of_cancelled (h : s.cancelled = true) :
    s.turn P = if s.running then s.finish.rearm else s := by
  have hdue := due?_of_cancelled h
  cases hrunning : s.running with
  | true =>
    rw [hrunning] at hdue
    exact turn_eq hdue
  | false =>
    rw [hrunning] at hdue
    exact turn_of_idle hdue

/-- **A cancelled supervision leaves the process alone**, and its watchdog as it is. -/
theorem step_leaves (h : s.cancelled = true) (input : Input σ) :
    (step P s input).system = changed [input] s.system ∧
      (step P s input).startTime = s.startTime ∧
      (step P s input).watchdog =
        { s.watchdog with cancelled := (step P s input).watchdog.cancelled } := by
  by_cases hturn : input = .turn
  · subst hturn
    rw [step, turn_of_cancelled h]
    split
    · have hkept : s.finish.rearm.system = s.finish.system ∧
          s.finish.rearm.startTime = s.finish.startTime ∧
          s.finish.rearm.watchdog = s.finish.watchdog := ⟨rfl, rfl, rfl⟩
      rw [hkept.1, hkept.2.1, hkept.2.2, finish_eq, Watchdog.step_cancel]
      exact ⟨rfl, rfl, rfl⟩
    · exact ⟨rfl, rfl, rfl⟩
  · refine ⟨?_, by rw [step_frame P s hturn], by rw [step_frame P s hturn]⟩
    cases input with
    | turn => exact absurd rfl hturn
    | send ticket request =>
      rw [step, send_frame]
      rfl
    | _ => rfl

/-- **Firing the token again changes nothing.** -/
theorem cancel_of_cancelled (h : s.cancelled = true) : s.cancel = s := by
  cases s
  subst h
  rfl

/-! ## Any number of inputs -/

/-- **Firing the token again changes nothing**, whenever it is done. -/
theorem run_again (h : s.cancelled = true) (more : List (Input σ)) :
    run P s more = run P s (more.filter (!·.isCancel)) := by
  induction more generalizing s with
  | nil => rfl
  | cons input rest ih =>
    have hrest := ih (step_of_cancelled P h input).1
    cases input with
    | cancel => exact hrest.trans (by rw [step, cancel_of_cancelled h]; rfl)
    | _ => exact hrest

/-- **The loop deals with nothing but its end**, and with that in its next turn. -/
theorem served_of_cancelled (h : s.cancelled = true) (more : List (Input σ)) :
    served P s more = if s.running && more.any Input.isTurn then [.cancelled] else [] := by
  induction more generalizing s with
  | nil => rw [List.any_nil, Bool.and_false]; rfl
  | cons input rest ih =>
    have hrest := ih (step_of_cancelled P h input).1
    have hserved : served P s (input :: rest) =
        served P s [input] ++ served P (step P s input) rest := served_append P [input] rest
    rw [hserved, hrest]
    by_cases hturn : input = .turn
    · subst hturn
      have hstopped : (s.turn P).running = false := by
        rw [turn_of_cancelled h]
        split
        · exact finish_stopped
        · next hrunning => exact Bool.eq_false_iff.mpr hrunning
      rw [served_turn, step, hstopped, due?_of_cancelled h]
      cases s.running <;> rfl
    · have hnone : input.isTurn = false := by
        cases input with
        | turn => exact absurd rfl hturn
        | _ => rfl
      have hrunning : (step P s input).running = s.running := by rw [step_frame P s hturn]
      rw [served_of_outside hturn, hrunning, List.any_cons, hnone, Bool.false_or]
      rfl

/-- What every input leaves alone a run leaves alone. -/
theorem run_leaves (h : s.cancelled = true) (more : List (Input σ)) :
    (run P s more).system = changed more s.system ∧
      (run P s more).startTime = s.startTime ∧
      (run P s more).watchdog =
        { s.watchdog with cancelled := (run P s more).watchdog.cancelled } := by
  induction more using List.reverseRecOn with
  | nil => exact ⟨rfl, rfl, rfl⟩
  | append_singleton more input ih =>
    obtain ⟨hsystem, hstart, hwatchdog⟩ := ih
    obtain ⟨hsystem', hstart', hwatchdog'⟩ :=
      step_leaves (P := P) (run_of_cancelled P h more).1 input
    have hchanged : changed (more ++ [input]) s.system =
        changed [input] (changed more s.system) := List.foldl_append
    rw [run_concat, hchanged, ← hsystem]
    refine ⟨hsystem', hstart'.trans hstart, ?_⟩
    rw [hwatchdog', hwatchdog]

/-- **Before its next turn** the loop does nothing: requests are queued. -/
theorem run_waiting (hrunning : s.running = true) {more : List (Input σ)}
    (hmore : more.any Input.isTurn = false) :
    (run P s more).running = true ∧ (run P s more).trace = s.trace ∧
      (run P s more).waiters = s.waiters ∧
      (run P s more).queue = s.queue ++ sentRequests more := by
  induction more using List.reverseRecOn with
  | nil => exact ⟨hrunning, rfl, rfl, (List.append_nil _).symm⟩
  | append_singleton more input ih =>
    rw [List.any_append, Bool.or_eq_false_iff] at hmore
    have hturn : input ≠ .turn := by
      rintro rfl
      cases hmore.2
    obtain ⟨hgoing, htrace, hwaiters, hqueue⟩ := ih hmore.1
    have hframe := step_frame P (run P s more) hturn
    rw [run_concat]
    refine ⟨by rw [hframe]; exact hgoing, (step_unheard hturn hgoing).trans htrace,
      by rw [hframe]; exact hwaiters, ?_⟩
    rw [step_sent hturn hgoing, hqueue, sentRequests_concat, List.append_assoc]

theorem sentRequests_tickets (inputs : List (Input σ)) :
    (sentRequests inputs).map Prod.fst = sentTickets inputs := by
  unfold sentRequests sentTickets
  rw [List.map_filterMap]
  congr 1
  funext input
  cases input <;> rfl

/-- **From its next turn on** everybody is told that the supervisor has ended, and that is all. -/
theorem run_ended (hs : Rested s) (h : s.cancelled = true) (hrunning : s.running = true)
    {before : List (Input σ)} (hbefore : before.any Input.isTurn = false)
    (after : List (Input σ)) :
    (run P s (before ++ .turn :: after)).running = false ∧
      Idle (run P s (before ++ .turn :: after)) ∧
      (run P s (before ++ .turn :: after)).trace =
        s.dismissals (sentTickets after) ++
          s.dismissals (s.pendingTickets ++ sentTickets before) ++ s.trace := by
  obtain ⟨hgoing, htrace, hwaiters, hqueue⟩ := run_waiting (P := P) hrunning hbefore
  have hcancelled := (run_of_cancelled P h before).1
  have hrested : Rested (run P s (before ++ .turn :: after)) :=
    run_invariant hs fun u hu input _ => hu.step input
  have hspec : (run P s before).spec = s.spec :=
    @run_invariant σ P s (fun u => u.spec = s.spec) before rfl fun u hu input _ =>
      (step_lasting P u input).1.trans hu
  have hpending : (run P s before).pendingTickets = s.pendingTickets ++ sentTickets before := by
    unfold pendingTickets
    rw [hwaiters, hqueue, List.map_append, sentRequests_tickets, List.append_assoc]
  have hstopped : (step P (run P s before) .turn).running = false := by
    rw [step, turn_of_cancelled hcancelled, if_pos hgoing]
    exact finish_stopped
  have hends := (step_ends hgoing hstopped).2
  have hspec' := (step_lasting P (run P s before) .turn).1
  have hsplit : run P s (before ++ .turn :: after) =
      run P (step P (run P s before) .turn) after := run_append before (.turn :: after)
  obtain ⟨hstill, -, hlater⟩ := run_of_stopped P hstopped after
  rw [← hsplit] at hstill hlater
  refine ⟨hstill, hrested hstill, ?_⟩
  rw [hlater, hends, htrace, hpending, List.append_assoc]
  unfold dismissals
  rw [hspec', hspec]

/-! ## The sink -/

/-- A loop that has ended has let go of its sink. -/
def Hung (s : Supervisor σ) : Prop :=
  s.running = false → ∀ k, s.sink = some k → k.sender = false

theorem Hung.finish : Hung s.finish := by
  intro _ k hk
  rw [finish_eq] at hk
  obtain ⟨first, -, rfl⟩ := Option.map_eq_some_iff.mp hk
  rfl

theorem receive_sender (k : Sink) (max : Nat) : (k.receive max).2.sender = k.sender := by
  cases hreceiver : k.receiver with
  | true => rw [(k.receive_eq max hreceiver).2]
  | false => rw [k.receive_of_gone max hreceiver]

theorem Hung.step (hs : Hung s) (input : Input σ) : Hung (step P s input) := by
  by_cases hturn : input = .turn
  · subst hturn
    rw [Supervisor.step]
    cases hdue : s.due? with
    | none => rwa [turn_of_idle hdue]
    | some occasion =>
      rw [turn_eq hdue]
      by_cases hend : occasion = .cancelled
      · subst hend
        exact Hung.finish (s := s)
      · intro hstopped
        rw [← turn_eq hdue, turn_running hdue hend] at hstopped
        cases hstopped
  · intro hstopped k hk
    have hbefore : s.running = false := by rwa [step_frame P s hturn] at hstopped
    cases input with
    | turn => exact absurd rfl hturn
    | send ticket request =>
      rw [Supervisor.step, send_frame] at hk
      exact hs hbefore k hk
    | receive max =>
      obtain ⟨first, hfirst, rfl⟩ := Option.map_eq_some_iff.mp hk
      exact (receive_sender first max).trans (hs hbefore first hfirst)
    | dropReceiver =>
      obtain ⟨first, hfirst, rfl⟩ := Option.map_eq_some_iff.mp hk
      exact hs hbefore first hfirst
    | _ => exact hs hbefore k hk

variable (P) in
theorem Hung.of_reached {spec : Spec} {system : σ} {sink : Option Sink} {pid : Pid}
    (launched : (supervise P spec system sink).1 = .ok pid) (inputs : List (Input σ)) :
    Hung (reached P spec system sink inputs) := by
  refine run_invariant ?_ fun u hu input _ => hu.step input
  unfold supervise at launched ⊢
  split at launched
  · next pid u h =>
    unfold begin
    dsimp only
    split
    · exact Hung.finish
    · intro hstopped
      cases hstopped
  · cases launched

/-- **The receiver of the sink** gets what was delivered before, and no more. -/
theorem run_sink (h : s.cancelled = true) {k : Sink} {more : List (Input σ)}
    (hk : s.sink = some k) (hreceiver : k.receiver = true)
    (hmore : more.any Input.isDeparture = false) :
    ∃ k', (run P s more).sink = some k' ∧ k'.receiver = true ∧
      fetched P s more ++ k'.queued = k.queued := by
  induction more using List.reverseRecOn with
  | nil => exact ⟨k, hk, hreceiver, rfl⟩
  | append_singleton more input ih =>
    rw [List.any_append, Bool.or_eq_false_iff] at hmore
    obtain ⟨k', hk', hthere, hqueued⟩ := ih hmore.1
    have hcancelled := (run_of_cancelled P h more).1
    rw [run_concat, fetched_concat]
    generalize run P s more = u at *
    cases input with
    | dropReceiver => cases hmore.2
    | receive max =>
      obtain ⟨hgot, hleft⟩ := k'.receive_eq max hthere
      have hfetches : u.fetches (.receive max) = k'.queued.take max := by
        rw [← hgot]
        simp [fetches, hk']
      have hsink : (step P u (.receive max)).sink = some (k'.receive max).2 :=
        congrArg (Option.map fun sink : Sink => (sink.receive max).2) hk'
      refine ⟨(k'.receive max).2, hsink, by rw [hleft]; exact hthere, ?_⟩
      rw [hfetches, hleft, List.append_assoc, List.take_append_drop, hqueued]
    | turn =>
      have hfetches : u.fetches .turn = [] := rfl
      rw [step, turn_of_cancelled hcancelled, hfetches, List.append_nil]
      split
      · refine ⟨k'.hangUp, ?_, hthere, hqueued⟩
        show u.finish.sink = some k'.hangUp
        rw [finish_eq]
        exact congrArg (Option.map Sink.hangUp) hk'
      · exact ⟨k', hk', hthere, hqueued⟩
    | send ticket request =>
      have hsink : (step P u (.send ticket request)).sink = u.sink := by rw [step, send_frame]
      exact ⟨k', hsink.trans hk', hthere, by simpa [fetches] using hqueued⟩
    | world _ | cancel | loseHandles | elapse _ =>
      exact ⟨k', hk', hthere, by simpa [fetches] using hqueued⟩

/-! ## Cancellation -/

variable (P) in
/-- What becomes of a supervisor in `s` when the token has fired. -/
structure Terminal (s : Supervisor σ) : Prop where
  /-- The token has fired for good. -/
  stays : ∀ more, (run P s more).cancelled = true
  /-- Firing it again changes nothing, whenever it is done. -/
  again : ∀ more, run P s more = run P s (more.filter (!·.isCancel))
  /-- Whatever is due, the loop deals with nothing but its end, and with that in its next turn. -/
  served : ∀ more, Supervisor.served P s more =
    if s.running && more.any Input.isTurn then [.cancelled] else []
  /-- The surroundings change on their own, and nobody calls them; a relaunch that is scheduled
  stays so. -/
  alone : ∀ more, (run P s more).system = changed more s.system ∧
    (run P s more).startTime = s.startTime ∧
    (run P s more).watchdog =
      { s.watchdog with cancelled := (run P s more).watchdog.cancelled }
  /-- Before its next turn the loop does nothing: requests are queued. -/
  waiting : s.running = true → ∀ more, more.any Input.isTurn = false →
    (run P s more).running = true ∧ (run P s more).trace = s.trace ∧
      (run P s more).waiters = s.waiters ∧
      (run P s more).queue = s.queue ++ sentRequests more
  /-- In that turn everybody who is parked or queued is told that the supervisor has ended, and so
  is whoever sends a request later.  Nothing else is done. -/
  ended : s.running = true → ∀ before after, before.any Input.isTurn = false →
    (run P s (before ++ .turn :: after)).running = false ∧
      Idle (run P s (before ++ .turn :: after)) ∧
      (run P s (before ++ .turn :: after)).trace =
        s.dismissals (sentTickets after) ++
          s.dismissals (s.pendingTickets ++ sentTickets before) ++ s.trace
  /-- If the loop had ended before, nobody is left waiting, and whoever sends a request is told so. -/
  past : s.running = false → ∀ more, (run P s more).running = false ∧ Idle (run P s more) ∧
    (run P s more).trace = s.dismissals (sentTickets more) ++ s.trace
  /-- The receiver of the sink gets what was delivered to it before, and no more; when the loop has
  ended it then finds the sink closed. -/
  closed : ∀ k more, s.sink = some k → k.receiver = true → more.any Input.isDeparture = false →
    ∃ k', (run P s more).sink = some k' ∧ fetched P s more ++ k'.queued = k.queued ∧
      ((run P s more).running = false → ∀ max, k'.queued.length < max →
        (k'.receive max).1 = k'.queued.map .status ++ [.closed])

/-- **Cancellation is terminal**, and leaves the process alone: in every run, and at every moment at
which the token has fired. -/
theorem cancellation_terminal (P : Platform σ) (spec : Spec) (system : σ) (sink : Option Sink)
    {pid : Pid} (launched : (supervise P spec system sink).1 = .ok pid)
    {inputs : List (Input σ)} (fired : (reached P spec system sink inputs).cancelled = true) :
    Terminal P (reached P spec system sink inputs) := by
  have hrested := Rested.of_reached P spec system sink inputs
  have hhung := Hung.of_reached P launched inputs
  generalize reached P spec system sink inputs = s at *
  refine ⟨fun more => (run_of_cancelled P fired more).1, run_again fired,
    served_of_cancelled fired, run_leaves fired, fun hrunning more => run_waiting hrunning,
    fun hrunning before after hbefore => run_ended hrested fired hrunning hbefore after, ?_, ?_⟩
  · intro hstopped more
    obtain ⟨hstill, -, htrace⟩ := run_of_stopped P hstopped more
    have hidle : Rested (run P s more) := run_invariant hrested fun u hu input _ => hu.step input
    exact ⟨hstill, hidle hstill, htrace⟩
  · intro k more hk hreceiver hmore
    obtain ⟨k', hk', hthere, hqueued⟩ := run_sink (P := P) fired hk hreceiver hmore
    have hlater : Hung (run P s more) := run_invariant hhung fun u hu input _ => hu.step input
    refine ⟨k', hk', hqueued, fun hstopped max hmax => ?_⟩
    exact Sink.receive_closed hthere (hlater hstopped k' hk') hmax

/-- A process is killed beside a caller who waits for its end, and the token fires when the relaunch
is scheduled and another request is queued. -/
def interrupted : Supervisor ScriptedProcess :=
  reached ScriptedProcess.platform (ScriptedProcess.spec .infinite) {} (some (.new 1))
    [.elapse 985, .send 0 .wait, .turn, .send 1 .kill, .turn, .elapse 15, .turn, .send 2 .pid,
      .cancel]

/-- Neither is the relaunch carried out, nor the request served. -/
theorem interrupted_terminal :
    (interrupted.running, interrupted.watchdog.pending) = (true, true) ∧
      (interrupted.waiters, interrupted.queue) = ([.wait 0], [(2, .pid)]) ∧
      Terminal ScriptedProcess.platform interrupted :=
  ⟨rfl, rfl, cancellation_terminal _ _ _ _ rfl rfl⟩

end Supervisor

end Overseer
