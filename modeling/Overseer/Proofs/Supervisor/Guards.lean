import Overseer.Proofs.Holding
import Overseer.Proofs.Supervisor.Exclusion
import Overseer.Proofs.Supervisor.Replies

/-!
# Requests that find no process, and requests that fail

A stop, a kill, a signal and a wait are refused when no process is held, and the refusal changes
nothing.  A stop, a kill or a signal that fails leaves behind it what it found, but for a process
that was killed and could not be let go of.

* `RestartsOnce.held` -- nobody else is told that no process is held; `made_unheld_iff` -- who is;
* `turn_of_unheld_delete` -- a delete that finds no process ends the supervision;
* `operation?` -- what is done to the held process; `Operates` -- what comes of it;
  `operation_operates` -- so it is with each of the operations;
* `Operated` -- the turn of such a request; `Guards` -- all of this in one state;
* `stops_guarded` -- in every reachable state.
-/

namespace Overseer

namespace Supervisor

variable {σ : Type} {P : Platform σ} {s t : Supervisor σ} {callers : List Waiter}

/-! ## Requests that find no process -/

/-- Nobody is told that no process is held while an occasion is dealt with. -/
theorem RestartsOnce.held (h : RestartsOnce P callers s t) {ticket : Ticket} {reply : Answer}
    (made : Made (.answered ticket reply) s t) : Answer.isUnheld reply = false := by
  rcases h.of_made made with hbeside | ⟨e, why, rfl, -⟩ | ⟨u, -, rfl, -⟩
  · rcases hbeside with h | ⟨-, -, -, held⟩
    · cases h
    · exact held
  · exact (Answer.of_isUnlaunched why).2
  · exact Answer.held_of_isLaunched (relaunchNow_isLaunched P u)

variable (P s) in
/-- **Who is told that no process is held**: the requests that need one, as they are served with
none held, and nobody else. -/
theorem made_unheld_iff (input : Input σ) (ticket : Ticket) (name : String) :
    Made (.answered ticket (.error (.noProcess name))) s (step P s input) ↔
      input = .turn ∧ name = s.spec.name ∧ s.pid P = none ∧ ∃ request,
        s.due? = some (.request ticket request) ∧ request.needsProcess = true := by
  constructor
  · intro made
    cases step_replies P s input with
    | dismissed done =>
      obtain ⟨other, told, h⟩ := done.of_made made
      cases h
    | scheduled _ _ done => cases done.of_made made
    | @unheld other request turned due needs free done =>
      have hadds : Adds (· = .answered other (.error (.noProcess s.spec.name))) s
          (step P s input) := .cons done rfl
      obtain ⟨rfl, hname⟩ := Event.answered.inj (hadds.of_made made)
      exact ⟨turned, Error.noProcess.inj (Except.error.inj hname), free, request, due, needs⟩
    | served _ once result =>
      rw [result] at made
      cases once.held made
  · rintro ⟨rfl, rfl, free, request, due, needs⟩
    rw [step, turn_of_unheld due needs free]
    exact .of_cons rfl

theorem delete_of_free (free : s.pid P = none) (first : s.waiters.any Waiter.isDelete = false)
    (ticket : Option Ticket) : s.delete P ticket =
      s.finishDelete ticket (.error (.delete s.spec.name s.noProcess s.noProcess)) := by
  have hfirst : ¬ s.waiters.any Waiter.isDelete = true := by simp [first]
  have hforced : s.stopForced P = (.error s.noProcess, s) := by
    unfold stopForced
    rw [free]
  unfold delete
  rw [if_neg hfirst, stopGraceful_of_free P s free]
  dsimp only
  rw [hforced]
  rfl

/-- **The turn of a delete that finds no process**, as a whole. -/
theorem turn_of_unheld_delete {ticket : Ticket} (due : s.due? = some (.request ticket .delete))
    (free : s.pid P = none) (first : s.waiters.any Waiter.isDelete = false) :
    s.turn P = { s with
      queue := s.queue.tail
      cancelled := true
      exitCheck := if s.waiters.isEmpty then none else some (s.now + exitPollInterval)
      trace := .answered ticket (.error (.delete s.spec.name
        (.noProcess s.spec.name) (.noProcess s.spec.name))) :: s.trace } := by
  have hserve : s.serve P (.request ticket .delete) = _ :=
    @delete_of_free σ P { s with queue := s.queue.tail } free first (some ticket)
  rw [turn_eq due, hserve]
  rfl

/-! ## Operations on the held process -/

variable (P) in
/-- What a request does to the held process, if that is all it does. -/
def operation? : Request → Option (Supervisor σ → Except Error Unit × Supervisor σ)
  | .stop => some (stopGraceful P)
  | .kill => some (stopForced P)
  | .signal signal => some (sendSignal P · signal)
  | _ => none

variable (P) in
/-- What comes of the request as `result`, from `s` to `t`.  A stop and a kill that succeed clear
the start time.  Whatever fails keeps it, and the process that is held stays so, unless it was
killed and could not be let go of. -/
structure Operates (request : Request) (s : Supervisor σ) (result : Except Error Unit)
    (t : Supervisor σ) : Prop where
  cleared : request = .stop ∨ request = .kill → result = .ok () → t.startTime = none
  kept : ∀ e, result = .error e → t.startTime = s.startTime ∧
    (t.pid P = s.pid P ∨ request = .kill ∧ ∃ cause, Made (.released (.error cause)) s t)

namespace Operates

variable {request : Request}

/-- A success that clears the start time, or is of a signal. -/
theorem of_ok (cleared : request = .stop ∨ request = .kill → t.startTime = none) :
    Operates P request s (.ok ()) t :=
  ⟨fun h _ => cleared h, fun _ h => by cases h⟩

/-- A failure that leaves what it found. -/
theorem of_error {e : Error} (time : t.startTime = s.startTime) (held : t.pid P = s.pid P) :
    Operates P request s (.error e) t :=
  ⟨fun _ h => (by cases h), fun _ _ => ⟨time, .inl held⟩⟩

end Operates

section

variable (steady : ∀ signal x, P.pid (P.signal signal x).2 = P.pid x) (s)

include steady

/-- A signal changes neither the start time nor what is held. -/
theorem signal_kept (signal : Signal) : (s.signal P signal).2.startTime = s.startTime ∧
    (s.signal P signal).2.pid P = s.pid P :=
  ⟨rfl, steady (some signal) s.system⟩

theorem stopGraceful_operates :
    Operates P .stop s (s.stopGraceful P).1 (s.stopGraceful P).2 := by
  have hkept := signal_kept s steady .term
  unfold stopGraceful
  split
  · exact .of_error rfl rfl
  · rcases hsent : s.signal P .term with ⟨_ | _, u⟩ <;> simp only [hsent] at hkept ⊢
    · exact .of_error hkept.1 hkept.2
    · exact .of_ok fun _ => rfl

theorem sendSignal_operates (signal : Signal) :
    Operates P (.signal signal) s (s.sendSignal P signal).1 (s.sendSignal P signal).2 := by
  have hkept := signal_kept s steady signal
  unfold sendSignal
  split
  · exact .of_error rfl rfl
  · rcases hsent : s.signal P signal with ⟨_ | _, u⟩ <;> simp only [hsent] at hkept ⊢
    · exact .of_error hkept.1 hkept.2
    · exact .of_ok fun h => by rcases h with h | h <;> cases h

/-- **A kill** that fails was not delivered, or the process could not be let go of. -/
theorem stopForced_operates : Operates P .kill s (s.stopForced P).1 (s.stopForced P).2 := by
  have hkept := signal_kept s steady .kill
  have hsuffix := (signal_calls P s .kill).adds.suffix
  unfold stopForced
  split
  · exact .of_error rfl rfl
  · rcases hsent : s.signal P .kill with ⟨_ | _, u⟩ <;> simp only [hsent] at hkept hsuffix ⊢
    · exact .of_error hkept.1 hkept.2
    · have hmade : Made (.released (u.release P).1) u (u.release P).2 := .of_cons rfl
      have htime : (u.release P).2.startTime = u.startTime := rfl
      rcases hfreed : u.release P with ⟨cause | _, v⟩ <;> simp only [hfreed] at hmade htime ⊢
      · refine ⟨fun _ h => (by cases h), fun _ _ => ⟨htime.trans hkept.1, .inr ⟨rfl, cause, ?_⟩⟩⟩
        exact hmade.after hsuffix
      · exact .of_ok fun _ => rfl

end

/-- **Each operation** is calls, and the request is told how it went. -/
theorem operation_calls {request : Request}
    {operation : Supervisor σ → Except Error Unit × Supervisor σ}
    (h : operation? P request = some operation) (s : Supervisor σ) :
    Calls s (operation s).2 ∧ ∀ ticket, s.handle P ticket request =
      (operation s).2.answer ticket ((operation s).1.map fun () => .done) := by
  cases request with
  | stop => cases h; exact ⟨stopGraceful_calls P s, fun _ => rfl⟩
  | kill => cases h; exact ⟨stopForced_calls P s, fun _ => rfl⟩
  | signal signal => cases h; exact ⟨sendSignal_calls P s signal, fun _ => rfl⟩
  | _ => cases h

theorem operation_operates (steady : ∀ signal x, P.pid (P.signal signal x).2 = P.pid x)
    {request : Request} {operation : Supervisor σ → Except Error Unit × Supervisor σ}
    (h : operation? P request = some operation) (s : Supervisor σ) :
    Operates P request s (operation s).1 (operation s).2 := by
  cases request with
  | stop => cases h; exact stopGraceful_operates s steady
  | kill => cases h; exact stopForced_operates s steady
  | signal signal => cases h; exact sendSignal_operates s steady signal
  | _ => cases h

variable (P) in
/-- The turn from `s` to `t` in which such a request comes to `result`.  It makes calls and answers
the request; everything but the surroundings and the start time is as before. -/
structure Operated (s : Supervisor σ) (ticket : Ticket) (request : Request)
    (result : Except Error Unit) (t : Supervisor σ) : Prop where
  frame : t = { s with
    system := t.system
    startTime := t.startTime
    queue := s.queue.tail
    exitCheck := if s.waiters.isEmpty then none else some (s.now + exitPollInterval)
    trace := t.trace }
  answered : ∃ calls,
    t.trace = .answered ticket (result.map fun () => .done) :: (calls ++ s.trace) ∧
      ∀ e ∈ calls, e.isCall = true
  operates : Operates P request s result t

/-- **The turn of an operation.** -/
theorem turn_operated (steady : ∀ signal x, P.pid (P.signal signal x).2 = P.pid x) {ticket : Ticket}
    {request : Request} {operation : Supervisor σ → Except Error Unit × Supervisor σ}
    (due : s.due? = some (.request ticket request))
    (h : operation? P request = some operation) :
    ∃ result, Operated P s ticket request result (s.turn P) := by
  obtain ⟨⟨hkeeps, calls, htrace, hcalls⟩, hhandle⟩ :=
    operation_calls h { s with queue := s.queue.tail }
  have hoperates := operation_operates steady h { s with queue := s.queue.tail }
  have hserve : s.serve P (.request ticket request) = _ := hhandle ticket
  rw [turn_eq due, hserve]
  generalize operation { s with queue := s.queue.tail } = outcome at *
  obtain ⟨result, u⟩ := outcome
  refine ⟨result, ?_, ⟨calls, congrArg _ htrace, hcalls⟩, hoperates.cleared, fun e herror => ?_⟩
  · rw [hkeeps]
    rfl
  · obtain ⟨htime, hheld⟩ := hoperates.kept e herror
    refine ⟨htime, hheld.imp_right fun ⟨hkill, cause, hmade⟩ => ⟨hkill, cause, ?_⟩⟩
    exact hmade.before (List.suffix_cons _ _)

variable (P s) in
/-- What holds of `s` as to the requests that need a process. -/
structure Guards : Prop where
  /-- A stop, a kill, a signal and a wait are told that no process is held when none is, and nobody
  else is told so. -/
  refused : ∀ input ticket name,
    Made (.answered ticket (.error (.noProcess name))) s (step P s input) ↔
      input = .turn ∧ name = s.spec.name ∧ s.pid P = none ∧ ∃ request,
        s.due? = some (.request ticket request) ∧ request.needsProcess = true
  /-- They then make no call and change nothing: the turn takes the request off the queue, answers
  it, and sets the exit check anew, as every turn does. -/
  unchanged : ∀ ticket request, s.due? = some (.request ticket request) →
    request.needsProcess = true → s.pid P = none → s.turn P = { s with
      queue := s.queue.tail
      exitCheck := if s.waiters.isEmpty then none else some (s.now + exitPollInterval)
      trace := .answered ticket (.error (.noProcess s.spec.name)) :: s.trace }
  /-- A delete that finds no process says so of both stops, and ends the supervision. -/
  deleted : ∀ ticket, s.due? = some (.request ticket .delete) → s.pid P = none →
    s.waiters.any Waiter.isDelete = false → s.turn P = { s with
      queue := s.queue.tail
      cancelled := true
      exitCheck := if s.waiters.isEmpty then none else some (s.now + exitPollInterval)
      trace := .answered ticket (.error (.delete s.spec.name
        (.noProcess s.spec.name) (.noProcess s.spec.name))) :: s.trace }
  /-- Beside another delete it is refused, and changes nothing. -/
  excluded : ∀ ticket, s.due? = some (.request ticket .delete) →
    s.waiters.any Waiter.isDelete = true → s.turn P = { s with
      queue := s.queue.tail
      exitCheck := some (s.now + exitPollInterval)
      trace := .answered ticket (.error (.busy s.spec.name)) :: s.trace }
  /-- A stop, a kill and a signal change no more than they say. -/
  operated : ∀ ticket request, s.due? = some (.request ticket request) →
    (operation? P request).isSome = true →
      ∃ result, Operated P s ticket request result (s.turn P)

/-- **Requests that find no process, and requests that fail**, in every state.  All that is relied
on is that a signal does not change which process is held. -/
theorem stops_guarded (steady : ∀ signal x, P.pid (P.signal signal x).2 = P.pid x)
    (s : Supervisor σ) : Guards P s where
  refused := made_unheld_iff P s
  unchanged _ _ := turn_of_unheld
  deleted _ := turn_of_unheld_delete
  excluded _ := turn_of_excluded
  operated := by
    intro ticket request due hsome
    obtain ⟨operation, h⟩ := Option.isSome_iff_exists.mp hsome
    exact turn_operated steady due h

/-- A process that is asked to be killed, and cannot be let go of. -/
def unreleasable : Supervisor ScriptedProcess :=
  reached ScriptedProcess.platform (ScriptedProcess.spec .infinite)
    { script := { releaseError := some "stuck" } } none [.send 0 .kill]

/-- The kill is delivered and fails all the same, and leaves the start time. -/
theorem unreleasable_killed :
    (∃ result, Operated ScriptedProcess.platform unreleasable 0 .kill result
      (unreleasable.turn ScriptedProcess.platform)) ∧
    (unreleasable.turn ScriptedProcess.platform).startTime = some 0 := by
  have hguards := stops_guarded ScriptedProcess.platform_holding.signal unreleasable
  exact ⟨hguards.operated 0 .kill rfl rfl, rfl⟩

/-- A process that ignores `Signal.term`, with a delete parked, was killed, and another delete is
asked for. -/
def vacated : Supervisor ScriptedProcess :=
  reached ScriptedProcess.platform (ScriptedProcess.spec (.limited 0))
    { script := { ignored := [.term] } } none
    [.send 0 .delete, .turn, .send 1 .kill, .turn, .send 2 .delete]

/-- **Nothing is held, and yet the delete is refused** because the other one is parked: it is not
told that there is no process, and the supervision goes on. -/
theorem vacated_delete_refused :
    vacated.due? = some (.request 2 .delete) ∧ vacated.pid ScriptedProcess.platform = none ∧
      (vacated.turn ScriptedProcess.platform).trace =
        .answered 2 (.error (.busy "mock")) :: vacated.trace ∧
      (vacated.turn ScriptedProcess.platform).cancelled = false :=
  ⟨rfl, rfl, rfl, rfl⟩

end Supervisor

end Overseer
