import Overseer.Proofs.Supervisor.Unasked

/-!
# Signals are sent on command

Every signal that a supervisor tries to send, the null signal apart, is sent because a request asks
for it, or because the last handle is gone.

* `attempts` -- the signals that were tried in a run, and what came of each;
* `attempt`, `deletion` -- what comes of one signal, and of a deletion;
* `commanded` -- what an occasion commands; `commands` -- what is commanded in a run;
* `serve_attempts` -- what is tried on an occasion is what it commands;
* `signals_on_command` -- so it is in every run.
-/

namespace Overseer

/-- The process control was asked to send a signal, and this came of it. -/
def Event.attempt? : Event → Option (Signal × Except Errno Unit)
  | signalled signal result => some (signal, result)
  | _ => none

theorem Event.attempt?_of_isMild {e : Event} (h : e.isMild = true) : e.attempt? = none := by
  cases e <;> simp_all [attempt?, isMild]

namespace Supervisor

variable {σ : Type} {P : Platform σ} {s t u : Supervisor σ}

/-! ## What is commanded -/

/-- The signals that were tried, and what came of each, the oldest first. -/
def attempts (trace : List Event) : List (Signal × Except Errno Unit) :=
  (trace.filterMap Event.attempt?).reverse

/-- The signals that an occasion may give cause to, in this order and each once. -/
def Occasion.signals : Occasion → List Signal
  | .request _ .stop | .request _ .restart => [.term]
  | .request _ .kill => [.kill]
  | .request _ (.signal signal) => [signal]
  | .request _ .delete | .detached => [.term, .kill]
  | _ => []

variable (P) (s)

/-- What comes of sending a signal to the process that is held.  With none held nothing is sent. -/
def attempt (system : σ) (signal : Signal) : List (Signal × Except Errno Unit) :=
  if (P.pid system).isSome then [(signal, (P.signal (some signal) system).1)] else []

/-- The surroundings after that. -/
def attempted (system : σ) (signal : Signal) : σ :=
  if (P.pid system).isSome then (P.signal (some signal) system).2 else system

/-- What a deletion sends: it asks the process to end, and kills it if it cannot be asked. -/
def deletion (system : σ) : List (Signal × Except Errno Unit) :=
  attempt P system .term ++
    match (P.signal (some .term) system).1 with
    | .ok () => []
    | .error _ => attempt P (attempted P system .term) .kill

/-- What is commanded on an occasion that the loop has turned to.  A delete beside another one
commands nothing, and neither does a restart beside a delete or another restart. -/
def commanded : Occasion → List (Signal × Except Errno Unit)
  | .request _ .stop => attempt P s.system .term
  | .request _ .kill => attempt P s.system .kill
  | .request _ (.signal signal) => attempt P s.system signal
  | .request _ .restart =>
    if s.waiters.any (!·.isWait) then [] else attempt P (s.noticeExit P).system .term
  | .request _ .delete => if s.waiters.any Waiter.isDelete then [] else deletion P s.system
  | .detached =>
    if s.spec.autoTerminate && !s.waiters.any Waiter.isDelete then deletion P s.system else []
  | _ => []

/-- What an input commands.  Only a turn of the loop commands anything. -/
def command : Input σ → List (Signal × Except Errno Unit)
  | .turn => s.due?.elim [] fun occasion => commanded P (s.opened occasion) occasion
  | _ => []

/-- What is commanded in a run. -/
def commands (s : Supervisor σ) : List (Input σ) → List (Signal × Except Errno Unit)
  | [] => []
  | input :: rest => s.command P input ++ commands (step P s input) rest

variable {P s}

/-- **An occasion commands no more than it gives cause to.** -/
theorem commanded_signals (s : Supervisor σ) (occasion : Occasion) :
    ((commanded P s occasion).map Prod.fst).Sublist occasion.signals := by
  have hattempt (system : σ) (signal : Signal) :
      ((attempt P system signal).map Prod.fst).Sublist [signal] := by
    unfold attempt
    split
    · exact List.Sublist.refl _
    · exact List.nil_sublist _
  have hdeletion (system : σ) : ((deletion P system).map Prod.fst).Sublist [.term, .kill] := by
    rw [deletion, List.map_append]
    refine List.Sublist.append (hattempt system .term) (?_ : List.Sublist _ [Signal.kill])
    split
    · exact List.nil_sublist _
    · exact hattempt _ .kill
  cases occasion with
  | request ticket request =>
    cases request with
    | stop => exact hattempt s.system .term
    | kill => exact hattempt s.system .kill
    | signal signal => exact hattempt s.system signal
    | restart =>
      rw [commanded]
      split
      · exact List.nil_sublist _
      · exact hattempt _ .term
    | delete =>
      rw [commanded]
      split
      · exact List.nil_sublist _
      · exact hdeletion _
    | _ => exact List.Sublist.refl _
  | detached =>
    rw [commanded]
    split
    · exact hdeletion _
    · exact List.nil_sublist _
  | _ => exact List.Sublist.refl _

/-- **A deletion kills as a last resort**: if and only if its request to end was not delivered, and
a process is held. -/
theorem deletion_kills (system : σ) :
    (∃ result, (.kill, result) ∈ deletion P system) ↔
      (.term, .ok ()) ∉ deletion P system ∧ (P.pid (attempted P system .term)).isSome := by
  have hdistinct : Signal.kill ≠ Signal.term := by decide
  unfold deletion attempted
  by_cases hheld : (P.pid system).isSome = true
  · have hterm : attempt P system .term = [(.term, (P.signal (some .term) system).1)] :=
      if_pos hheld
    have hkill (after : σ) : (∃ result, (.kill, result) ∈ attempt P after .kill) ↔
        (P.pid after).isSome = true := by
      unfold attempt
      split <;> simp_all
    rw [hterm, if_pos hheld]
    cases hasked : (P.signal (some .term) system).1 with
    | ok done => simp [hdistinct]
    | error e =>
      have hother (after : σ) : (.term, .ok ()) ∉ attempt P after .kill := by
        unfold attempt
        split <;> simp [hdistinct.symm]
      simp [hkill, hother, hdistinct]
  · have hnone (signal : Signal) : attempt P system signal = [] := if_neg hheld
    rw [if_neg hheld, hnone, hnone]
    refine iff_of_false ?_ fun h => hheld h.2
    rintro ⟨result, hmem⟩
    split at hmem <;> exact List.not_mem_nil hmem

/-- A process that cannot be asked to end is killed. -/
example : deletion ScriptedProcess.platform
    { pid := some 1001, life := .alive, script := { failSignals := [(.term, .eperm)] } } =
      [(.term, .error .eperm), (.kill, .ok ())] := rfl

/-! ## What is tried -/

@[simp] theorem attempts_cons (e : Event) (trace : List Event) :
    attempts (e :: trace) = attempts trace ++ e.attempt?.toList := by
  cases h : e.attempt? <;> simp [attempts, h]

/-- What is mild tries no signal. -/
theorem Mild.attempts_eq (h : Mild s t) : attempts t.trace = attempts s.trace :=
  congrArg List.reverse (h.filterMap_eq fun _ => Event.attempt?_of_isMild)

variable (P) (s)

/-- A signal to the process that is held. -/
theorem signal_attempts (signal : Signal) (h : (s.pid P).isSome = true) :
    attempts (s.signal P signal).2.trace = attempts s.trace ++ attempt P s.system signal ∧
      (s.signal P signal).2.system = attempted P s.system signal := by
  have hheld : (P.pid s.system).isSome = true := h
  unfold attempt attempted
  rw [if_pos hheld, if_pos hheld]
  exact ⟨attempts_cons _ _, rfl⟩

/-- With no process held no signal is sent. -/
theorem attempt_of_free (signal : Signal) (h : s.pid P = none) :
    attempt P s.system signal = [] ∧ attempted P s.system signal = s.system := by
  have hfree : P.pid s.system = none := h
  unfold attempt attempted
  rw [hfree]
  exact ⟨rfl, rfl⟩

theorem stopGraceful_attempts :
    attempts (s.stopGraceful P).2.trace = attempts s.trace ++ attempt P s.system .term ∧
      (s.stopGraceful P).2.system = attempted P s.system .term := by
  unfold stopGraceful
  split
  · next hfree =>
    obtain ⟨hnone, hsame⟩ := attempt_of_free P s .term hfree
    rw [hnone, hsame]
    exact ⟨(List.append_nil _).symm, rfl⟩
  · next pid hheld =>
    have hsignal := signal_attempts P s .term (by rw [hheld]; rfl)
    split <;> next h => rw [h] at hsignal; exact hsignal

theorem stopForced_attempts :
    attempts (s.stopForced P).2.trace = attempts s.trace ++ attempt P s.system .kill := by
  unfold stopForced
  split
  · next hfree => rw [(attempt_of_free P s .kill hfree).1, List.append_nil]
  · next pid hheld =>
    have hsignal := (signal_attempts P s .kill (by rw [hheld]; rfl)).1
    split
    · next h => rwa [h] at hsignal
    · next t h =>
      rw [h] at hsignal
      have hrelease := (release_mild P t).attempts_eq
      rw [hsignal] at hrelease
      split <;> next hu => rw [hu] at hrelease; exact hrelease

theorem sendSignal_attempts (signal : Signal) :
    attempts (s.sendSignal P signal).2.trace = attempts s.trace ++ attempt P s.system signal := by
  unfold sendSignal
  split
  · next hfree => rw [(attempt_of_free P s signal hfree).1, List.append_nil]
  · next pid hheld =>
    have hsignal := (signal_attempts P s signal (by rw [hheld]; rfl)).1
    split <;> next h => rwa [h] at hsignal

/-- The request to end was delivered. -/
theorem stopGraceful_delivered : (s.stopGraceful P).1 = .ok () ↔
    (s.pid P).isSome = true ∧ (P.signal (some .term) s.system).1 = .ok () := by
  have hresult : (s.signal P .term).1 = (P.signal (some .term) s.system).1 := rfl
  rw [← hresult]
  unfold stopGraceful
  split
  · next hfree => simp [hfree]
  · next pid hheld => split <;> next h => simp [hheld, h]

/-! ## Occasions -/

/-- **A deletion** sends what it should. -/
theorem delete_attempts (ticket : Option Ticket) :
    attempts (s.delete P ticket).trace = attempts s.trace ++
      if s.waiters.any Waiter.isDelete then [] else deletion P s.system := by
  obtain ⟨hasked, hafter⟩ := stopGraceful_attempts P s
  have hdelivered := stopGraceful_delivered P s
  cases delete_deletes P s ticket with
  | busy parked result =>
    rw [if_pos parked, List.append_nil]
    rcases result with ⟨-, result⟩ | ⟨refused, -, result⟩ <;> rw [result]
    rfl
  | parked first asked result =>
    have hdeletion : deletion P s.system = attempt P s.system .term := by
      rw [deletion, (hdelivered.mp asked).2]
      exact List.append_nil _
    rw [if_neg (by simp [first]), result, (park_mild P _ _).attempts_eq, hasked, hdeletion]
  | forced first outcome result told unasked =>
    have hkilled := stopForced_attempts P (s.stopGraceful P).2
    rw [hasked, hafter] at hkilled
    have hdeletion : deletion P s.system =
        attempt P s.system .term ++ attempt P (attempted P s.system .term) .kill := by
      rw [deletion]
      split
      · next hsent =>
        -- The request to end was not delivered, so no process was held.
        have hfree : s.pid P = none := by
          by_contra hheld
          exact unasked (hdelivered.mpr ⟨Option.isSome_iff_ne_none.mpr hheld, hsent⟩)
        obtain ⟨-, hsame⟩ := attempt_of_free P s .term hfree
        rw [hsame, (attempt_of_free P s .kill hfree).1]
      · rfl
    have hfinished : Mild ((s.stopGraceful P).2.stopForced P).2
        (((s.stopGraceful P).2.stopForced P).2.finishDelete ticket outcome) := by
      refine finishDelete_mild _ ticket ?_
      obtain ⟨graceful, htold⟩ := told
      rw [htold]
      cases ((s.stopGraceful P).2.stopForced P).1 <;> rfl
    rw [if_neg (by simp [first]), result, hfinished.attempts_eq, hkilled, hdeletion,
      List.append_assoc]

/-- **A restart** asks the process to end that is held once its exit would have been noticed. -/
theorem restart_attempts (ticket : Ticket) :
    attempts (s.restart P ticket).trace = attempts s.trace ++
      if s.waiters.any (!·.isWait) then [] else attempt P (s.noticeExit P).system .term := by
  have hnoticed := (noticeExit_mild P s).attempts_eq
  have hasked := (stopGraceful_attempts P (s.noticeExit P)).1
  rw [hnoticed] at hasked
  cases restart_restarts P s ticket with
  | busy parked result =>
    rw [if_pos parked, List.append_nil, result]
    rfl
  | parked first _ result =>
    rw [if_neg (by simp [first]), result, (park_mild P _ _).attempts_eq, hasked]
  | relaunched first free result =>
    have hlaunched : Mild (s.noticeExit P) (((s.noticeExit P).relaunchNow P).2.answer ticket
        (((s.noticeExit P).relaunchNow P).1.map .restarted)) :=
      (relaunchNow_mild P _).trans (Mild.of_tried (relaunchNow_tried P _))
    rw [if_neg (by simp [first]), result, (attempt_of_free P _ .term free).1, List.append_nil,
      hlaunched.attempts_eq, hnoticed]
  | refused first e result =>
    rw [if_neg (by simp [first]), result]
    exact hasked

/-- **A request** sends what it commands. -/
theorem handle_attempts (ticket : Ticket) (request : Request) :
    attempts (s.handle P ticket request).trace =
      attempts s.trace ++ commanded P s (.request ticket request) := by
  have hanswer (u : Supervisor σ) (reply : Answer) :
      attempts (u.answer ticket reply).trace = attempts u.trace :=
    (attempts_cons _ _).trans (List.append_nil _)
  have hnone (u : Supervisor σ) (h : Mild s u) :
      attempts u.trace = attempts s.trace ++ [] := by
    rw [h.attempts_eq, List.append_nil]
  cases request with
  | stop => exact (hanswer _ _).trans (stopGraceful_attempts P s).1
  | kill => exact (hanswer _ _).trans (stopForced_attempts P s)
  | signal signal => exact (hanswer _ _).trans (sendSignal_attempts P s signal)
  | restart => exact restart_attempts P s ticket
  | delete => exact delete_attempts P s (some ticket)
  | status => exact (hanswer _ _).trans (hnone _ (observe_mild P s))
  | isAlive => exact (hanswer _ _).trans (hnone _ (isAlive_mild P s))
  | pid | startTime | restartsRemaining => exact (hanswer _ _).trans (hnone _ (.of_trace_eq rfl))
  | wait =>
    rcases wait_cases P s ticket with ⟨-, hresult⟩ | ⟨-, hresult⟩ <;> rw [hresult]
    · exact (hanswer _ _).trans (hnone _ (.of_trace_eq rfl))
    · exact hnone _ (park_mild P s _)

/-- **What is tried on an occasion is what it commands.** -/
theorem serve_attempts (occasion : Occasion) :
    attempts (s.serve P occasion).trace =
      attempts s.trace ++ commanded P (s.opened occasion) occasion := by
  cases occasion with
  | request ticket request =>
    exact handle_attempts P { s with queue := s.queue.tail } ticket request
  | detached =>
    have hserve : s.serve P .detached = if s.spec.autoTerminate then
        { s with detached := true }.delete P none else { s with detached := true } := rfl
    have hcommanded : commanded P (s.opened .detached) .detached =
        if s.spec.autoTerminate && !s.waiters.any Waiter.isDelete then deletion P s.system
        else [] := rfl
    have hdelete : attempts ({ s with detached := true }.delete P none).trace =
        attempts s.trace ++
          if s.waiters.any Waiter.isDelete then [] else deletion P s.system :=
      delete_attempts P { s with detached := true } none
    rw [hserve, hcommanded]
    cases s.spec.autoTerminate with
    | false => exact (List.append_nil _).symm
    | true =>
      rw [if_pos rfl, hdelete]
      cases s.waiters.any Waiter.isDelete <;> rfl
  | cancelled | relaunch | exitCheck | tick =>
    rw [(serve_mild P s rfl).attempts_eq]
    exact (List.append_nil _).symm

/-- **Every input** tries what it commands: a turn what the occasion does that is due, and anything
else nothing. -/
theorem step_attempts (input : Input σ) :
    attempts (step P s input).trace = attempts s.trace ++ s.command P input := by
  by_cases hturn : input = .turn
  · subst hturn
    rw [step, command]
    cases hdue : s.due? with
    | none => rw [turn_of_idle hdue]; exact (List.append_nil _).symm
    | some occasion =>
      rw [turn_eq hdue]
      exact serve_attempts P s occasion
  · have hnothing : s.command P input = [] := by
      cases input with
      | turn => exact absurd rfl hturn
      | _ => rfl
    rw [(step_mild hturn).attempts_eq, hnothing, List.append_nil]

/-- **A run** tries what is commanded in it. -/
theorem run_attempts (inputs : List (Input σ)) :
    attempts (run P s inputs).trace = attempts s.trace ++ commands P s inputs := by
  induction inputs generalizing s with
  | nil => exact (List.append_nil _).symm
  | cons input rest ih =>
    have hrun : run P s (input :: rest) = run P (step P s input) rest := rfl
    rw [hrun, ih, step_attempts, commands, List.append_assoc]

/-- The beginning tries nothing. -/
theorem supervise_attempts (spec : Spec) (system : σ) (sink : Option Sink) :
    attempts (supervise P spec system sink).2.trace = [] := by
  have hlaunch : attempts ((new spec system sink).launch P).2.trace = [] :=
    (launch_mild P (new spec system sink)).attempts_eq
  refine @supervise_invariant σ P (fun u => attempts u.trace = []) spec system sink hlaunch
    hlaunch ?_
  intro u hnothing
  exact (finish_mild u).attempts_eq.trans hnothing

/-- **Signals are sent on command.**  In every run, the signals that the supervisor tried to send
are those that were commanded, by a request or by the loss of the last handle, one occasion after
the other.  No occasion commands more than it may give cause to, and a deletion kills if and only if
its request to end was not delivered and a process is held. -/
theorem signals_on_command (P : Platform σ) (spec : Spec) (system : σ) (sink : Option Sink)
    (inputs : List (Input σ)) :
    attempts (reached P spec system sink inputs).trace =
        commands P (supervise P spec system sink).2 inputs ∧
      (∀ (s : Supervisor σ) (occasion : Occasion),
        ((commanded P s occasion).map Prod.fst).Sublist occasion.signals) ∧
      ∀ system : σ, (∃ result, (.kill, result) ∈ deletion P system) ↔
        (.term, .ok ()) ∉ deletion P system ∧
          (P.pid (attempted P system .term)).isSome = true := by
  refine ⟨?_, commanded_signals, deletion_kills⟩
  have hrun := run_attempts P (supervise P spec system sink).2 inputs
  rwa [supervise_attempts, List.nil_append] at hrun

end Supervisor

end Overseer
