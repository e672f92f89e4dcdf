import Overseer.Proofs.Supervisor.Starts
import Overseer.ScriptedProcess

/-!
# The exit status that a parked wait is told

A process is named by its number in the order of creation.  A wait is parked for the process that
is held when it is accepted, and does not note which one that is.

* `TellsOf n s t` -- from `s` to `t` callers were told of no exit status but such that had been
  collected from process `n`; `turn_tells` -- a turn tells of the process created last;
* `Replaces` -- the two turns that create a process and leave everybody parked, for nothing was held
  any more: the scheduled relaunch, and a restart that finds nothing held;
* `awaited_exit` -- so a wait is told the exit status of the process it was parked for exactly when
  no such turn came between.
-/

namespace Overseer

/-- The exit status that a caller is told. -/
def Event.exitTold? : Event → Option ExitStatus
  | answered _ (.ok (.exited status)) => some status
  | _ => none

theorem Event.exitTold?_answered {ticket : Ticket} {reply : Answer} {status : ExitStatus} :
    (answered ticket reply).exitTold? = some status ↔ reply = .ok (.exited status) := by
  unfold exitTold?
  split
  · next found heq =>
    injection heq with _ heq
    simp [heq]
  · next hnone =>
    refine iff_of_false (by simp) ?_
    intro hreply
    exact hnone ticket status (by rw [hreply])

theorem Event.exitTold?_of_isCall {e : Event} (h : e.isCall = true) : e.exitTold? = none := by
  cases e <;> simp_all [isCall, exitTold?]

theorem Event.exitTold?_of_isTick {e : Event} (h : e.isTick = true) : e.exitTold? = none := by
  cases e <;> simp_all [isTick, exitTold?]

namespace Supervisor

variable {σ : Type} {P : Platform σ} {s t u : Supervisor σ} {n : Nat}

/-! ## Telling -/

/-- From `s` to `t` callers were told of no exit status but such that had been collected when `n`
processes had been created. -/
def TellsOf (n : Nat) (s t : Supervisor σ) : Prop :=
  ∃ events, t.trace = events ++ s.trace ∧ ∀ later e earlier status,
    events = later ++ e :: earlier → e.exitTold? = some status →
      Collected n status (earlier ++ s.trace)

/-- From `s` to `t` nobody was told of an exit status. -/
abbrev Silent (s t : Supervisor σ) : Prop := Adds (fun e => e.exitTold? = none) s t

theorem TellsOf.of_adds (h : Adds (fun e => ∀ status, e.exitTold? = some status →
    Collected n status s.trace) s t) : TellsOf n s t := by
  obtain ⟨events, htrace, hevents⟩ := h
  refine ⟨events, htrace, ?_⟩
  intro later e earlier status hsplit htold
  have hmem : e ∈ events := by simp [hsplit]
  exact (hevents e hmem status htold).of_suffix ⟨earlier, rfl⟩

theorem TellsOf.of_silent (h : Silent s t) : TellsOf n s t := by
  refine .of_adds (h.mono ?_)
  intro e hnone status htold
  rw [hnone] at htold
  cases htold

theorem TellsOf.trans (hst : TellsOf n s t) (htu : TellsOf n t u) : TellsOf n s u := by
  obtain ⟨first, hfirst, htold₁⟩ := hst
  obtain ⟨second, hsecond, htold₂⟩ := htu
  refine ⟨second ++ first, by rw [hsecond, hfirst, List.append_assoc], ?_⟩
  intro later e earlier status hsplit htold
  rcases List.append_eq_append_iff.mp hsplit with ⟨middle, -, hfirst'⟩ | ⟨middle, hsecond', hrest⟩
  · exact htold₁ middle e earlier status hfirst' htold
  · cases middle with
    | nil => exact htold₁ [] e earlier status hrest.symm htold
    | cons head rest =>
      obtain ⟨rfl, rfl⟩ := List.cons.inj hrest
      have hcollected := htold₂ later e rest status hsecond' htold
      rwa [hfirst, ← List.append_assoc] at hcollected

/-- What is told is of the process that was created last when the turn began. -/
theorem TellsOf.collected (h : TellsOf n s t) {later earlier : List Event} {ticket : Ticket}
    {status : ExitStatus}
    (htrace : t.trace = later ++ .answered ticket (.ok (.exited status)) :: earlier)
    (hnew : s.trace <:+ earlier) : Collected n status earlier := by
  obtain ⟨events, hevents, htold⟩ := h
  obtain ⟨middle, rfl⟩ := hnew
  have hsplit : events = later ++ .answered ticket (.ok (.exited status)) :: middle := by
    rw [hevents] at htrace
    refine List.append_cancel_right (htrace.trans ?_)
    simp
  exact htold later _ middle status hsplit rfl

/-! ## Operations that tell nothing -/

theorem Silent.refl (s : Supervisor σ) : Silent s s := .of_trace_eq rfl

theorem Calls.silent (h : Calls s t) : Silent s t :=
  h.adds.mono fun _ he => Event.exitTold?_of_isCall he

theorem Silent.answer (h : Silent s t) (ticket : Ticket) {reply : Answer}
    (hreply : ∀ status, reply ≠ .ok (.exited status)) : Silent s (t.answer ticket reply) := by
  refine h.trans (.cons rfl (Option.eq_none_iff_forall_ne_some.mpr ?_))
  intro status htold
  exact hreply status (Event.exitTold?_answered.mp htold)

variable (P s) in
theorem launch_silent : Silent s (s.launch P).2 := by
  rcases launch_cases P s with ⟨e, cause, -, -, h⟩ | ⟨e, cause, -, h⟩ | ⟨pid, reading, -, h⟩
  · exact .cons h rfl
  · exact ⟨[.launched (.error e), .started (.error cause)], h, by simp [Event.exitTold?]⟩
  · exact ⟨[.launched (.ok pid), .statusRead reading, .started (.ok pid)], h,
      by simp [Event.exitTold?]⟩

variable (P s) in
theorem relaunchNow_silent : Silent s (s.relaunchNow P).2 := by
  unfold relaunchNow
  split
  · exact (release_calls P s).silent.trans (launch_silent P _)
  · exact launch_silent P { s with watchdog := s.watchdog.takeRestart.2 }

theorem Silent.finishDelete (h : Silent s t) (ticket : Option Ticket) (result : Except Error Unit) :
    Silent s (t.finishDelete ticket result) := by
  cases ticket with
  | none => exact h.trans (.of_trace_eq rfl)
  | some ticket =>
    exact Silent.answer (h.trans (.of_trace_eq rfl)) ticket (map_done_ne_exited result)

theorem map_restarted_ne_exited (result : Except Error Pid) (status : ExitStatus) :
    result.map Reply.restarted ≠ .ok (.exited status) := by
  cases result <;> simp [Except.map]

/-! ## Settling -/

/-- An exit status is told only when it is known. -/
theorem exitAnswer_eq_exited {exit : Except String ExitStatus} {status : ExitStatus}
    (h : s.exitAnswer exit = .ok (.exited status)) : exit = .ok status := by
  cases exit with
  | ok found =>
    injection h with h
    injection h with h
    rw [h]
  | error reason => cases h

variable (P s) in
/-- The callers who only wait are told of the exit that became known. -/
theorem told_tells {exit : Except String ExitStatus}
    (h : ∀ status, exit = .ok status → Collected n status s.trace) :
    TellsOf n s (s.told P exit) := by
  have hcalls := (nothingLeft_calls P s exit).silent
  refine .of_adds ((hcalls.mono ?_).trans ((told_adds P s exit).mono ?_))
  · intro e hnone status htold
    rw [hnone] at htold
    cases htold
  · rintro _ ⟨ticket, rfl⟩ status htold
    exact h status (exitAnswer_eq_exited (s := s) (Event.exitTold?_answered.mp htold))

/-- **A route tells of the process that was created last.** -/
theorem Route.tells (h : Route P s t) : TellsOf (instances s.trace) s t := by
  cases h with
  | calls h => exact .of_silent h.silent
  | @settled u exit h collected result =>
    have htold := (TellsOf.of_silent h.silent).trans
      (told_tells P u fun status hstatus => (collected status hstatus).collected h.noStart)
    have hsettles := resolveWaiters_settles P u exit
    rw [← result] at hsettles
    cases hsettles with
    | nobody _ result => rw [result]; exact .of_silent h.silent
    | deleted ticket _ result =>
      rw [result]
      refine htold.trans (.of_silent (Silent.finishDelete ?_ ticket _))
      split
      · exact Silent.answer (.refl _) _ (by simp)
      · exact .refl _
    | relaunched ticket _ _ _ result =>
      rw [result]
      exact htold.trans (.of_silent (Silent.answer (relaunchNow_silent P _) ticket
        (map_restarted_ne_exited _)))
    | refused ticket _ _ gone result =>
      rw [result]
      refine htold.trans (.of_silent (Silent.answer (.refl _) ticket ?_))
      intro status hreply
      rw [exitAnswer_eq_exited hreply] at gone
      cases gone
    | waits _ _ _ result => rw [result]; exact htold

/-! ## Turns -/

theorem TellsOf.of_route (h : Route P u t) (hst : Silent s u) (hsame : NoStart s u) :
    TellsOf (instances s.trace) s t := by
  have htells := h.tells
  rw [hsame.instances_eq] at htells
  exact (TellsOf.of_silent hst).trans htells

variable (P s) in
theorem park_tells (waiter : Waiter) : TellsOf (instances s.trace) s (s.park P waiter) :=
  .of_route (park_route P s waiter) (.of_trace_eq rfl) (.of_trace_eq rfl)

variable (P s) in
theorem delete_tells (ticket : Option Ticket) :
    TellsOf (instances s.trace) s (s.delete P ticket) := by
  have hgraceful := stopGraceful_calls P s
  cases delete_deletes P s ticket with
  | busy _ result =>
    rcases result with ⟨-, result⟩ | ⟨ticket, -, result⟩ <;> rw [result]
    · exact .of_silent (.refl s)
    · exact .of_silent (Silent.answer (.refl s) ticket (by simp))
  | parked _ _ result =>
    rw [result]
    have hpark := park_tells P (s.stopGraceful P).2 (.delete ticket)
    rw [hgraceful.noStart.instances_eq] at hpark
    exact (TellsOf.of_silent hgraceful.silent).trans hpark
  | forced _ outcome result =>
    rw [result]
    have hforced := (hgraceful.trans (stopForced_calls P _)).silent
    exact .of_silent (Silent.finishDelete hforced ticket outcome)

variable (P s) in
theorem restart_tells (ticket : Ticket) :
    TellsOf (instances s.trace) s (s.restart P ticket) := by
  have hnotice := noticeExit_route P s
  have hgraceful := stopGraceful_calls P (s.noticeExit P)
  have htells := hnotice.tells.trans (.of_silent hgraceful.silent)
  cases restart_restarts P s ticket with
  | busy _ result => rw [result]; exact .of_silent (Silent.answer (.refl s) ticket (by simp))
  | parked first _ result =>
    rw [result]
    have hpark := park_tells P ((s.noticeExit P).stopGraceful P).2 (.restart ticket)
    rw [hgraceful.noStart.instances_eq, (hnotice.noStart first).instances_eq] at hpark
    exact htells.trans hpark
  | relaunched _ _ result =>
    rw [result]
    exact hnotice.tells.trans (.of_silent (Silent.answer (relaunchNow_silent P _) ticket
      (map_restarted_ne_exited _)))
  | refused _ e result =>
    rw [result]
    exact htells.trans (.of_silent (Silent.answer (.refl _) ticket (by simp)))

variable (P s) in
theorem handle_tells (ticket : Ticket) (request : Request) :
    TellsOf (instances s.trace) s (s.handle P ticket request) := by
  by_cases hplain : request.isPlain = true
  · obtain ⟨u, reply, hcalls, hresult, hreply, -⟩ := handle_plain P s hplain ticket
    rw [hresult]
    exact .of_silent (Silent.answer hcalls.silent ticket hreply)
  · cases request with
    | restart => exact restart_tells P s ticket
    | delete => exact delete_tells P s (some ticket)
    | wait =>
      rcases wait_cases P s ticket with ⟨-, hresult⟩ | ⟨-, hresult⟩ <;> rw [hresult]
      · exact .of_silent (Silent.answer (.of_trace_eq rfl) ticket (by simp))
      · exact park_tells P s (.wait ticket)
    | _ => exact absurd rfl hplain

variable (P s) in
theorem noted_silent : Silent s (s.noted P) :=
  (observe_calls P s).silent.trans
    ((noted_adds P s).mono fun _ he => Event.exitTold?_of_isTick he)

variable (P s) in
theorem onTick_tells : TellsOf (instances s.trace) s (s.onTick P) := by
  cases hlive : s.watchdog.cancelled with
  | true =>
    cases onTick_ticks P s with
    | stopped _ result => rw [result]; exact .of_silent (observe_calls P s).silent
    | terminated live | zombie live | quiet live => rw [hlive] at live; cases live
  | false => exact .of_route (tick_route P s hlive) (noted_silent P s) (noted_noStart P s)

variable (P s) in
theorem onDetached_tells : TellsOf (instances s.trace) s (s.onDetached P) := by
  unfold onDetached
  dsimp only
  split
  · exact delete_tells P { s with detached := true } none
  · exact .of_silent (.of_trace_eq rfl)

variable (P s) in
/-- **A turn tells of the process that was created last when it began.** -/
theorem turn_tells : TellsOf (instances s.trace) s (s.turn P) := by
  cases hdue : s.due? with
  | none => rw [turn_of_idle hdue]; exact .of_silent (.of_trace_eq rfl)
  | some occasion =>
    rw [turn_eq hdue]
    cases occasion with
    | cancelled =>
      refine .of_silent (finish_adds.mono ?_)
      rintro _ ⟨ticket, rfl⟩
      rfl
    | relaunch =>
      rw [serve, relaunch_of_pending P s (due?_eq_relaunch.mp hdue).2.2]
      exact .of_silent (launch_silent P { s with watchdog := s.watchdog.takeRestart.2 })
    | request ticket request => exact handle_tells P { s with queue := s.queue.tail } ticket request
    | detached => exact onDetached_tells P s
    | exitCheck => exact (checkWaiters_route P s).tells
    | tick => exact onTick_tells P (s.opened .tick)

/-! ## Replaced processes -/

variable (P s) in
/-- The turn creates a process and leaves parked whoever is parked. -/
inductive Replaces : Prop where
  /-- A scheduled relaunch is carried out. -/
  | relaunch (due : s.due? = some .relaunch)
      (created : instances (s.turn P).trace ≠ instances s.trace)
  /-- A restart finds nothing held. -/
  | restart {ticket : Ticket} (due : s.due? = some (.request ticket .restart))
      (free : ((s.opened (.request ticket .restart)).noticeExit P).pid P = none)
      (created : instances (s.turn P).trace ≠ instances s.trace)

theorem Replaces.created (h : Replaces P s) : instances (s.turn P).trace ≠ instances s.trace := by
  cases h with
  | relaunch _ created => exact created
  | restart _ _ created => exact created

/-- Only such a turn creates a process and leaves somebody parked. -/
theorem replaces_of_parked (hparked : (s.turn P).waiters ≠ [])
    (hcreated : instances (s.turn P).trace ≠ instances s.trace) : Replaces P s := by
  rcases turn_orderly P s with (h | h) | hdue | ⟨ticket, hdue⟩
  · exact absurd h.instances_eq hcreated
  · exact absurd h.settled hparked
  · exact .relaunch hdue hcreated
  · have hresult : s.turn P = ((s.opened (.request ticket .restart)).restart P ticket).rearm :=
      turn_eq hdue
    rcases restart_starts P (s.opened (.request ticket .restart)) ticket with h | ⟨-, h⟩
    · rw [hresult] at hcreated
      exact absurd h.instances_eq hcreated
    · rw [hresult] at hparked
      rcases h with h | ⟨hfree, -⟩
      · exact absurd h hparked
      · exact .restart hdue hfree hcreated

theorem instances_le_of_suffix {trace more : List Event} (h : trace <:+ more) :
    instances trace ≤ instances more :=
  h.sublist.countP_le

variable (P s) in
theorem step_instances_le (input : Input σ) :
    instances s.trace ≤ instances (step P s input).trace :=
  instances_le_of_suffix (step_suffix P s input)

theorem step_instances_eq {input : Input σ} (h : input ≠ .turn) :
    instances (step P s input).trace = instances s.trace :=
  (step_noStart P s h).instances_eq

variable (P s) in
theorem run_instances_le (inputs : List (Input σ)) :
    instances s.trace ≤ instances (run P s inputs).trace := by
  induction inputs using List.reverseRecOn with
  | nil => exact Nat.le_refl _
  | append_singleton rest input ih =>
    rw [run_concat]
    exact Nat.le_trans ih (step_instances_le P _ input)

/-- While somebody is parked, no process is created exactly when none is replaced. -/
theorem run_instances_eq_iff (inputs : List (Input σ))
    (hparked : ∀ k < inputs.length, (run P s (inputs.take (k + 1))).waiters ≠ []) :
    instances (run P s inputs).trace = instances s.trace ↔
      ∀ before after, inputs = before ++ .turn :: after → ¬ Replaces P (run P s before) := by
  -- On the run from its end: both sides are about the last input or about the rest.
  induction inputs using List.reverseRecOn with
  | nil =>
    refine iff_of_true rfl ?_
    intro before after hinputs
    cases before <;> cases hinputs
  | append_singleton rest input ih =>
    have hlength : (rest ++ [input]).length = rest.length + 1 := List.length_append
    have hrest := ih (by
      intro k hk
      have hprefix := hparked k (by omega)
      rwa [List.take_append_of_le_length (by omega)] at hprefix)
    have hlast : (step P (run P s rest) input).waiters ≠ [] := by
      have hall := hparked rest.length (by omega)
      rwa [← hlength, List.take_length, run_concat] at hall
    have hle := run_instances_le P s rest
    have hstep := step_instances_le P (run P s rest) input
    rw [run_concat]
    constructor
    · intro hsame before after hinputs hreplaces
      rcases concat_eq_split hinputs with ⟨rfl, rfl, -⟩ | ⟨middle, -, hsplit⟩
      · have hcreated : instances (step P (run P s before) .turn).trace ≠ _ := hreplaces.created
        omega
      · exact hrest.mp (by omega) before middle hsplit hreplaces
    · intro hnone
      have hsame : instances (run P s rest).trace = instances s.trace := by
        refine hrest.mpr ?_
        intro before after hsplit
        exact hnone before (after ++ [input]) (by simp [hsplit])
      rw [← hsame]
      by_cases hturn : input = .turn
      · subst hturn
        by_contra hcreated
        exact hnone rest [] rfl (replaces_of_parked hlast hcreated)
      · exact step_instances_eq hturn

/-! ## Awaited exits -/

variable (P s) in
/-- A wait is accepted in `s` with a process held, and is parked from the first of the inputs to the
last. -/
structure Awaits (ticket : Ticket) (inputs : List (Input σ)) : Prop where
  accepted : s.due? = some (.request ticket .wait)
  held : s.pid P ≠ none
  begun : inputs.head? = none ∨ inputs.head? = some .turn
  parked : ∀ k < inputs.length, .wait ticket ∈ (run P s (inputs.take (k + 1))).waiters

/-- **The exit that a wait is told.**  The status was collected from the process that was created
last; this is the process the wait was parked for exactly when none was replaced meanwhile. -/
theorem awaited_exit {ticket : Ticket} {inputs : List (Input σ)} (h : Awaits P s ticket inputs)
    {status : ExitStatus} {later earlier : List Event}
    (htold : ((run P s inputs).turn P).trace =
      later ++ .answered ticket (.ok (.exited status)) :: earlier)
    (hnew : (run P s inputs).trace <:+ earlier) :
    Collected (instances (run P s inputs).trace) status earlier ∧
      (instances (run P s inputs).trace = instances s.trace ↔
        ∀ before after, inputs = before ++ .turn :: after → ¬ Replaces P (run P s before)) := by
  refine ⟨(turn_tells P _).collected htold hnew, run_instances_eq_iff inputs ?_⟩
  intro k hk
  exact List.ne_nil_of_mem (h.parked k hk)

/-- A process whose exit status is to be 256 has been launched, and a wait is queued. -/
def awaiting : Supervisor ScriptedProcess :=
  reached ScriptedProcess.platform (ScriptedProcess.spec .never)
    { script := { exit := ⟨256⟩ } } none [.send 0 .wait]

/-- The process is killed and replaced, and its replacement exits with the status 512. -/
def replacedBesideWait : List (Input ScriptedProcess) :=
  [.turn, .send 1 .kill, .turn, .send 2 .restart, .turn,
    .world fun p => { p with life := .dead, script := { p.script with exit := ⟨512⟩ } }, .elapse 20]

/-- **The wait is told the exit status of the replacement.** -/
theorem wait_told_of_replacement :
    instances awaiting.trace = 1 ∧
      (∃ earlier, ((run ScriptedProcess.platform awaiting replacedBesideWait).turn
          ScriptedProcess.platform).trace = .answered 0 (.ok (.exited ⟨512⟩)) :: earlier ∧
        Collected 2 ⟨512⟩ earlier) ∧
      ∃ before after, replacedBesideWait = before ++ .turn :: after ∧
        Replaces ScriptedProcess.platform (run ScriptedProcess.platform awaiting before) := by
  have hawaits : Awaits ScriptedProcess.platform awaiting 0 replacedBesideWait :=
    ⟨by decide, by decide, .inr rfl, by decide⟩
  have hfirst : instances awaiting.trace = 1 := by decide
  have hlast : instances (run ScriptedProcess.platform awaiting replacedBesideWait).trace = 2 := by
    decide
  have htold : ((run ScriptedProcess.platform awaiting replacedBesideWait).turn
      ScriptedProcess.platform).trace = [] ++ .answered 0 (.ok (.exited ⟨512⟩)) ::
        ((run ScriptedProcess.platform awaiting replacedBesideWait).turn
          ScriptedProcess.platform).trace.tail := rfl
  obtain ⟨hcollected, hiff⟩ := awaited_exit hawaits htold ⟨[.awaited (.ok (some ⟨512⟩))], rfl⟩
  rw [hlast] at hcollected hiff
  refine ⟨hfirst, ⟨_, rfl, hcollected⟩, ?_⟩
  by_contra hnone
  rw [hfirst] at hiff
  refine absurd (hiff.mpr ?_) (by decide)
  intro before after hinputs hreplaces
  exact hnone ⟨before, after, hinputs, hreplaces⟩

end Supervisor

end Overseer
