import Overseer.Proofs.Supervisor.Accounting
import Overseer.Proofs.Supervisor.Finality

/-!
# Whom a step answers, and how

The request itself, an exit check, a tick and the collection of a zombie may answer a restart.
Whichever does, a turn answers one restart at most: it launches for it, and the answer is the result
of that launch, or it tells the restart why it came to no launch.  Nobody is told that no process is
held but a request that needs one, as it is served.

* `Beside` -- what is done beside the restarts, who are told nothing by it;
* `RestartsOnce` -- one restart fails without a launch, or one launches, or none is answered;
  `Route.restartsOnce`, `restart_restartsOnce`, `handle_restartsOnce` and `onTick_restartsOnce` say
  that each part of a turn is of this kind; `RestartsOnce.of_made` -- what an answer is then;
* `turn_of_unheld` -- the turn of a request that finds no process;
* `Replies` -- the ways in which a step answers; `step_replies` -- every step goes so.
-/

namespace Overseer

/-- The answer is the result of a launch. -/
def Answer.isLaunched : Answer → Bool
  | .ok (.restarted _) | .error (.launch ..) | .error (.workingDirectory _) => true
  | _ => false

/-- The answer is that no process is held. -/
def Answer.isUnheld : Answer → Bool
  | .error (.noProcess _) => true
  | _ => false

/-- Why a restart comes to no launch: the process cannot be asked to end, its exit is not known,
another request is in the way, or the supervisor has ended. -/
def Error.isUnlaunched : Error → Bool
  | signal _ | wait _ | busy _ | gone _ => true
  | _ => false

/-- There is nothing to do for the request unless a process is held. -/
def Request.needsProcess : Request → Bool
  | stop | kill | signal _ | wait => true
  | _ => false

theorem Event.not_isLaunch_of_isCall {e : Event} (h : e.isCall = true) : e.isLaunch = false := by
  cases e <;> simp_all [isCall, isLaunch]

theorem Answer.of_isUnlaunched {e : Error} (h : e.isUnlaunched = true) :
    isLaunched (.error e) = false ∧ isUnheld (.error e) = false := by
  cases e <;> simp_all [Error.isUnlaunched, isLaunched, isUnheld]

/-- No launch results in that. -/
theorem Answer.held_of_isLaunched {reply : Answer} (h : isLaunched reply = true) :
    isUnheld reply = false := by
  cases reply with
  | ok => rfl
  | error e => cases e <;> simp_all [isLaunched, isUnheld]

namespace Supervisor

variable {σ : Type} {P : Platform σ} {s t u : Supervisor σ} {callers more : List Waiter}

/-- What is done beside the restarts: nobody is answered and nothing is launched, or a caller who
wants no restart is told anything but that no process is held. -/
inductive Beside (callers : List Waiter) : Event → Prop where
  | unanswered {e : Event} (h : e.answered? = none) (unlaunched : e.isLaunch = false) :
      Beside callers e
  | told {waiter : Waiter} {ticket : Ticket} {reply : Answer} (caller : waiter ∈ callers)
      (own : waiter.ticket? = some ticket) (other : waiter.isRestart = false)
      (held : Answer.isUnheld reply = false) : Beside callers (.answered ticket reply)

variable (P) in
/-- What comes of the restarts from `s` to `t`, when `callers` are those who may be answered. -/
inductive RestartsOnce (callers : List Waiter) (s t : Supervisor σ) : Prop where
  /-- No restart is answered. -/
  | unanswered (done : Adds (Beside callers) s t)
  /-- One fails, and nothing is launched. -/
  | failed {u : Supervisor σ} {ticket : Ticket} {e : Error} (asked : .restart ticket ∈ callers)
      (why : e.isUnlaunched = true) (before : Adds (Beside callers) s u)
      (after : Adds (Beside callers) (u.answer ticket (.error e)) t)
  /-- One launches, and is told what came of it. -/
  | launched {u : Supervisor σ} {ticket : Ticket} (asked : .restart ticket ∈ callers)
      (before : Adds (Beside callers) s u)
      (result : t = (u.relaunchNow P).2.answer ticket ((u.relaunchNow P).1.map .restarted))

theorem Beside.mono {e : Event} (h : Beside callers e) (hsub : callers ⊆ more) :
    Beside more e := by
  cases h with
  | unanswered h unlaunched => exact .unanswered h unlaunched
  | told caller own other held => exact .told (hsub caller) own other held

theorem Beside.not_isLaunch {e : Event} (h : Beside callers e) : e.isLaunch = false := by
  cases h with
  | unanswered _ unlaunched => exact unlaunched
  | told => rfl

theorem Adds.beside_mono (h : Adds (Beside callers) s t) (hsub : callers ⊆ more) :
    Adds (Beside more) s t :=
  h.mono fun _ he => he.mono hsub

theorem Adds.noLaunch (h : Adds (Beside callers) s t) : NoLaunch s t :=
  h.mono fun _ he => he.not_isLaunch

theorem Calls.beside (h : Calls s t) : Adds (Beside callers) s t :=
  h.adds.mono fun _ he =>
    .unanswered (Event.answered?_of_isCall he) (Event.not_isLaunch_of_isCall he)

namespace RestartsOnce

theorem mono (h : RestartsOnce P callers s t) (hsub : callers ⊆ more) :
    RestartsOnce P more s t := by
  cases h with
  | unanswered done => exact .unanswered (done.beside_mono hsub)
  | failed asked why before after =>
    exact .failed (hsub asked) why (before.beside_mono hsub) (after.beside_mono hsub)
  | launched asked before result => exact .launched (hsub asked) (before.beside_mono hsub) result

/-- What was done before was done beside the restarts. -/
theorem after (h : RestartsOnce P callers t u) (hst : Adds (Beside callers) s t) :
    RestartsOnce P callers s u := by
  cases h with
  | unanswered done => exact .unanswered (hst.trans done)
  | failed asked why before after => exact .failed asked why (hst.trans before) after
  | launched asked before result => exact .launched asked (hst.trans before) result

/-- With no restart among the callers none is answered. -/
theorem of_noRestart (h : RestartsOnce P callers s t)
    (hnone : ∀ ticket, .restart ticket ∉ callers) : Adds (Beside callers) s t := by
  cases h with
  | unanswered done => exact done
  | failed asked => exact absurd asked (hnone _)
  | launched asked => exact absurd asked (hnone _)

end RestartsOnce

/-! ## Settling -/

variable (P s) in
/-- The callers who only wait are told of the exit. -/
theorem told_beside (exit : Except String ExitStatus) :
    Adds (Beside s.waiters) s (s.told P exit) := by
  refine (nothingLeft_calls P s exit).beside.trans ⟨_, told_trace P s exit, ?_⟩
  intro e he
  rw [List.mem_reverse, List.mem_map] at he
  obtain ⟨ticket, hticket, rfl⟩ := he
  refine .told (mem_awaits.mp hticket) rfl rfl ?_
  cases exit <;> rfl

/-- The end of a deletion is told to the delete. -/
theorem finishDelete_beside {ticket : Option Ticket} {result : Except Error Unit}
    (wanted : .delete ticket ∈ callers)
    (held : Answer.isUnheld (result.map fun () => .done) = false) :
    Adds (Beside callers) s (s.finishDelete ticket result) := by
  refine (finishDelete_adds ticket result).mono ?_
  rintro _ ⟨asked, rfl, rfl⟩
  exact .told wanted rfl rfl held

/-- **Settling everybody answers one restart at most.** -/
theorem Route.restartsOnce (h : Route P s t) : RestartsOnce P s.waiters s t := by
  cases h with
  | calls h => exact .unanswered h.beside
  | @settled u exit h _ result =>
    have htold := told_beside P u exit
    rw [h.keeps.waiters] at htold
    have hrestart {ticket : Ticket} (hparked : parkedRestart? u.waiters = some ticket) :
        .restart ticket ∈ s.waiters := h.keeps.waiters ▸ parkedRestart?_mem hparked
    have hsettles := resolveWaiters_settles P u exit
    rw [← result] at hsettles
    cases hsettles with
    | nobody _ result => rw [result]; exact .unanswered h.beside
    | waits _ _ _ result => rw [result]; exact .unanswered (h.beside.trans htold)
    | relaunched ticket _ parked _ result =>
      exact .launched (hrestart parked) (h.beside.trans htold) result
    | refused ticket _ parked gone result =>
      cases exit with
      | ok status => cases gone
      | error reason =>
        have hwhy : (u.waitFailure reason).isUnlaunched = true := rfl
        refine .failed (hrestart parked) hwhy (h.beside.trans htold) ?_
        rw [result]
        exact .of_trace_eq rfl
    | deleted ticket parked result =>
      have hwanted : .delete ticket ∈ s.waiters := h.keeps.waiters ▸ parkedDelete?_mem parked
      have hheld : Answer.isUnheld ((if (u.nothingLeft P exit).1 then .ok ()
          else (exit.mapError u.waitFailure).map fun _ => ()).map fun () => .done) = false := by
        split
        · rfl
        · cases exit <;> rfl
      split at result
      · next restart hparked =>
        have hwhy : (Error.gone u.spec.name).isUnlaunched = true := rfl
        refine .failed (hrestart hparked) hwhy (h.beside.trans htold) ?_
        rw [result]
        exact finishDelete_beside hwanted hheld
      · rw [result]
        exact .unanswered ((h.beside.trans htold).trans (finishDelete_beside hwanted hheld))

/-! ## Requests -/

variable (P) (s)

theorem park_restartsOnce (waiter : Waiter) :
    RestartsOnce P (s.waiters ++ [waiter]) s (s.park P waiter) :=
  (park_route P s waiter).restartsOnce.after (.of_trace_eq rfl)

/-- The process is asked to end, or the signal is refused, if one is held. -/
theorem stopGraceful_cases (held : s.pid P ≠ none) :
    (s.stopGraceful P).1 = .ok () ∨ ∃ reason, (s.stopGraceful P).1 = .error (.signal reason) := by
  unfold stopGraceful
  split
  · next hfree => exact absurd hfree held
  · split
    · exact .inr ⟨_, rfl⟩
    · exact .inl rfl

theorem delete_restartsOnce (ticket : Option Ticket) :
    RestartsOnce P (s.waiters ++ [.delete ticket]) s (s.delete P ticket) := by
  have hwanted : Waiter.delete ticket ∈ s.waiters ++ [.delete ticket] := by simp
  have hasked := stopGraceful_calls P s
  cases delete_deletes P s ticket with
  | busy _ result =>
    rcases result with ⟨-, result⟩ | ⟨refused, rfl, result⟩ <;> rw [result]
    · exact .unanswered (.of_trace_eq rfl)
    · exact .unanswered (.cons rfl (.told hwanted rfl rfl rfl))
  | parked _ _ result =>
    have hpark := park_restartsOnce P (s.stopGraceful P).2 (.delete ticket)
    rw [hasked.keeps.waiters] at hpark
    rw [result]
    exact hpark.after hasked.beside
  | forced _ outcome result told =>
    obtain ⟨graceful, told⟩ := told
    have hforced := hasked.trans (stopForced_calls P (s.stopGraceful P).2)
    rw [result]
    refine .unanswered (hforced.beside.trans (finishDelete_beside hwanted ?_))
    rw [told]
    cases ((s.stopGraceful P).2.stopForced P).1 <;> rfl

/-- **A restart answers itself, or nobody.** -/
theorem restart_restartsOnce (ticket : Ticket) :
    RestartsOnce P (s.waiters ++ [.restart ticket]) s (s.restart P ticket) := by
  have hown : Waiter.restart ticket ∈ s.waiters ++ [.restart ticket] := by simp
  have hsub : s.waiters ⊆ s.waiters ++ [.restart ticket] := List.subset_append_left _ _
  have hnotice := noticeExit_route P s
  have hasked := stopGraceful_calls P (s.noticeExit P)
  -- With no restart parked the callers that are settled at first only wait.
  have hfirst (first : s.waiters.any (fun waiter => !waiter.isWait) = false) :
      Adds (Beside (s.waiters ++ [.restart ticket])) s (s.noticeExit P) := by
    refine (hnotice.restartsOnce.of_noRestart fun other hmem => ?_).beside_mono hsub
    rw [List.any_eq_false] at first
    exact first _ hmem rfl
  cases restart_restarts P s ticket with
  | busy _ result => rw [result]; exact .failed hown rfl (.of_trace_eq rfl) (.of_trace_eq rfl)
  | parked first _ result =>
    have hpark := park_restartsOnce P ((s.noticeExit P).stopGraceful P).2 (.restart ticket)
    have hcallers : ((s.noticeExit P).stopGraceful P).2.waiters ++ [Waiter.restart ticket] ⊆
        s.waiters ++ [Waiter.restart ticket] := by
      rw [hasked.keeps.waiters]
      rcases hnotice.waiters with hsame | hnobody
      · rw [hsame]
        exact List.Subset.refl _
      · rw [hnobody]
        exact List.subset_append_right _ _
    rw [result]
    exact (hpark.mono hcallers).after ((hfirst first).trans hasked.beside)
  | relaunched first _ result => exact .launched hown (hfirst first) result
  | refused first e result refusal held =>
    have hwhy : e.isUnlaunched = true := by
      rcases stopGraceful_cases P (s.noticeExit P) held with hok | ⟨reason, hsignal⟩
      · rw [hok] at refusal
        cases refusal
      · rw [hsignal] at refusal
        cases refusal
        rfl
    refine .failed hown hwhy ((hfirst first).trans hasked.beside) ?_
    rw [result]
    exact .of_trace_eq rfl

/-- **With a process held** the stops do not find that none is. -/
theorem stops_held (held : s.pid P ≠ none) (signal : Signal) :
    Answer.isUnheld ((s.stopGraceful P).1.map fun () => .done) = false ∧
      Answer.isUnheld ((s.stopForced P).1.map fun () => .done) = false ∧
      Answer.isUnheld ((s.sendSignal P signal).1.map fun () => .done) = false := by
  obtain ⟨pid, hpid⟩ := Option.ne_none_iff_exists'.mp held
  refine ⟨?_, ?_, ?_⟩
  · rcases stopGraceful_cases P s held with h | ⟨reason, h⟩ <;> rw [h] <;> rfl
  · simp only [stopForced, hpid]
    split
    · rfl
    · split <;> rfl
  · simp only [sendSignal, hpid]
    split <;> rfl

/-- A plain request is calls and an answer, which is not that no process is held if one is. -/
theorem handle_plain_held {request : Request} (plain : request.isPlain = true)
    (held : request.needsProcess = true → s.pid P ≠ none) (ticket : Ticket) :
    ∃ u reply, Calls s u ∧ s.handle P ticket request = u.answer ticket reply ∧
      Answer.isUnheld reply = false := by
  cases request with
  | pid => exact ⟨s, _, .refl s, rfl, rfl⟩
  | startTime => exact ⟨s, _, .refl s, rfl, rfl⟩
  | status => exact ⟨_, _, observe_calls P s, rfl, rfl⟩
  | isAlive => exact ⟨_, _, isAlive_calls P s, rfl, rfl⟩
  | restartsRemaining => exact ⟨s, _, .refl s, rfl, rfl⟩
  | stop => exact ⟨_, _, stopGraceful_calls P s, rfl, (stops_held P s (held rfl) .term).1⟩
  | kill => exact ⟨_, _, stopForced_calls P s, rfl, (stops_held P s (held rfl) .term).2.1⟩
  | signal signal =>
    exact ⟨_, _, sendSignal_calls P s signal, rfl, (stops_held P s (held rfl) signal).2.2⟩
  | restart | wait | delete => cases plain

/-- **A request answers one restart at most.** -/
theorem handle_restartsOnce (ticket : Ticket) (request : Request)
    (held : request.needsProcess = true → s.pid P ≠ none) :
    RestartsOnce P (s.waiters ++ [request.caller ticket]) s (s.handle P ticket request) := by
  by_cases hplain : request.isPlain = true
  · obtain ⟨u, reply, hcalls, hresult, hheld⟩ := handle_plain_held P s hplain held ticket
    have hother : (request.caller ticket).isRestart = false := by
      cases request with
      | restart => cases hplain
      | _ => rfl
    rw [hresult]
    refine .unanswered (hcalls.beside.trans (.cons rfl ?_))
    exact .told (List.mem_append_right _ (List.mem_singleton.mpr rfl))
      (Request.caller_ticket? ticket request) hother hheld
  · cases request with
    | restart => exact restart_restartsOnce P s ticket
    | delete => exact delete_restartsOnce P s (some ticket)
    | wait =>
      rcases wait_cases P s ticket with ⟨hfree, -⟩ | ⟨-, hresult⟩
      · exact absurd hfree (held rfl)
      · rw [hresult]
        exact park_restartsOnce P s (.wait ticket)
    | _ => exact absurd rfl hplain

/-! ## Turns -/

theorem noted_beside : Adds (Beside callers) s (s.noted P) :=
  (observe_calls P s).beside.trans ((noted_adds P s).mono fun _ he =>
    .unanswered (Event.answered?_of_isTick he) (Event.not_isLaunch_of_isTick he))

/-- **A tick answers one restart at most.** -/
theorem onTick_restartsOnce : RestartsOnce P s.waiters s (s.onTick P) := by
  cases hlive : s.watchdog.cancelled with
  | true =>
    cases onTick_ticks P s with
    | stopped _ result => rw [result]; exact .unanswered (observe_calls P s).beside
    | terminated live | zombie live | quiet live => rw [hlive] at live; cases live
  | false =>
    have hroute := (tick_route P s hlive).restartsOnce
    rw [noted_waiters] at hroute
    exact hroute.after (noted_beside P s)

theorem onDetached_restartsOnce :
    RestartsOnce P (s.waiters ++ [.delete none]) s (s.onDetached P) := by
  unfold onDetached
  dsimp only
  split
  · exact (delete_restartsOnce P { s with detached := true } none).after (.of_trace_eq rfl)
  · exact .unanswered (.of_trace_eq rfl)

variable {P s}

/-- **An occasion answers one restart at most**, unless it ends the loop, launches what is scheduled,
or finds no process for its request. -/
theorem serve_restartsOnce {occasion : Occasion} (hend : occasion ≠ .cancelled)
    (hrelaunch : occasion ≠ .relaunch)
    (held : ∀ ticket request, occasion = .request ticket request →
      request.needsProcess = true → s.pid P ≠ none) :
    RestartsOnce P (s.audience occasion) s (s.serve P occasion) := by
  cases occasion with
  | cancelled => exact absurd rfl hend
  | relaunch => exact absurd rfl hrelaunch
  | request ticket request =>
    exact (handle_restartsOnce P { s with queue := s.queue.tail } ticket request
      (held ticket request rfl)).after (.of_trace_eq rfl)
  | detached => exact onDetached_restartsOnce P s
  | exitCheck => exact (checkWaiters_route P s).restartsOnce
  | tick => exact (onTick_restartsOnce P (s.opened .tick)).after (.of_trace_eq rfl)

/-- With no process held there is nothing to do for a request that needs one. -/
theorem handle_unheld {request : Request} (needs : request.needsProcess = true)
    (free : s.pid P = none) (ticket : Ticket) :
    s.handle P ticket request = s.answer ticket (.error s.noProcess) := by
  cases request with
  | stop => simp only [handle, stopGraceful, free]; rfl
  | kill => simp only [handle, stopForced, free]; rfl
  | signal signal => simp only [handle, sendSignal, free]; rfl
  | wait => simp only [handle, free]
  | _ => cases needs

/-- **The turn of a request that finds no process**, as a whole: it takes the request off the queue,
answers it, and sets the exit check anew, as every turn does. -/
theorem turn_of_unheld {ticket : Ticket} {request : Request}
    (due : s.due? = some (.request ticket request)) (needs : request.needsProcess = true)
    (free : s.pid P = none) : s.turn P = { s with
      queue := s.queue.tail
      exitCheck := if s.waiters.isEmpty then none else some (s.now + exitPollInterval)
      trace := .answered ticket (.error (.noProcess s.spec.name)) :: s.trace } := by
  have hserve : s.serve P (.request ticket request) =
      { s with queue := s.queue.tail }.answer ticket (.error s.noProcess) :=
    handle_unheld (s := { s with queue := s.queue.tail }) needs free ticket
  rw [turn_eq due, hserve]
  rfl

variable (P) in
/-- The ways in which the step that takes an input goes from `s` to `t`, as far as anybody is
answered. -/
inductive Replies (s : Supervisor σ) (input : Input σ) (t : Supervisor σ) : Prop where
  /-- Callers are told at most that the supervisor has ended. -/
  | dismissed (done : Dismisses s t)
  /-- A relaunch that was scheduled is attempted, and nobody is answered. -/
  | scheduled (due : s.due? = some .relaunch) (once : t.launches = s.launches + 1)
      (done : Adds (fun e => e.answered? = none) s t)
  /-- A request finds that no process is held. -/
  | unheld {ticket : Ticket} {request : Request} (turned : input = .turn)
      (due : s.due? = some (.request ticket request)) (needs : request.needsProcess = true)
      (free : s.pid P = none)
      (done : t.trace = .answered ticket (.error (.noProcess s.spec.name)) :: s.trace)
  /-- An occasion is dealt with, and one restart is answered at most. -/
  | served {occasion : Occasion} {u : Supervisor σ} (due : s.due? = some occasion)
      (once : RestartsOnce P (s.audience occasion) s u) (result : t = u.rearm)

variable (P s) in
theorem turn_replies : Replies P s .turn (s.turn P) := by
  cases hdue : s.due? with
  | none =>
    rw [turn_of_idle hdue]
    exact .dismissed (.of_trace_eq rfl)
  | some occasion =>
    by_cases hend : occasion = .cancelled
    · subst hend
      rw [turn_eq hdue]
      refine .dismissed (finish_adds.mono ?_)
      rintro _ ⟨ticket, rfl⟩
      exact ⟨ticket, _, rfl⟩
    · by_cases hrelaunch : occasion = .relaunch
      · subst hrelaunch
        obtain ⟨-, -, hpending⟩ := due?_eq_relaunch.mp hdue
        obtain ⟨honce, -, -⟩ := relaunch_launches (P := P) hpending
        rw [turn_eq hdue]
        refine .scheduled hdue honce ?_
        rw [serve, relaunch_of_pending P s hpending]
        exact launch_unanswered P { s with watchdog := s.watchdog.takeRestart.2 }
      · by_cases hunheld : ∃ ticket request, occasion = .request ticket request ∧
          request.needsProcess = true ∧ s.pid P = none
        · obtain ⟨ticket, request, rfl, needs, free⟩ := hunheld
          exact .unheld rfl hdue needs free
            (congrArg Supervisor.trace (turn_of_unheld hdue needs free))
        · refine .served hdue (serve_restartsOnce hend hrelaunch ?_) (turn_eq hdue)
          intro ticket request hrequest needs free
          exact hunheld ⟨ticket, request, hrequest, needs, free⟩

variable (P s) in
/-- **Every step goes so.** -/
theorem step_replies (input : Input σ) : Replies P s input (step P s input) := by
  by_cases hturn : input = .turn
  · rw [hturn]
    exact turn_replies P s
  · refine .dismissed ((step_adds P s hturn).mono ?_)
    rintro _ ⟨ticket, rfl⟩
    exact ⟨ticket, _, rfl⟩

/-! ## Answers -/

variable (P s) in
theorem launch_isLaunched : Answer.isLaunched ((s.launch P).1.map .restarted) = true := by
  have hresult : (s.launch P).1 = (s.attemptLaunch P).1 := rfl
  rw [hresult]
  unfold attemptLaunch
  split
  · rfl
  · split <;> rfl

variable (P s) in
/-- Launching at once is a launch, perhaps after a release. -/
theorem relaunchNow_eq : ∃ u : Supervisor σ, s.trace <:+ u.trace ∧
    s.relaunchNow P = u.launch P := by
  refine ⟨{ (if (s.pid P).isSome then (s.release P).2 else s) with
    watchdog := (if (s.pid P).isSome then (s.release P).2 else s).watchdog.takeRestart.2 }, ?_, rfl⟩
  dsimp only
  split
  · exact List.suffix_cons _ _
  · exact List.suffix_rfl

variable (P s) in
theorem relaunchNow_isLaunched :
    Answer.isLaunched ((s.relaunchNow P).1.map .restarted) = true := by
  obtain ⟨u, -, hlaunch⟩ := relaunchNow_eq P s
  rw [hlaunch]
  exact launch_isLaunched P u

/-- A restart that fails comes to no launch. -/
theorem noLaunch_of_failed {ticket : Ticket} {reply : Answer} (before : Adds (Beside callers) s u)
    (after : Adds (Beside callers) (u.answer ticket reply) t) : NoLaunch s t :=
  (before.noLaunch.trans (.cons rfl rfl)).trans after.noLaunch

/-- What is answered is told beside the restarts, or to one that fails, or to one that launches. -/
theorem RestartsOnce.of_made (h : RestartsOnce P callers s t) {ticket : Ticket} {reply : Answer}
    (made : Made (.answered ticket reply) s t) :
    Beside callers (.answered ticket reply) ∨
      (∃ e, e.isUnlaunched = true ∧ reply = .error e ∧ NoLaunch s t) ∨
      ∃ u, Adds (Beside callers) s u ∧ reply = (u.relaunchNow P).1.map .restarted ∧
        t = (u.relaunchNow P).2.answer ticket ((u.relaunchNow P).1.map .restarted) := by
  cases h with
  | unanswered done => exact .inl (done.of_made made)
  | @failed u told e asked why before after =>
    have hall : Adds (fun event => Beside callers event ∨ event = .answered told (.error e)) s t :=
      ((before.mono fun _ he => .inl he).trans (.cons rfl (.inr rfl))).trans
        (after.mono fun _ he => .inl he)
    refine (hall.of_made made).imp_right fun h => .inl ?_
    obtain ⟨-, rfl⟩ := Event.answered.inj h
    exact ⟨e, why, rfl, noLaunch_of_failed before after⟩
  | @launched u told asked before result =>
    have hall : Adds (fun event => Beside callers event ∨ event.answered? = none ∨
        event = .answered told ((u.relaunchNow P).1.map .restarted)) s t := by
      rw [result]
      refine ((before.mono fun _ he => .inl he).trans
        ((relaunchNow_unanswered P u).mono fun _ he => .inr (.inl he))).trans (.cons rfl ?_)
      exact .inr (.inr rfl)
    rcases hall.of_made made with h | h | h
    · exact .inl h
    · cases h
    · obtain ⟨rfl, rfl⟩ := Event.answered.inj h
      exact .inr (.inr ⟨u, before, rfl, result⟩)

end Supervisor

end Overseer
