import Overseer.Proofs.Supervisor.Conservation
import Overseer.Proofs.Supervisor.Finality
import Overseer.Proofs.Supervisor.StopWindow
import Overseer.Shutdown

/-!
# What shutting down leaves behind

The caller who shuts a supervision down goes on whenever it likes, and meanwhile anything may happen
to the supervisor.

* `Move`, `play` -- the caller and the supervisor side by side;
* `Ahead` -- the delete is queued, and the kill is not served before it; `Underway` -- what holds
  from the moment at which the deletion is asked for; `Underway.act` -- every move leaves it so;
* `shutdown_final` -- once the caller has returned no process is asked for, but for a relaunch that
  is scheduled beside the parked delete.
-/

namespace Overseer

open Supervisor

variable {σ : Type} {P : Platform σ} {s t : Supervisor σ} {d k : Ticket}

namespace Supervisor

/-! ## The delete before the kill -/

/-- The delete is queued, and the kill is neither queued ahead of it nor parked nor answered. -/
def Ahead (d k : Ticket) (s : Supervisor σ) : Prop :=
  taken k s = 0 ∧ ∃ ahead behind, s.queue = ahead ++ (d, .delete) :: behind ∧
    k ∉ ahead.map Prod.fst

theorem Ahead.turn (hs : Ahead d k s) (hone : OneStop s.waiters) :
    Ending (s.turn P) ∨ Ahead d k (s.turn P) := by
  obtain ⟨htaken, ahead, behind, hqueue, hnotAhead⟩ := hs
  cases hdue : s.due? with
  | none => rw [turn_of_idle hdue]; exact .inr ⟨htaken, ahead, behind, hqueue, hnotAhead⟩
  | some occasion =>
    by_cases hend : occasion = .cancelled
    · subst hend
      rw [turn_eq hdue]
      exact .inl (.inr finish_stopped)
    · have hqueue' := turn_queue (P := P) hdue hend
      obtain ⟨tickets, htakes, hqueued⟩ := serve_takes P hone hdue hend
      have hsame : taken k (s.turn P) = taken k s + tickets.count k := by
        rw [← htakes.2 k, turn_eq hdue]
        rfl
      cases occasion with
      | request ticket request =>
        have hhead := queue_of_due hdue
        have htail : (s.turn P).queue = s.queue.tail := hqueue'
        cases ahead with
        | nil =>
          -- The delete is the oldest request, and is served.
          rw [List.nil_append] at hqueue
          rw [hqueue] at hhead
          obtain ⟨rfl, rfl⟩ : d = ticket ∧ Request.delete = request := by simpa using hhead
          left
          rw [turn_eq hdue]
          exact .inl (delete_begins (s := { s with queue := s.queue.tail }) (some d))
        | cons first rest =>
          rw [List.cons_append] at hqueue
          rw [hqueue] at hhead
          obtain rfl : first = (ticket, request) := (List.cons.inj hhead).1
          have hother : k ≠ ticket ∧ k ∉ rest.map Prod.fst := by simpa using hnotAhead
          have hserved : tickets = [ticket] := by
            have hqueued' : ticket :: queuedTickets (s.opened (.request ticket request)) =
                tickets ++ queuedTickets (s.opened (.request ticket request)) := by
              rw [← hqueued]
              show ticket :: (s.queue.tail.map Prod.fst) = s.queue.map Prod.fst
              rw [hqueue]
              rfl
            exact (List.append_cancel_right hqueued').symm
          have hnone : tickets.count k = 0 := by
            rw [hserved, List.count_eq_zero, List.mem_singleton]
            exact hother.1
          refine .inr ⟨by omega, rest, behind, ?_, hother.2⟩
          rw [htail, hqueue]
          rfl
      | cancelled => exact absurd rfl hend
      | relaunch | detached | exitCheck | tick =>
        have hnobody : tickets = [] := List.append_cancel_right (hqueued.symm.trans rfl)
        have hnone : tickets.count k = 0 := by rw [hnobody]; rfl
        exact .inr ⟨by omega, ahead, behind, hqueue'.trans hqueue, hnotAhead⟩

theorem Ahead.step (hs : Ahead d k s) (hone : OneStop s.waiters) (input : Input σ) :
    Ending (step P s input) ∨ Ahead d k (step P s input) := by
  cases input with
  | turn => exact hs.turn hone
  | send ticket request =>
    obtain ⟨htaken, ahead, behind, hqueue, hnotAhead⟩ := hs
    cases hrunning : s.running with
    | true =>
      have hstep : Supervisor.step P s (.send ticket request) =
          { s with queue := s.queue ++ [(ticket, request)] } := by
        simp [Supervisor.step, send, hrunning]
      rw [hstep]
      refine .inr ⟨htaken, ahead, behind ++ [(ticket, request)], ?_, hnotAhead⟩
      simp [hqueue]
    | false =>
      left
      right
      rw [step_frame P s (by simp)]
      exact hrunning
  | _ => exact .inr hs

/-! ## What has become of a request -/

/-- Of a ticket under which nothing was sent nothing is known. -/
theorem unknown_of_requests (h : requests k s = 0) :
    taken k s = 0 ∧ k ∉ s.queue.map Prod.fst ∧ ∀ reply, .answered k reply ∉ s.trace := by
  have hqueued : (queuedTickets s).count k = 0 := by
    unfold requests at h
    omega
  have hanswered : (answeredTickets s.trace).count k = 0 := by
    unfold requests taken at h
    omega
  refine ⟨by unfold requests at h; omega, List.count_eq_zero.mp hqueued, ?_⟩
  intro reply hmem
  exact List.count_eq_zero.mp hanswered (List.mem_filterMap.mpr ⟨_, hmem, rfl⟩)

variable (P) in
/-- There is no request under a ticket under which nothing was sent. -/
theorem requests_of_fresh (spec : Spec) (system : σ) (sink : Option Sink) {inputs : List (Input σ)}
    (fresh : ∀ input ∈ inputs, input.sent? ≠ some k) :
    requests k (reached P spec system sink inputs) = 0 := by
  rw [(requests_reached P spec system sink inputs).2 k, List.count_eq_zero]
  intro hmem
  obtain ⟨input, hinput, hsent⟩ := List.mem_filterMap.mp hmem
  exact fresh input hinput hsent

theorem taken_of_answered {reply : Answer} (h : .answered k reply ∈ s.trace) : taken k s ≠ 0 := by
  have hanswered : 0 < (answeredTickets s.trace).count k :=
    List.count_pos_iff.mpr (List.mem_filterMap.mpr ⟨_, h, rfl⟩)
  unfold taken
  omega

/-- A delete that is answered that all went well has cancelled the supervision. -/
theorem step_told (hs : OnlyDelete d s)
    (htold : ∀ reply, .answered d (.ok reply) ∈ s.trace → s.cancelled = true) (input : Input σ)
    (reply : Reply) (h : .answered d (.ok reply) ∈ (step P s input).trace) :
    (step P s input).cancelled = true := by
  rcases mem_or_made h (step_suffix P s input) with hbefore | hmade
  · exact (step_of_cancelled P (htold reply hbefore) input).1
  · by_cases hturn : input = .turn
    · subst hturn
      by_cases hdue : s.due? = some .cancelled
      · have hresult : Supervisor.step P s .turn = s.finish.rearm := turn_eq hdue
        rw [hresult] at hmade
        obtain ⟨ticket, hgone⟩ := finish_adds.of_made (t := s.finish) hmade
        cases hgone
      · obtain ⟨later, earlier, hsplit, hnew⟩ := hmade
        obtain ⟨u, result, hcancelled, -, hresult, -⟩ :=
          turn_answers_delete hs hdue hsplit hnew rfl
        rw [step, hresult]
        exact hcancelled
    · obtain ⟨ticket, hgone⟩ := (step_adds P s hturn).of_made hmade
      cases hgone

end Supervisor

namespace Shutdown

/-! ## The caller and the supervisor side by side -/

/-- What was answered to a ticket last. -/
def answerTo? (trace : List Event) (ticket : Ticket) : Option Answer :=
  trace.findSome? fun e =>
    match e with
    | .answered other answer => if other = ticket then some answer else none
    | _ => none

theorem answered_of_answerTo? {trace : List Event} {ticket : Ticket} {answer : Answer}
    (h : answerTo? trace ticket = some answer) : .answered ticket answer ∈ trace := by
  obtain ⟨e, hmem, he⟩ := List.exists_of_findSome?_eq_some h
  split at he
  · next other found =>
    split at he
    · next hsame =>
      obtain rfl : found = answer := Option.some.inj he
      rwa [← hsame]
    · cases he
  · cases he

/-- What may happen while the supervision is shut down. -/
inductive Move (σ : Type) where
  /-- Something happens to the supervisor. -/
  | input (input : Input σ)
  /-- The caller goes on, if it can. -/
  | resume

variable (P) in
/-- One move.  The caller asks for the kill under the ticket `k`. -/
def act (k : Ticket) : Shutdown × Supervisor σ → Move σ → Shutdown × Supervisor σ
  | (caller, s), .input input => (caller, step P s input)
  | (caller, s), .resume => caller.resume s (answerTo? s.trace) k

variable (P) in
/-- Any number of moves. -/
def play (k : Ticket) (c : Shutdown × Supervisor σ) (moves : List (Move σ)) :
    Shutdown × Supervisor σ :=
  moves.foldl (act P k) c

/-- What holds of the supervisor from the moment at which the deletion is asked for under `d`. -/
structure Underway (P : Platform σ) (spec : Spec) (system : σ) (sink : Option Sink) (d k : Ticket)
    (s : Supervisor σ) : Prop where
  reachable : ∃ script, s = reached P spec system sink script
  deletes : OnlyDelete d s
  told : ∀ reply, .answered d (.ok reply) ∈ s.trace → s.cancelled = true
  served : Ending s ∨ Ahead d k s

/-- How far the caller has come: it awaits one of its two answers, or has returned, and then the
delete is on its way to the end, and only a kill that succeeded has left the supervision
uncancelled. -/
def Awaiting (d k : Ticket) (s : Supervisor σ) : Shutdown → Prop
  | .deleting ticket _ => ticket = d
  | .killing ticket => ticket = k
  | .returned result => Ending s ∧ (s.cancelled = true ∨
      result = .ok () ∧ ∃ reply, .answered k (.ok reply) ∈ s.trace)

variable {spec : Spec} {system : σ} {sink : Option Sink}

theorem Underway.step (hs : Underway P spec system sink d k s) (input : Input σ)
    (own : ∀ request, input = .send d request → request = .delete) :
    Underway P spec system sink d k (step P s input) := by
  obtain ⟨⟨script, hscript⟩, hdeletes, htold, hserved⟩ := hs
  have hone : OneStop s.waiters := by
    rw [hscript]
    exact (requests_reached P spec system sink script).1
  refine ⟨⟨script ++ [input], ?_⟩, hdeletes.step own, step_told hdeletes htold input, ?_⟩
  · rw [reached_concat, ← hscript]
  · rcases hserved with hending | hahead
    · exact .inl (hending.step input)
    · exact hahead.step hone input

theorem Awaiting.step {caller : Shutdown} (h : Awaiting d k s caller) (input : Input σ) :
    Awaiting d k (Supervisor.step P s input) caller := by
  cases caller with
  | deleting ticket deadline => exact h
  | killing ticket => exact h
  | returned result =>
    obtain ⟨hending, hleft⟩ := h
    refine ⟨hending.step input, ?_⟩
    rcases hleft with hcancelled | ⟨hresult, reply, hmem⟩
    · exact .inl (step_of_cancelled P hcancelled input).1
    · exact .inr ⟨hresult, reply, (step_suffix P s input).subset hmem⟩

/-- A caller who is answered returns. -/
theorem conclude_awaiting (hs : Underway P spec system sink d k s) {answer : Answer}
    (hok : ∀ reply, answer = .ok reply → Ending s ∧ (s.cancelled = true ∨
      ∃ reply, .answered k (.ok reply) ∈ s.trace)) :
    Underway P spec system sink d k (conclude s answer).2 ∧
      Awaiting d k (conclude s answer).2 (conclude s answer).1 := by
  cases answer with
  | ok reply =>
    obtain ⟨hending, hleft⟩ := hok reply rfl
    exact ⟨hs, hending, hleft.imp id fun h => ⟨rfl, h⟩⟩
  | error e =>
    have hcancel := hs.step .cancel (by simp)
    exact ⟨hcancel, .inl (.inr rfl), .inl rfl⟩

/-- **Every move leaves it so.** -/
theorem act_underway (distinct : d ≠ k) {caller : Shutdown} (move : Move σ)
    (own : ∀ request, move = .input (.send d request) → request = .delete)
    (hs : Underway P spec system sink d k s) (hc : Awaiting d k s caller) :
    Underway P spec system sink d k (act P k (caller, s) move).2 ∧
      Awaiting d k (act P k (caller, s) move).2 (act P k (caller, s) move).1 := by
  cases move with
  | input input =>
    refine ⟨hs.step input ?_, hc.step input⟩
    rintro request rfl
    exact own request rfl
  | resume =>
    cases caller with
    | returned result => exact ⟨hs, hc⟩
    | deleting ticket deadline =>
      obtain rfl : ticket = d := hc
      unfold act resume
      dsimp only
      split
      · next answer hanswer =>
        refine conclude_awaiting hs ?_
        rintro reply rfl
        have hcancelled := hs.told reply (answered_of_answerTo? hanswer)
        exact ⟨.inl (.inr hcancelled), .inl hcancelled⟩
      · split
        · refine ⟨hs.step (.send k .kill) ?_, rfl⟩
          intro request hsame
          obtain ⟨hsame, -⟩ := Input.send.inj hsame
          exact absurd hsame.symm distinct
        · exact ⟨hs, rfl⟩
    | killing ticket =>
      obtain rfl : ticket = k := hc
      unfold act resume
      dsimp only
      split
      · next answer hanswer =>
        have hmem := answered_of_answerTo? hanswer
        refine conclude_awaiting hs ?_
        rintro reply rfl
        -- The kill is answered, so that the delete was served before it.
        have hending : Ending s := by
          rcases hs.served with hending | ⟨hnone, -⟩
          · exact hending
          · exact absurd hnone (taken_of_answered hmem)
        exact ⟨hending, .inr ⟨reply, hmem⟩⟩
      · exact ⟨hs, rfl⟩

variable (P spec system sink) in
/-- So it is when the deletion is asked for. -/
theorem begin_underway {inputs : List (Input σ)}
    (fresh : ∀ input ∈ inputs, input.sent? ≠ some d ∧ input.sent? ≠ some k) :
    Underway P spec system sink d k
      (Shutdown.begin (reached P spec system sink inputs) d).2 := by
  obtain ⟨-, -, hnever⟩ := unknown_of_requests
    (requests_of_fresh P spec system sink fun input h => (fresh input h).1)
  obtain ⟨htaken, hqueued, -⟩ := unknown_of_requests
    (requests_of_fresh P spec system sink fun input h => (fresh input h).2)
  have hbegun : (Shutdown.begin (reached P spec system sink inputs) d).2 =
      step P (reached P spec system sink inputs) (.send d .delete) := rfl
  have honly : OnlyDelete d (reached P spec system sink inputs) := by
    refine .of_reached P spec system sink ?_
    intro request hmem
    exact absurd rfl (fresh _ hmem).1
  rw [hbegun]
  refine ⟨⟨inputs ++ [.send d .delete], (reached_concat spec system sink inputs _).symm⟩,
    honly.step ?_, step_told honly ?_ _, ?_⟩
  · intro request hsame
    exact (Input.send.inj hsame).2.symm
  · intro reply hmem
    exact absurd hmem (hnever _)
  · cases hrunning : (reached P spec system sink inputs).running with
    | true =>
      have hstep : step P (reached P spec system sink inputs) (.send d .delete) =
          { reached P spec system sink inputs with
            queue := (reached P spec system sink inputs).queue ++ [(d, .delete)] } := by
        simp [step, send, hrunning]
      rw [hstep]
      exact .inr ⟨htaken, (reached P spec system sink inputs).queue, [], rfl, hqueued⟩
    | false =>
      left
      right
      rw [step_frame P _ (by simp)]
      exact hrunning

/-- **So it is however the caller and the supervisor go on.** -/
theorem play_underway (distinct : d ≠ k) {moves : List (Move σ)}
    (own : ∀ input, .input input ∈ moves → input.sent? ≠ some d) {c : Shutdown × Supervisor σ}
    (hs : Underway P spec system sink d k c.2) (hc : Awaiting d k c.2 c.1) :
    Underway P spec system sink d k (play P k c moves).2 ∧
      Awaiting d k (play P k c moves).2 (play P k c moves).1 := by
  induction moves generalizing c with
  | nil => exact ⟨hs, hc⟩
  | cons move rest ih =>
    have hact := act_underway distinct move ?_ hs hc
    · refine ih ?_ hact.1 hact.2
      exact fun input hmem => own input (List.mem_cons_of_mem move hmem)
    · rintro request rfl
      exact absurd rfl (own _ List.mem_cons_self)

/-- **What shutting down leaves behind.**  Once the caller has returned, no process is asked for
again, but for a relaunch that a tick has scheduled beside the parked delete, which brings the
process back; and that only when the deletion took too long and the kill succeeded. -/
theorem shutdown_final (P : Platform σ) (spec : Spec) (system : σ) (sink : Option Sink)
    {inputs : List (Input σ)} {moves : List (Move σ)} {d k : Ticket} {result : Except Error Unit}
    {s : Supervisor σ} (distinct : d ≠ k)
    (fresh : ∀ input ∈ inputs, input.sent? ≠ some d ∧ input.sent? ≠ some k)
    (own : ∀ input, .input input ∈ moves → input.sent? ≠ some d)
    (returned : play P k (Shutdown.begin (reached P spec system sink inputs) d) moves =
      (.returned result, s)) :
    ∃ script, s = reached P spec system sink script ∧
      (s.cancelled = true ∨ result = .ok () ∧ ∃ reply, .answered k (.ok reply) ∈ s.trace) ∧
      (s.cancelled = true → ∀ more, NoStart s (run P s more)) ∧
      (∀ more, (∀ before after, more = before ++ .turn :: after →
        ¬ Revived P spec system sink (script ++ before)) → NoStart s (run P s more)) ∧
      (∀ before, Revived P spec system sink (script ++ before) →
        Comeback P (run P s before) (run P s (before ++ [.turn]))) := by
  have hplayed := play_underway distinct own (begin_underway P spec system sink fresh) rfl
  rw [returned] at hplayed
  dsimp only at hplayed
  obtain ⟨⟨⟨script, hscript⟩, -, -, -⟩, hending, hleft⟩ := hplayed
  have hrun (more : List (Input σ)) :
      run P s more = reached P spec system sink (script ++ more) := by
    rw [hscript]
    exact (run_append _ _).symm
  refine ⟨script, hscript, hleft, ?_, ?_, ?_⟩
  · intro hcancelled more
    refine (run_of_cancelled P hcancelled more).2.1.mono ?_
    rintro _ ⟨ticket, name, rfl⟩
    rfl
  · intro more hnone
    subst hscript
    rw [hrun]
    exact (run_noStart_of_ending P spec system sink more hending hnone).2
  · intro before hrevived
    obtain ⟨hdue, hparked⟩ := (revived_iff P spec system sink (script ++ before)).mp hrevived
    obtain ⟨hwaiters, -, hstarts⟩ := turn_of_relaunch (P := P) hdue
    rw [run_concat, hrun before]
    exact ⟨hparked, hwaiters, hstarts⟩

/-- A process that ignores `Signal.term`. -/
def stubborn : Supervisor ScriptedProcess :=
  reached ScriptedProcess.platform (ScriptedProcess.spec .infinite)
    { script := { ignored := [.term] } } none []

/-- The deletion takes too long, the process is killed, and a tick is due before the next look for
an exit. -/
def killedAfterTimeout : List (Move ScriptedProcess) :=
  [.input .turn, .input (.elapse 10000), .resume, .input .turn, .resume]

/-- The supervisor when the caller has returned. -/
def afterShutdown : Supervisor ScriptedProcess :=
  (play ScriptedProcess.platform 1 (Shutdown.begin stubborn 0) killedAfterTimeout).2

/-- **The process comes back after the caller has returned**, and all went well for the caller. -/
theorem shut_down_comes_back :
    Comeback ScriptedProcess.platform
      (run ScriptedProcess.platform afterShutdown [.turn])
      (run ScriptedProcess.platform afterShutdown [.turn, .turn]) := by
  have hreturned : play ScriptedProcess.platform 1 (Shutdown.begin stubborn 0) killedAfterTimeout =
      (.returned (.ok ()), afterShutdown) := rfl
  obtain ⟨script, hscript, -, -, -, hcomeback⟩ := shutdown_final _ _ _ _ (by decide) (by simp)
    (by simp [killedAfterTimeout, Input.sent?]) hreturned
  have hrevives : Revives ScriptedProcess.platform afterShutdown :=
    ⟨by decide, by decide, by decide, by decide, by decide, by decide⟩
  rw [hscript] at hrevives
  exact hcomeback [.turn] ((revived_turn _ _ _ _ _).mpr hrevives)

end Shutdown

end Overseer
