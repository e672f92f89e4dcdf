import Overseer.Proofs.Holding
import Overseer.Proofs.Supervisor.ManualRestart
import Overseer.Proofs.Supervisor.Replies

/-!
# What a restart is told

A restart stays parked until a step answers it.  If a launch is attempted in that step, the answer
is its result; otherwise it is an error, and nothing was launched for the restart.

* `LaunchesFor` -- for whom a step launches;
* `RestartAnswered` -- how a restart is answered; `RestartAnswered.of_launch` -- with the result of
  a launch, which leaves no relaunch scheduled;
* `turn_of_parked`, `turn_of_served` -- no request is lost by the turn that finds it;
* `restart_answers` -- in every reachable state.
-/

namespace Overseer

namespace Supervisor

variable {σ : Type} {P : Platform σ} {s t u : Supervisor σ} {callers : List Waiter}

/-! ## Launches -/

variable (P s)

theorem launch_made : Made (.launched (s.launch P).1) s (s.launch P).2 := by
  rcases launch_cases P s with
    ⟨e, cause, -, hresult, h⟩ | ⟨e, cause, hresult, h⟩ | ⟨pid, reading, hresult, h⟩ <;> rw [hresult]
  · exact .of_cons h
  · exact ⟨[], _, h, List.suffix_cons _ _⟩
  · exact ⟨[], _, h, [_, _], rfl⟩

variable {P} in
/-- A process that was launched is held, and its start time is recorded. -/
theorem launch_names (H : Naming P) {pid : Pid} (h : (s.launch P).1 = .ok pid) :
    (s.launch P).2.pid P = some pid ∧ (s.launch P).2.startTime = some (s.launch P).2.now := by
  have hresult : (s.launch P).1 = (s.attemptLaunch P).1 := rfl
  have hkept : (s.launch P).2.pid P = (s.attemptLaunch P).2.pid P ∧
      (s.launch P).2.startTime = (s.attemptLaunch P).2.startTime ∧
      (s.launch P).2.now = (s.attemptLaunch P).2.now := ⟨rfl, rfl, rfl⟩
  rw [hresult] at h
  rw [hkept.1, hkept.2.1, hkept.2.2]
  unfold attemptLaunch at *
  split at h
  · cases h
  · next directory _ =>
    have hstart : (s.start P directory).1 = (P.start s.spec directory s.system).1 ∧
        (s.start P directory).2.system = (P.start s.spec directory s.system).2 := ⟨rfl, rfl⟩
    rcases hstarted : s.start P directory with ⟨_ | started, u⟩ <;>
      simp only [hstarted] at h hstart ⊢
    · cases h
    · obtain rfl := Except.ok.inj h
      have hread := H.readStatus started u.system
      refine ⟨hread.trans ?_, rfl⟩
      rw [hstart.2]
      exact H.start hstart.1.symm

variable {P s}

/-- A restart that launches comes to one launch. -/
theorem launch_of_launched {ticket : Ticket} {reply : Answer} (before : Adds (Beside callers) s u)
    (result : t = (u.relaunchNow P).2.answer ticket reply) :
    t.launches = s.launches + 1 ∧ Made (.launched (u.relaunchNow P).1) s t := by
  have hanswered : NoLaunch (u.relaunchNow P).2 t := by
    rw [result]
    exact .cons rfl rfl
  obtain ⟨v, huv, hlaunch⟩ := relaunchNow_eq P u
  have hmade := (launch_made P v).after huv
  rw [← hlaunch] at hmade
  refine ⟨?_, (hmade.after before.suffix).before hanswered.suffix⟩
  rw [hanswered.launches_eq, relaunchNow_launches, before.noLaunch.launches_eq]

/-- For whom a launch is attempted in the step from `s` to `t`. -/
inductive LaunchesFor (s t : Supervisor σ) : Prop where
  | nobody (none : t.launches = s.launches)
  /-- For a relaunch that was scheduled, and nobody is answered. -/
  | scheduled (due : s.due? = some .relaunch) (once : t.launches = s.launches + 1)
      (unanswered : Adds (fun e => e.answered? = none) s t)
  /-- For a restart that was parked or is served, which is told what came of it. -/
  | restart {ticket : Ticket} {result : Except Error Pid}
      (asked : .restart ticket ∈ s.waiters ∨ s.due? = some (.request ticket .restart))
      (once : t.launches = s.launches + 1) (launched : Made (.launched result) s t)
      (told : Made (.answered ticket (result.map .restarted)) s t)

variable (P) in
/-- How a restart is answered with `reply` in the step from `s` to `t`. -/
structure RestartAnswered (s t : Supervisor σ) (reply : Answer) : Prop where
  /-- The answer is that of a launch exactly when one was attempted in the step. -/
  attempted : Answer.isLaunched reply = true ↔ t.launches = s.launches + 1
  /-- It is then the result of that launch. -/
  outcome : Answer.isLaunched reply = true →
    ∃ result, Made (.launched result) s t ∧ reply = result.map .restarted
  /-- Any other answer is an error, and no launch was attempted. -/
  failed : Answer.isLaunched reply = false →
    (∃ e, e.isUnlaunched = true ∧ reply = .error e) ∧ t.launches = s.launches
  /-- The process that the answer names is held, its start time is recorded, and no relaunch is
  scheduled. -/
  held : ∀ pid, reply = .ok (.restarted pid) →
    t.pid P = some pid ∧ t.startTime = some t.now ∧ t.watchdog.pending = false

namespace RestartAnswered

/-- The result of a launch is told. -/
theorem of_launch (H : Naming P) {ticket : Ticket} (before : Adds (Beside callers) s u)
    (result : t = (u.relaunchNow P).2.answer ticket ((u.relaunchNow P).1.map .restarted)) :
    RestartAnswered P s t ((u.relaunchNow P).1.map .restarted) := by
  obtain ⟨honce, hmade⟩ := launch_of_launched before result
  have hpending := relaunchNow_pending P u
  have hlaunched := relaunchNow_isLaunched P u
  obtain ⟨v, -, hlaunch⟩ := relaunchNow_eq P u
  rw [hlaunch] at result hmade hpending hlaunched ⊢
  refine ⟨⟨fun _ => honce, fun _ => hlaunched⟩, fun _ => ⟨_, hmade, rfl⟩, ?_, ?_⟩
  · intro h
    rw [hlaunched] at h
    cases h
  · intro pid hreply
    have hok : (v.launch P).1 = .ok pid := by
      cases hcases : (v.launch P).1 with
      | error e => rw [hcases] at hreply; cases hreply
      | ok started => rw [hcases] at hreply; cases hreply; rfl
    obtain ⟨hpid, htime⟩ := launch_names v H hok
    rw [result]
    exact ⟨hpid, htime, hpending⟩

/-- An error for which nothing is launched. -/
theorem of_error {e : Error} (why : e.isUnlaunched = true) (none : t.launches = s.launches) :
    RestartAnswered P s t (.error e) := by
  obtain ⟨hunlaunched, -⟩ := Answer.of_isUnlaunched why
  refine ⟨?_, fun h => ?_, fun _ => ⟨⟨e, why, rfl⟩, none⟩, fun pid h => by cases h⟩
  · rw [hunlaunched]
    constructor
    · intro h
      cases h
    · intro h
      omega
  · rw [hunlaunched] at h
    cases h

/-- Whoever asked for nothing but a restart is answered so. -/
theorem of_restartsOnce (H : Naming P) (h : RestartsOnce P callers s t) {ticket : Ticket}
    {reply : Answer}
    (only : ∀ waiter ∈ callers, waiter.ticket? = some ticket → waiter = .restart ticket)
    (made : Made (.answered ticket reply) s t) : RestartAnswered P s t reply := by
  rcases h.of_made made with hbeside | ⟨e, why, rfl, hnone⟩ | ⟨u, before, rfl, result⟩
  · rcases hbeside with h | ⟨caller, own, other, -⟩
    · cases h
    · rw [only _ caller own] at other
      cases other
  · exact of_error why hnone.launches_eq
  · exact of_launch H before result

end RestartAnswered

/-- A restart that may be answered is parked, or is served. -/
theorem restart_of_audience {occasion : Occasion} {ticket : Ticket}
    (h : .restart ticket ∈ s.audience occasion) :
    .restart ticket ∈ s.waiters ∨ occasion = .request ticket .restart := by
  cases occasion with
  | request other request =>
    rcases List.mem_append.mp h with h | h
    · exact .inl h
    · have hcaller := List.mem_singleton.mp h
      cases request with
      | restart =>
        obtain rfl := Waiter.restart.inj hcaller
        exact .inr rfl
      | _ => cases hcaller
  | detached =>
    rcases List.mem_append.mp h with h | h
    · exact .inl h
    · cases List.mem_singleton.mp h
  | cancelled | relaunch | exitCheck | tick => exact .inl h

theorem Dismisses.noLaunch (h : Dismisses s t) : NoLaunch s t := by
  refine h.mono ?_
  rintro _ ⟨ticket, name, rfl⟩
  rfl

/-- **Nobody launches twice**, and whoever launches for a restart tells it so. -/
theorem Replies.launchesFor {input : Input σ} (h : Replies P s input t) : LaunchesFor s t := by
  cases h with
  | dismissed done => exact .nobody done.noLaunch.launches_eq
  | scheduled due once done => exact .scheduled due once done
  | unheld _ _ _ _ done =>
    have hnone : NoLaunch s t := .cons done rfl
    exact .nobody hnone.launches_eq
  | @served occasion u due once result =>
    rw [result]
    cases once with
    | unanswered done => exact .nobody done.noLaunch.launches_eq
    | failed _ _ before after => exact .nobody (noLaunch_of_failed before after).launches_eq
    | @launched v ticket asked before result =>
      obtain ⟨honce, hmade⟩ := launch_of_launched before result
      have htold : Made (.answered ticket ((v.relaunchNow P).1.map .restarted)) s u := by
        refine .after ?_ (before.suffix.trans (relaunchNow_unanswered P v).suffix)
        rw [result]
        exact .of_cons rfl
      refine .restart ((restart_of_audience asked).imp_right fun h => ?_) honce hmade htold
      rw [due, h]

/-- **A restart is told what came of it**: whatever answers it. -/
theorem Replies.restartAnswered (H : Naming P) {input : Input σ} (h : Replies P s input t)
    {ticket : Ticket} (hs : Dedicated .restart ticket s) {reply : Answer}
    (made : Made (.answered ticket reply) s t) : RestartAnswered P s t reply := by
  cases h with
  | dismissed done =>
    obtain ⟨other, name, heq⟩ := done.of_made made
    obtain ⟨-, rfl⟩ := Event.answered.inj heq
    exact .of_error rfl done.noLaunch.launches_eq
  | scheduled _ _ done => cases done.of_made made
  | @unheld other request _ due needs _ done =>
    have hadds : Adds (· = .answered other (.error (.noProcess s.spec.name))) s t := .cons done rfl
    obtain ⟨rfl, -⟩ := Event.answered.inj (hadds.of_made made)
    have hrestart := hs.queued request (by rw [queue_of_due due]; exact List.mem_cons_self)
    rw [hrestart] at needs
    cases needs
  | served due once result =>
    rw [result] at made ⊢
    have hanswered := RestartAnswered.of_restartsOnce H once (hs.audience due) made
    exact ⟨hanswered.attempted, hanswered.outcome, hanswered.failed, hanswered.held⟩

/-! ## No restart is lost -/

/-- Whoever was taken in, and not answered before, is parked, or was answered on the way. -/
theorem parked_or_answered {ticket : Ticket} (hst : s.trace <:+ t.trace)
    (h : (answeredTickets s.trace).count ticket < taken ticket t) :
    ticket ∈ parkedTickets t.waiters ∨ ∃ reply, Made (.answered ticket reply) s t := by
  obtain ⟨events, hevents⟩ := hst
  by_cases hparked : ticket ∈ parkedTickets t.waiters
  · exact .inl hparked
  · right
    have hanswered : 0 < (events.filterMap Event.answered?).count ticket := by
      have hnone := List.count_eq_zero.mpr hparked
      have hsplit : answeredTickets t.trace =
          events.filterMap Event.answered? ++ answeredTickets s.trace := by
        rw [← hevents]
        exact List.filterMap_append
      rw [taken, hnone, hsplit, List.count_append] at h
      omega
    obtain ⟨e, hmem, htold⟩ := List.mem_filterMap.mp (List.count_pos_iff.mp hanswered)
    obtain ⟨since, before, rfl⟩ := List.append_of_mem hmem
    cases e with
    | answered other reply =>
      obtain rfl := Option.some.inj htold
      refine ⟨reply, since, before ++ s.trace, ?_, List.suffix_append _ _⟩
      rw [← hevents, List.append_assoc]
      rfl
    | _ => cases htold

variable (P) in
/-- A turn takes a request off the queue, or none, or all. -/
theorem turn_queued_le (ticket : Ticket) :
    (queuedTickets (s.turn P)).count ticket ≤ (queuedTickets s).count ticket := by
  cases hdue : s.due? with
  | none => exact Nat.le_of_eq (by rw [turn_of_idle hdue])
  | some occasion =>
    by_cases hend : occasion = .cancelled
    · subst hend
      have hturn : s.turn P = s.finish.rearm := turn_eq hdue
      rw [queuedTickets, hturn, finish_left.2]
      exact Nat.zero_le _
    · rw [queuedTickets, turn_queue hdue hend]
      cases occasion with
      | request other request => exact ((List.tail_sublist s.queue).map _).count_le ticket
      | _ => exact Nat.le_refl _

/-- Whoever is parked, or is taken off the queue by a turn, is parked after it or was answered. -/
theorem turn_keeps (hone : OneStop s.waiters) {ticket : Ticket}
    (h : (queuedTickets (s.turn P)).count ticket <
      (queuedTickets s).count ticket + (parkedTickets s.waiters).count ticket) :
    ticket ∈ parkedTickets (s.turn P).waiters ∨
      ∃ reply, Made (.answered ticket reply) s (s.turn P) := by
  have hrequests := (turn_requests P hone).2 ticket
  have htaken : taken ticket s = (answeredTickets s.trace).count ticket +
      (parkedTickets s.waiters).count ticket := rfl
  unfold requests at hrequests
  refine parked_or_answered (step_suffix P s .turn) ?_
  omega

/-- **Whoever is parked** is still so after a turn, or was answered by it. -/
theorem turn_of_parked (hone : OneStop s.waiters) {ticket : Ticket}
    (hparked : ticket ∈ parkedTickets s.waiters) :
    ticket ∈ parkedTickets (s.turn P).waiters ∨
      ∃ reply, Made (.answered ticket reply) s (s.turn P) := by
  have hqueued := turn_queued_le P (s := s) ticket
  have hpos := List.count_pos_iff.mpr hparked
  exact turn_keeps hone (by omega)

/-- **Whoever is served** is parked by the turn, or answered. -/
theorem turn_of_served (hone : OneStop s.waiters) {ticket : Ticket} {request : Request}
    (due : s.due? = some (.request ticket request)) :
    ticket ∈ parkedTickets (s.turn P).waiters ∨
      ∃ reply, Made (.answered ticket reply) s (s.turn P) := by
  have htail : (s.turn P).queue = s.queue.tail := turn_queue due (by simp)
  have hqueued : (queuedTickets s).count ticket =
      (queuedTickets (s.turn P)).count ticket + 1 := by
    rw [queuedTickets, queue_of_due due, queuedTickets, htail]
    exact List.count_cons_self
  exact turn_keeps hone (by omega)

variable (P) in
/-- What becomes of a request that is a restart in the step that takes an input from `s` to `t`. -/
structure RestartHeard (s : Supervisor σ) (input : Input σ) (t : Supervisor σ) (ticket : Ticket) :
    Prop where
  /-- One that is parked, or served, is parked or answered. -/
  kept : .restart ticket ∈ s.waiters ∨
      input = .turn ∧ s.due? = some (.request ticket .restart) →
    .restart ticket ∈ t.waiters ∨ ∃ reply, Made (.answered ticket reply) s t
  answered : ∀ reply, Made (.answered ticket reply) s t → RestartAnswered P s t reply

theorem step_heard (H : Naming P) (hone : OneStop s.waiters) {ticket : Ticket}
    (hs : Dedicated .restart ticket s) (input : Input σ) :
    RestartHeard P s input (step P s input) ticket := by
  refine ⟨fun hasked => ?_, fun reply made => (step_replies P s input).restartAnswered H hs made⟩
  by_cases hturn : input = .turn
  · subst hturn
    have hplaced : ticket ∈ parkedTickets (s.turn P).waiters ∨
        ∃ reply, Made (.answered ticket reply) s (s.turn P) := by
      rcases hasked with hparked | ⟨-, due⟩
      · exact turn_of_parked hone (List.mem_filterMap.mpr ⟨_, hparked, rfl⟩)
      · exact turn_of_served hone due
    refine hplaced.imp_left fun hmem => ?_
    obtain ⟨waiter, hwaiter, hticket⟩ := List.mem_filterMap.mp hmem
    obtain rfl : waiter = .restart ticket := (hs.turn (P := P)).parked waiter hwaiter hticket
    exact hwaiter
  · rcases hasked with hparked | ⟨h, -⟩
    · rw [step_frame P s hturn]
      exact .inl hparked
    · exact absurd h hturn

/-- **What a restart is told**, in every reachable state.  No step attempts two launches.  One that
attempts a launch does so for the relaunch that was scheduled, or for a restart, which it tells the
result.  A request that is a restart stays parked until it is answered: with the result of a launch
exactly when one was attempted in the step that answers it, and otherwise with an error.  When all
went well, the process that it is told of is held, its start time is recorded, and no relaunch is
scheduled. -/
theorem restart_answers (H : Naming P) (spec : Spec) (system : σ) (sink : Option Sink)
    (inputs : List (Input σ)) (input : Input σ) :
    LaunchesFor (reached P spec system sink inputs)
        (step P (reached P spec system sink inputs) input) ∧
      ∀ ticket, (∀ request, .send ticket request ∈ inputs → request = .restart) →
        RestartHeard P (reached P spec system sink inputs) input
          (step P (reached P spec system sink inputs) input) ticket := by
  have hone := (requests_reached P spec system sink inputs).1
  refine ⟨(step_replies P _ input).launchesFor, fun ticket hsent => ?_⟩
  exact step_heard H hone (.of_reached P spec system sink hsent) input

/-- A tick finds the process gone and schedules a relaunch, and then settles the restart, which
launches in its place. -/
theorem restart_answered_by_tick :
    RestartAnswered ScriptedProcess.platform (restarting vanishesForRestart.dropLast)
      (restarting vanishesForRestart) (.ok (.restarted 1002)) := by
  have hmade : Made (.answered 0 (.ok (.restarted 1002))) (restarting vanishesForRestart.dropLast)
      (restarting vanishesForRestart) :=
    ⟨[], (restarting vanishesForRestart).trace.tail, rfl,
      (restarting vanishesForRestart).trace.tail.take 9, rfl⟩
  have hanswers := restart_answers ScriptedProcess.platform_naming
    (ScriptedProcess.spec (.limited 2)) { script := { ignored := [.term] } } none
    ([.send 0 .restart] ++ vanishesForRestart.dropLast) .turn
  exact (hanswers.2 0 (by simp [vanishesForRestart])).answered _ hmade

end Supervisor

end Overseer
