import Overseer.Proofs.Supervisor.Answers
import Overseer.Proofs.Supervisor.RestartPolicy

/-!
# The accounts of the relaunches

A launch is owed for every relaunch that is granted and not yet carried out, and for every restart
that is parked.  A turn makes no launch that is not owed, and comes to owe one only by a grant or by
a restart that it serves.

* `launches`, `grants`, `owed` -- what was done, what was granted, what is to be done or was done;
  `Route.launches`, `handle_owed` and the others say what each part of a turn does with `owed`;
* `turn_decides` -- what a turn decides, and what it does to the budget;
* `Attempted` -- how a relaunch that is granted is carried out; `turn_attempts` -- so is every one;
* `restart_accounting` -- the accounts of every run.
-/

namespace Overseer

namespace Event

/-- A launch was attempted. -/
def isLaunch : Event → Bool
  | launched _ => true
  | _ => false

theorem not_isLaunch_of_not_isCreation {e : Event} (h : e.isCreation = false) :
    e.isLaunch = false := by
  cases e <;> simp_all [isCreation, isLaunch]

theorem not_isLaunch_of_isTick {e : Event} (h : e.isTick = true) : e.isLaunch = false := by
  cases e <;> simp_all [isTick, isLaunch]

end Event

/-- A restart is asked for. -/
def Request.isRestart : Request → Bool
  | restart => true
  | _ => false

namespace Supervisor

variable {σ : Type} {P : Platform σ} {s t u : Supervisor σ}

/-- How many launches were attempted. -/
def launches (s : Supervisor σ) : Nat := s.trace.countP Event.isLaunch

/-- How many relaunches were granted. -/
def grants (s : Supervisor σ) : Nat := (decisions s.trace).count .relaunch

/-- How many launches were attempted, or are to be attempted, for a relaunch that is scheduled or a
restart that is parked. -/
def owed (s : Supervisor σ) : Nat :=
  s.launches + s.watchdog.pending.toNat + s.waiters.countP Waiter.isRestart

/-! ## Launches -/

/-- No launch was attempted from `s` to `t`. -/
abbrev NoLaunch (s t : Supervisor σ) : Prop := Adds (fun e => e.isLaunch = false) s t

theorem NoLaunch.launches_eq (h : NoLaunch s t) : t.launches = s.launches :=
  h.countP_eq fun _ he => he

theorem Quiet.noLaunch (h : Quiet s t) : NoLaunch s t :=
  h.mono fun _ he => Event.not_isLaunch_of_not_isCreation he

theorem Calls.noLaunch (h : Calls s t) : NoLaunch s t := h.quiet.noLaunch

theorem Calls.owed (h : Calls s t) : t.owed = s.owed := by
  unfold Supervisor.owed
  rw [h.noLaunch.launches_eq, h.keeps.watchdog, h.keeps.waiters]

variable (P s) in
/-- A launch is one attempt. -/
theorem launch_launches : (s.launch P).2.launches = s.launches + 1 := by
  unfold launches
  rcases launch_cases P s with ⟨_, _, -, -, ht⟩ | ⟨_, _, -, ht⟩ | ⟨_, _, -, ht⟩ <;>
    simp [ht, List.countP_cons, Event.isLaunch]

variable (P s) in
theorem relaunchNow_launches : (s.relaunchNow P).2.launches = s.launches + 1 := by
  unfold relaunchNow
  split
  · have hrelease := (release_calls P s).noLaunch.launches_eq
    rw [← hrelease]
    exact launch_launches P _
  · exact launch_launches P _

/-- A restart is parked in `s`, and is settled in `t` with one launch, which picks up a relaunch
that is scheduled. -/
structure LaunchesOnce (s t : Supervisor σ) : Prop where
  parked : 0 < s.waiters.countP Waiter.isRestart
  settled : t.waiters = []
  picked : t.watchdog = s.watchdog.takeRestart.2
  launched : t.launches = s.launches + 1

/-- **A route attempts one launch to settle the parked restart, or none.** -/
theorem Route.launches (h : Route P s t) :
    NoLaunch s t ∧ t.watchdog = s.watchdog ∨ LaunchesOnce s t := by
  rcases h.quiet with ⟨hquiet, hwatchdog⟩ | ⟨-, u, ticket, hquiet, hnobody, hsame, hparked, result⟩
  · exact .inl ⟨hquiet.noLaunch, hwatchdog⟩
  · have hanswered : NoLaunch (u.relaunchNow P).2 t := by
      rw [result]
      exact .cons rfl rfl
    have hkept : t.waiters = (u.relaunchNow P).2.waiters ∧
        t.watchdog = (u.relaunchNow P).2.watchdog := by
      rw [result]
      exact ⟨rfl, rfl⟩
    refine .inr ⟨List.countP_pos_iff.mpr ⟨_, hparked, rfl⟩, ?_, ?_, ?_⟩
    · rw [hkept.1, relaunchNow_waiters, hnobody]
    · rw [hkept.2, relaunchNow_watchdog, hsame]
    · rw [hanswered.launches_eq, relaunchNow_launches, hquiet.noLaunch.launches_eq]

theorem pending_takeRestart (w : Watchdog) : w.takeRestart.2.pending = false := rfl

/-- **A route comes to owe nothing.** -/
theorem Route.owed (h : Route P s t) : t.owed ≤ s.owed := by
  rcases h.launches with ⟨hnone, hwatchdog⟩ | honce
  · have hsame := hnone.launches_eq
    have hparked : t.waiters.countP Waiter.isRestart ≤ s.waiters.countP Waiter.isRestart := by
      rcases h.waiters with hw | hw
      · exact Nat.le_of_eq (congrArg _ hw)
      · rw [hw]
        exact Nat.zero_le _
    unfold Supervisor.owed
    rw [hsame, hwatchdog]
    omega
  · have hparked := honce.parked
    have hnothing : ([] : List Waiter).countP Waiter.isRestart = 0 := rfl
    unfold Supervisor.owed
    rw [honce.settled, honce.picked, honce.launched, pending_takeRestart, hnothing]
    simp only [Bool.toNat_false]
    omega

/-! ## Requests -/

theorem owed_answer (ticket : Ticket) (reply : Answer) : (s.answer ticket reply).owed = s.owed := by
  have hnone : NoLaunch s (s.answer ticket reply) := .cons rfl rfl
  unfold owed
  rw [hnone.launches_eq]
  rfl

theorem owed_finishDelete (ticket : Option Ticket) (result : Except Error Unit) :
    (s.finishDelete ticket result).owed = s.owed := by
  have hnone := (Quiet.finishDelete (.of_trace_eq rfl) ticket result (s := s)).noLaunch
  unfold owed
  rw [hnone.launches_eq, finishDelete_watchdog, finishDelete_waiters]

variable (P s) in
/-- Whoever is parked, a launch comes to be owed for a restart alone. -/
theorem park_owed (waiter : Waiter) :
    (s.park P waiter).owed ≤ s.owed + waiter.isRestart.toNat := by
  have hroute := (park_route P s waiter).owed
  have hparked : (s.waiters ++ [waiter]).countP Waiter.isRestart =
      s.waiters.countP Waiter.isRestart + waiter.isRestart.toNat := by
    rw [List.countP_append]
    cases waiter <;> rfl
  have hlaunches : ({ s with waiters := s.waiters ++ [waiter] } : Supervisor σ).launches =
      s.launches := rfl
  unfold owed at *
  rw [hlaunches, hparked] at hroute
  dsimp only at hroute
  omega

variable (P s) in
theorem delete_owed (ticket : Option Ticket) : (s.delete P ticket).owed ≤ s.owed := by
  have hgraceful := stopGraceful_calls P s
  cases delete_deletes P s ticket with
  | busy _ result =>
    rcases result with ⟨-, result⟩ | ⟨refused, -, result⟩
    · exact Nat.le_of_eq (congrArg Supervisor.owed result)
    · rw [result]
      exact Nat.le_of_eq (owed_answer refused _)
  | parked _ _ result =>
    rw [result, ← hgraceful.owed]
    exact park_owed P _ (.delete ticket)
  | forced _ outcome result =>
    have hforced := (hgraceful.trans (stopForced_calls P _)).owed
    rw [result]
    exact Nat.le_of_eq ((owed_finishDelete ticket outcome).trans hforced)

variable (P s) in
/-- A restart comes to owe one launch. -/
theorem restart_owed (ticket : Ticket) : (s.restart P ticket).owed ≤ s.owed + 1 := by
  have hnotice := (noticeExit_route P s).owed
  have hgraceful := stopGraceful_calls P (s.noticeExit P)
  cases restart_restarts P s ticket with
  | busy _ result => rw [result, refuseBusy, owed_answer]; omega
  | parked _ _ result =>
    have hpark := park_owed P ((s.noticeExit P).stopGraceful P).2 (.restart ticket)
    rw [hgraceful.owed] at hpark
    have hone : (Waiter.restart ticket).isRestart.toNat = 1 := rfl
    rw [result]
    omega
  | relaunched _ _ result =>
    have hlaunches := relaunchNow_launches P (s.noticeExit P)
    have hwaiters := relaunchNow_waiters P (s.noticeExit P)
    have hwatchdog := relaunchNow_watchdog P (s.noticeExit P)
    rw [result, owed_answer]
    unfold owed at *
    rw [hlaunches, hwaiters, hwatchdog, pending_takeRestart]
    simp only [Bool.toNat_false]
    omega
  | refused _ e result =>
    rw [result, owed_answer, hgraceful.owed]
    omega

variable (P s) in
/-- **A request comes to owe a launch if it is a restart.** -/
theorem handle_owed (ticket : Ticket) (request : Request) :
    (s.handle P ticket request).owed ≤ s.owed + request.isRestart.toNat := by
  by_cases hplain : request.isPlain = true
  · obtain ⟨u, reply, hcalls, hresult, -⟩ := handle_plain P s hplain ticket
    rw [hresult, owed_answer, hcalls.owed]
    omega
  · cases request with
    | restart => exact restart_owed P s ticket
    | delete => exact Nat.le_trans (delete_owed P s (some ticket)) (Nat.le_add_right _ _)
    | wait =>
      rcases wait_cases P s ticket with ⟨-, hresult⟩ | ⟨-, hresult⟩ <;> rw [hresult]
      · rw [owed_answer]
        exact Nat.le_add_right _ _
      · exact park_owed P s (.wait ticket)
    | _ => exact absurd rfl hplain

variable (P s) in
theorem onDetached_owed : (s.onDetached P).owed ≤ s.owed := by
  unfold onDetached
  dsimp only
  split
  · exact delete_owed P { s with detached := true } none
  · exact Nat.le_refl _

/-- A scheduled relaunch is one launch, and is owed no more. -/
theorem relaunch_launches (h : s.watchdog.pending = true) :
    (s.relaunch P).launches = s.launches + 1 ∧ (s.relaunch P).watchdog.pending = false ∧
      (s.relaunch P).owed = s.owed := by
  have hkeeps := launch_keeps P { s with watchdog := s.watchdog.takeRestart.2 }
  have hlaunches := launch_launches P { s with watchdog := s.watchdog.takeRestart.2 }
  have hbefore : ({ s with watchdog := s.watchdog.takeRestart.2 } : Supervisor σ).launches =
      s.launches := rfl
  rw [hbefore] at hlaunches
  rw [relaunch_of_pending P s h]
  refine ⟨hlaunches, ?_, ?_⟩
  · rw [hkeeps.watchdog]
    rfl
  · unfold owed
    rw [hlaunches, hkeeps.watchdog, hkeeps.waiters, h]
    simp only [pending_takeRestart, Bool.toNat_false, Bool.toNat_true]

/-! ## The accounts -/

/-- What is done with the accounts from `s` to `t`, when `asked` restarts are served on the way: the
relaunches that are granted are charged to the budget, and no launch comes to be owed but for them
and for these restarts. -/
structure Accounts (asked : Nat) (s t : Supervisor σ) : Prop where
  charged : ∃ n, t.grants = s.grants + n ∧ Budget.Spent n s.watchdog.budget t.watchdog.budget ∧
    t.owed ≤ s.owed + n + asked
  separate : .coalesced ∉ decisions s.trace → .coalesced ∉ decisions t.trace

variable (P s) in
/-- A tick grants a relaunch, or none. -/
theorem noted_grants : (s.noted P).grants = s.grants + [(s.outcome P).restart].count .relaunch := by
  rw [grants, noted_decisions, grants, ← List.singleton_append, List.count_append, Nat.add_comm]

variable (P s) in
theorem noted_noLaunch : NoLaunch s (s.noted P) :=
  (observe_calls P s).noLaunch.trans
    ((noted_adds P s).mono fun _ he => Event.not_isLaunch_of_isTick he)

theorem finish_decisions : decisions s.finish.rearm.trace = decisions s.trace := by
  refine finish_adds.filterMap_eq ?_
  rintro _ ⟨ticket, rfl⟩
  rfl

theorem finish_launches : s.finish.rearm.launches = s.launches := by
  refine NoLaunch.launches_eq (finish_adds.mono ?_)
  rintro _ ⟨ticket, rfl⟩
  rfl

namespace Accounts

variable {asked more : Nat}

theorem trans (hst : Accounts asked s t) (htu : Accounts more t u) :
    Accounts (asked + more) s u := by
  obtain ⟨n, hgrants, hspent, howed⟩ := hst.charged
  obtain ⟨m, hgrants', hspent', howed'⟩ := htu.charged
  exact ⟨⟨n + m, by omega, hspent.trans hspent', by omega⟩,
    fun h => htu.separate (hst.separate h)⟩

/-- Where nothing is decided nothing is charged. -/
theorem of_undecided (hdecisions : decisions t.trace = decisions s.trace)
    (hbudget : t.watchdog.budget = s.watchdog.budget) (howed : t.owed ≤ s.owed + asked) :
    Accounts asked s t := by
  have hgrants : t.grants = s.grants := by rw [grants, grants, hdecisions]
  refine ⟨⟨0, hgrants, ?_, howed⟩, by rw [hdecisions]; exact id⟩
  rw [hbudget]
  exact .refl _

theorem of_handles (h : Handles s t) (howed : t.owed ≤ s.owed + asked) : Accounts asked s t := by
  refine of_undecided h.decisions_eq ?_ howed
  rcases h.watchdog with hw | hw <;> rw [hw]
  rfl

theorem of_eq (hwatchdog : t.watchdog = s.watchdog) (hwaiters : t.waiters = s.waiters)
    (htrace : t.trace = s.trace) : Accounts 0 s t := by
  refine of_undecided (by rw [htrace]) (by rw [hwatchdog]) ?_
  unfold owed launches
  rw [hwatchdog, hwaiters, htrace]
  exact Nat.le_refl _

variable (P) in
/-- **A tick charges for what it grants**, and grants nothing while a relaunch is scheduled. -/
theorem of_noted (hfree : s.watchdog.pending = false) : Accounts 0 s (s.noted P) := by
  have hdecisions := noted_decisions P s
  have hwatchdog : (s.noted P).watchdog = (s.watchdog.observe (s.observe P).1).2 := by
    rw [noted_frame]
  have hlaunches := (noted_noLaunch P s).launches_eq
  have howed : (s.noted P).owed = s.owed + (s.noted P).watchdog.pending.toNat := by
    unfold owed
    rw [hlaunches, noted_waiters, hfree, Bool.toNat_false]
    omega
  have hgrants := noted_grants P s
  have hseparate (h : (s.outcome P).restart ≠ .coalesced) :
      .coalesced ∉ decisions s.trace → .coalesced ∉ decisions (s.noted P).trace := by
    intro hnone hmem
    rw [hdecisions] at hmem
    rcases List.mem_cons.mp hmem with heq | hmem
    · exact h heq.symm
    · exact hnone hmem
  rw [hwatchdog] at howed
  cases Watchdog.observe_observes s.watchdog (s.observe P).1 with
  | coalesced _ _ scheduled => rw [hfree] at scheduled; cases scheduled
  | repeated _ decided result | changed _ _ decided result | exhausted _ _ _ _ decided result =>
    have hrestart : (s.outcome P).restart = _ := decided
    rw [result] at howed hwatchdog
    rw [hrestart] at hgrants
    rw [hfree, Bool.toNat_false] at howed
    refine ⟨⟨0, hgrants, ?_, by omega⟩, hseparate (by rw [hrestart]; simp)⟩
    rw [hwatchdog]
    exact .refl _
  | relaunch _ _ _ granted decided result =>
    have hrestart : (s.outcome P).restart = .relaunch := decided
    rw [result] at howed hwatchdog
    rw [hrestart] at hgrants
    rw [Bool.toNat_true] at howed
    refine ⟨⟨1, hgrants, ?_, by omega⟩, hseparate (by rw [hrestart]; simp)⟩
    rw [hwatchdog]
    exact Budget.consume_spent granted

theorem finish : Accounts 0 s s.finish.rearm := by
  have hwatchdog : s.finish.rearm.watchdog = { s.watchdog with cancelled := true } := by
    rw [← Watchdog.step_cancel]
    exact congrArg Supervisor.watchdog finish_eq
  refine of_undecided finish_decisions (by rw [hwatchdog]) ?_
  unfold owed
  rw [finish_launches, hwatchdog, finish_left.1]
  simp

end Accounts

variable (P) in
theorem onTick_accounts (hfree : s.watchdog.pending = false) : Accounts 0 s (s.onTick P) := by
  cases hlive : s.watchdog.cancelled with
  | true =>
    cases onTick_ticks P s with
    | stopped _ result =>
      have hobserve := observe_calls P s
      rw [result]
      exact .of_handles (.of_calls hobserve) (Nat.le_of_eq hobserve.owed)
    | terminated live | zombie live | quiet live => rw [hlive] at live; cases live
  | false =>
    have hroute := tick_route P s hlive
    have hsettled : Accounts 0 (s.noted P) (s.onTick P) := .of_handles hroute.handles hroute.owed
    exact (Accounts.of_noted P hfree).trans hsettled

/-- A restart is served. -/
def Occasion.isRestart : Occasion → Bool
  | .request _ asked => asked.isRestart
  | _ => false

variable (P) in
/-- A turn comes to owe a launch by a restart that it serves, and by a tick. -/
theorem serve_owed {occasion : Occasion} (hdue : s.due? = some occasion)
    (hend : occasion ≠ .cancelled) (htick : occasion ≠ .tick) :
    (s.serve P occasion).owed ≤ s.owed + occasion.isRestart.toNat := by
  cases occasion with
  | cancelled => exact absurd rfl hend
  | tick => exact absurd rfl htick
  | relaunch =>
    have hsame := (relaunch_launches (P := P) (due?_eq_relaunch.mp hdue).2.2).2.2
    exact Nat.le_of_eq hsame
  | detached => exact onDetached_owed P s
  | exitCheck => exact (checkWaiters_route P s).owed
  | request ticket request => exact handle_owed P { s with queue := s.queue.tail } ticket request

variable (P s) in
/-- **What a turn does with the accounts.** -/
theorem turn_accounts : Accounts (s.due?.toList.countP Occasion.isRestart) s (s.turn P) := by
  cases hdue : s.due? with
  | none => rw [turn_of_idle hdue]; exact .of_eq rfl rfl rfl
  | some occasion =>
    have hasked : (some occasion).toList.countP Occasion.isRestart =
        occasion.isRestart.toNat := by
      cases occasion with
      | request ticket request => cases request <;> rfl
      | _ => rfl
    rw [hasked, turn_eq hdue]
    by_cases hend : occasion = .cancelled
    · subst hend
      exact Accounts.finish
    · by_cases htick : occasion = .tick
      · subst htick
        have hfree := not_pending_of_due hdue (by simp) (by simp)
        have hopened : Accounts 0 s (s.opened .tick) := .of_eq rfl rfl rfl
        have hticked : Accounts 0 (s.opened .tick) ((s.opened .tick).onTick P) :=
          onTick_accounts P hfree
        have hrearmed : Accounts 0 ((s.opened .tick).onTick P) (s.serve P .tick).rearm :=
          .of_eq rfl rfl rfl
        exact hopened.trans (hticked.trans hrearmed)
      · have hhandles := serve_handles P s hend htick
        have hdecisions := hhandles.decisions_eq
        have hopened : (s.opened occasion).trace = s.trace ∧
            (s.opened occasion).watchdog = s.watchdog := by
          cases occasion <;> exact ⟨rfl, rfl⟩
        rw [hopened.1] at hdecisions
        refine .of_undecided hdecisions ?_ (serve_owed P hdue hend htick)
        have hkept : (s.serve P occasion).rearm.watchdog = (s.serve P occasion).watchdog := rfl
        rw [hkept]
        rcases hhandles.watchdog with hw | hw <;> rw [hw, hopened.2]
        rfl

variable (P) in
/-- The occasions that a run deals with. -/
def served (s : Supervisor σ) : List (Input σ) → List Occasion
  | [] => []
  | .turn :: rest => s.due?.toList ++ served (s.turn P) rest
  | input :: rest => served (step P s input) rest

variable (P) in
theorem served_append (inputs more : List (Input σ)) :
    served P s (inputs ++ more) = served P s inputs ++ served P (run P s inputs) more := by
  induction inputs generalizing s with
  | nil => rfl
  | cons input rest ih =>
    cases input with
    | turn =>
      have hserved (u : List (Input σ)) :
          served P s (.turn :: u) = s.due?.toList ++ served P (s.turn P) u := rfl
      rw [List.cons_append, hserved, hserved, ih, List.append_assoc]
      rfl
    | _ => exact ih

variable (P s) in
theorem step_accounts {input : Input σ} (h : input ≠ .turn) :
    Accounts 0 s (step P s input) := by
  have hframe := step_frame P s h
  have hadds := step_adds P s h
  refine .of_undecided ?_ (by rw [hframe]) ?_
  · refine hadds.filterMap_eq ?_
    rintro _ ⟨ticket, rfl⟩
    rfl
  · have hnone : NoLaunch s (step P s input) := by
      refine hadds.mono ?_
      rintro _ ⟨ticket, rfl⟩
      rfl
    unfold owed
    rw [hnone.launches_eq, hframe]
    exact Nat.le_refl _

variable (P s) in
/-- **What a run does with the accounts.** -/
theorem run_accounts (inputs : List (Input σ)) :
    Accounts ((served P s inputs).countP Occasion.isRestart) s (run P s inputs) := by
  induction inputs generalizing s with
  | nil => exact .of_eq rfl rfl rfl
  | cons input rest ih =>
    have hrest := ih (step P s input)
    by_cases hturn : input = .turn
    · subst hturn
      have hserved : served P s (.turn :: rest) = s.due?.toList ++ served P (s.turn P) rest := rfl
      rw [hserved, List.countP_append]
      exact (turn_accounts P s).trans hrest
    · have hserved : served P s (input :: rest) = served P (step P s input) rest := by
        cases input with
        | turn => exact absurd rfl hturn
        | _ => rfl
      rw [hserved, ← Nat.zero_add (List.countP _ _)]
      exact (step_accounts P s hturn).trans hrest

/-! ## Relaunches that are granted -/

theorem grants_eq (h : decisions t.trace = decisions s.trace) : t.grants = s.grants := by
  rw [grants, grants, h]

/-- Only a tick grants a relaunch, and it grants one. -/
theorem turn_grants (h : s.grants < (s.turn P).grants) :
    s.due? = some .tick ∧ s.watchdog.cancelled = false ∧
      ((s.opened .tick).outcome P).restart = .relaunch ∧ (s.turn P).grants = s.grants + 1 := by
  cases turn_turns P s with
  | idle _ result =>
    rw [result] at h
    omega
  | ended _ result =>
    rw [result, grants_eq finish_decisions] at h
    omega
  | @handled occasion u _ _ handles result =>
    have hopened : (s.opened occasion).grants = s.grants := by cases occasion <;> rfl
    have hsame := grants_eq handles.decisions_eq
    have hkept : (s.turn P).grants = u.grants := by rw [result]; rfl
    omega
  | ticked due result =>
    have hopened : (s.opened .tick).grants = s.grants := rfl
    have hkept : (s.turn P).grants = ((s.opened .tick).onTick P).grants := by rw [result]; rfl
    cases hlive : s.watchdog.cancelled with
    | true =>
      exfalso
      cases onTick_ticks P (s.opened .tick) with
      | stopped _ stopped =>
        have hsame := grants_eq (Handles.of_calls (observe_calls P (s.opened .tick))).decisions_eq
        rw [← stopped] at hsame
        omega
      | terminated live | zombie live | quiet live =>
        have hsame : s.watchdog.cancelled = false := live
        rw [hlive] at hsame
        cases hsame
    | false =>
      have hsame := grants_eq (tick_route P (s.opened .tick) hlive).handles.decisions_eq
      have hnoted := noted_grants P (s.opened .tick)
      by_cases hrelaunch : ((s.opened .tick).outcome P).restart = .relaunch
      · have hone : [((s.opened .tick).outcome P).restart].count .relaunch = 1 := by
          rw [hrelaunch]
          rfl
        exact ⟨due, rfl, hrelaunch, by omega⟩
      · have hnone : [((s.opened .tick).outcome P).restart].count .relaunch = 0 := by
          rw [List.count_eq_zero, List.mem_singleton]
          exact fun h => hrelaunch h.symm
        omega

/-- A relaunch that is granted is carried out at once for a parked restart, or is scheduled. -/
theorem turn_of_grant (h : s.grants < (s.turn P).grants) :
    (s.turn P).launches = s.launches + 1 ∧ (s.turn P).watchdog.pending = false ∨
      (s.turn P).launches = s.launches ∧ (s.turn P).watchdog.pending = true ∧
        (s.turn P).running = true := by
  obtain ⟨hdue, hlive, hrelaunch, -⟩ := turn_grants h
  have hrunning : (s.turn P).running = true := turn_running hdue (by simp)
  have hnoted := (noted_noLaunch P (s.opened .tick)).launches_eq
  have hbefore : (s.opened .tick).launches = s.launches := rfl
  have hpending : ((s.opened .tick).noted P).watchdog.pending = true := by
    have hwatchdog : ((s.opened .tick).noted P).watchdog = ((s.opened .tick).watchdog.observe
        ((s.opened .tick).observe P).1).2 := by rw [noted_frame]
    have hdecided : ((s.opened .tick).watchdog.observe ((s.opened .tick).observe P).1).1.restart =
        .relaunch := hrelaunch
    rw [hwatchdog]
    cases Watchdog.observe_observes (s.opened .tick).watchdog ((s.opened .tick).observe P).1 with
    | relaunch _ _ _ _ _ result => rw [result]
    | repeated _ decided | changed _ _ decided | exhausted _ _ _ _ decided
    | coalesced _ _ _ decided => rw [hdecided] at decided; cases decided
  have hkept : (s.turn P).launches = ((s.opened .tick).onTick P).launches ∧
      (s.turn P).watchdog = ((s.opened .tick).onTick P).watchdog := by
    rw [turn_eq hdue]
    exact ⟨rfl, rfl⟩
  rcases (tick_route P (s.opened .tick) hlive).launches with ⟨hnone, hsame⟩ | honce
  · right
    have hlaunches := NoLaunch.launches_eq hnone
    rw [← hsame] at hpending
    rw [hkept.2]
    exact ⟨by omega, hpending, hrunning⟩
  · left
    have hlaunches := honce.launched
    rw [hkept.2, honce.picked]
    exact ⟨by omega, rfl⟩

variable (P) in
/-- How a relaunch that is granted in the turn of `s` is carried out, when the loop is in `t` before
it turns again. -/
inductive Attempted (s t : Supervisor σ) : Prop where
  /-- The same turn attempted one launch, to settle a parked restart, and none is scheduled. -/
  | atOnce (launched : t.launches = s.launches + 1) (done : t.watchdog.pending = false)
  /-- The next turn attempts one launch, and none is scheduled any more. -/
  | next (untouched : t.launches = s.launches) (due : t.due? = some .relaunch)
      (launched : (t.turn P).launches = s.launches + 1)
      (done : (t.turn P).watchdog.pending = false)
  /-- The cancellation token has fired, and the next turn ends the loop. -/
  | cancelled (untouched : t.launches = s.launches) (fired : t.cancelled = true)
      (due : t.due? = some .cancelled)

variable (P s) in
/-- From outside nothing is launched, scheduled or ended. -/
theorem run_outside {more : List (Input σ)} (h : ∀ input ∈ more, input ≠ .turn) :
    (run P s more).launches = s.launches ∧ (run P s more).watchdog = s.watchdog ∧
      (run P s more).running = s.running := by
  refine @run_invariant σ P s (fun u => u.launches = s.launches ∧ u.watchdog = s.watchdog ∧
    u.running = s.running) more ⟨rfl, rfl, rfl⟩ ?_
  rintro u ⟨hlaunches, hwatchdog, hrunning⟩ input hmem
  have hnone : NoLaunch u (step P u input) := by
    refine (step_adds P u (h input hmem)).mono ?_
    rintro _ ⟨ticket, rfl⟩
    rfl
  rw [hnone.launches_eq, step_frame P u (h input hmem)]
  exact ⟨hlaunches, hwatchdog, hrunning⟩

/-- **Every relaunch that is granted is attempted once**, before anything else is done. -/
theorem turn_attempts (h : s.grants < (s.turn P).grants) {more : List (Input σ)}
    (hmore : ∀ input ∈ more, input ≠ .turn) : Attempted P s (run P (s.turn P) more) := by
  obtain ⟨hlaunches, hwatchdog, hrunning⟩ := run_outside P (s.turn P) hmore
  generalize run P (s.turn P) more = t at *
  rcases turn_of_grant h with ⟨honce, hfree⟩ | ⟨hnone, hpending, hgoes⟩
  · exact .atOnce (hlaunches.trans honce) (by rw [hwatchdog]; exact hfree)
  · rw [hgoes] at hrunning
    rw [← hwatchdog] at hpending
    have huntouched : t.launches = s.launches := hlaunches.trans hnone
    cases hfired : t.cancelled with
    | true =>
      have hdue := due?_of_cancelled hfired
      rw [hrunning] at hdue
      exact .cancelled huntouched hfired hdue
    | false =>
      have hdue := due?_eq_relaunch.mpr ⟨hrunning, hfired, hpending⟩
      obtain ⟨hlaunch, hdone, -⟩ := relaunch_launches (P := P) hpending
      have hturn : (t.turn P).launches = (t.relaunch P).launches ∧
          (t.turn P).watchdog = (t.relaunch P).watchdog := by
        rw [turn_eq hdue]
        exact ⟨rfl, rfl⟩
      refine .next huntouched hdue ?_ ?_
      · omega
      · rw [hturn.2]
        exact hdone

/-! ## Every run -/

variable (P) in
/-- The accounts of a supervisor in `s`, after `restarts` restarts were served. -/
structure Accounted (initial : Budget) (restarts : Nat) (s : Supervisor σ) : Prop where
  /-- What was granted is charged to the budget, and nothing else is. -/
  spent : Budget.Spent s.grants initial s.watchdog.budget
  /-- No end of a process rides along with another. -/
  separate : .coalesced ∉ decisions s.trace
  /-- Only a turn grants a relaunch; it is attempted once, before the loop does anything else,
  unless the cancellation token has fired. -/
  attempted : ∀ input, s.grants < (step P s input).grants →
    input = .turn ∧ (s.turn P).grants = s.grants + 1 ∧
      ∀ more, (∀ later ∈ more, later ≠ .turn) → Attempted P s (run P (s.turn P) more)
  /-- No launch is made but the first, and for a relaunch or a restart. -/
  bounded : s.launches ≤ 1 + s.grants + restarts

variable (P) in
/-- The supervision begins with one launch, and with the whole budget. -/
theorem supervise_accounts (spec : Spec) (system : σ) (sink : Option Sink) :
    (supervise P spec system sink).2.watchdog.budget = spec.budget ∧
      decisions (supervise P spec system sink).2.trace = [] ∧
      (supervise P spec system sink).2.owed = 1 := by
  have hlaunch : ((new spec system sink).launch P).2.watchdog.budget = spec.budget ∧
      ((new spec system sink).launch P).2.watchdog.pending = false ∧
      decisions ((new spec system sink).launch P).2.trace = [] ∧
      ((new spec system sink).launch P).2.launches = 1 := by
    have hwatchdog := (launch_keeps P (new spec system sink)).watchdog
    refine ⟨by rw [hwatchdog]; rfl, by rw [hwatchdog]; rfl, ?_, launch_launches P _⟩
    exact (Handles.of_launch (P := P) (s := new spec system sink)).decisions_eq
  have hbegun := @supervise_invariant σ P (fun u => u.watchdog.budget = spec.budget ∧
    u.watchdog.pending = false ∧ decisions u.trace = [] ∧ u.launches = 1) spec system sink
    hlaunch hlaunch <| by
      rintro u ⟨hbudget, hpending, hdecisions, hlaunches⟩
      have hwatchdog : u.finish.watchdog = { u.watchdog with cancelled := true } := by
        rw [← Watchdog.step_cancel]
        exact congrArg Supervisor.watchdog finish_eq
      rw [hwatchdog]
      exact ⟨hbudget, hpending, finish_decisions.trans hdecisions, finish_launches.trans hlaunches⟩
  obtain ⟨hbudget, hpending, hdecisions, hlaunches⟩ := hbegun
  refine ⟨hbudget, hdecisions, ?_⟩
  unfold owed
  rw [hpending, hlaunches, supervise_waiters]
  rfl

/-- **The accounts of every run.** -/
theorem restart_accounting (P : Platform σ) (spec : Spec) (system : σ) (sink : Option Sink)
    (inputs : List (Input σ)) :
    Accounted P spec.budget
      ((served P (supervise P spec system sink).2 inputs).countP Occasion.isRestart)
      (reached P spec system sink inputs) := by
  obtain ⟨hbudget, hundecided, howed⟩ := supervise_accounts P spec system sink
  have haccounts := run_accounts P (supervise P spec system sink).2 inputs
  obtain ⟨n, hgrants, hspent, hbound⟩ := haccounts.charged
  have hnone : (supervise P spec system sink).2.grants = 0 := by
    rw [grants, hundecided]
    rfl
  have hresult : reached P spec system sink inputs =
      run P (supervise P spec system sink).2 inputs := rfl
  rw [hnone, Nat.zero_add] at hgrants
  rw [hbudget] at hspent
  refine ⟨?_, ?_, ?_, ?_⟩
  · rw [hresult, hgrants]
    exact hspent
  · refine haccounts.separate ?_
    rw [hundecided]
    simp
  · intro input hgrant
    have hturn : input = .turn := by
      by_contra hother
      have hsame := grants_eq (s := reached P spec system sink inputs)
        (t := step P (reached P spec system sink inputs) input) <| by
          refine (step_adds P _ hother).filterMap_eq ?_
          rintro _ ⟨ticket, rfl⟩
          rfl
      omega
    subst hturn
    exact ⟨rfl, (turn_grants hgrant).2.2.2, fun more hmore => turn_attempts hgrant hmore⟩
  · rw [hresult]
    have hlaunches : (run P (supervise P spec system sink).2 inputs).launches ≤
        (run P (supervise P spec system sink).2 inputs).owed := by
      unfold owed
      omega
    omega

end Supervisor

end Overseer
