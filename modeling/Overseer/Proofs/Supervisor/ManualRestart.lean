import Overseer.Proofs.Supervisor.Accounting
import Overseer.Proofs.Supervisor.StopWindow
import Overseer.Proofs.Supervisor.Terminations
import Overseer.ScriptedProcess

/-!
# The budget while a restart is parked

The exit check, the collection of a zombie and the restart itself settle the callers and charge
nothing.  A tick charges first and settles afterwards, so that it charges for an end that a restart
has brought about as for any other.

* `Charges` -- the ticks that charge the budget; `turn_budget`, `Charges.grants` -- they do, and
  nothing else does;
* `RestartWindow` -- from the acceptance of a restart that is parked to its answer;
* `ChargedRestart` -- the two ways in which a tick of the window charges: it settles the restart
  itself, or a kill has let go of the process before and it settles nobody;
* `manual_restart_budget` -- when a restart finds the budget as it was.
-/

namespace Overseer

namespace Supervisor

variable {σ : Type} {P : Platform σ} {s t : Supervisor σ}

/-! ## Ticks that charge -/

variable (P s) in
/-- A tick is due that finds the process gone where the last one did not, and a relaunch is left. -/
structure Charges : Prop where
  due : s.due? = some .tick
  gone : (s.observe P).1 = .terminated
  changed : s.watchdog.last ≠ some .terminated
  granted : s.watchdog.budget.consume.1 = true

/-- Such a tick grants a relaunch. -/
theorem Charges.grants (h : Charges P s) (hs : Watchful s) :
    (s.turn P).grants = s.grants + 1 := by
  have hdecisions := (turn_of_gone_policy hs h.due h.gone).1
  have hfree := not_pending_of_due h.due (by simp) (by simp)
  have hrelaunch : (s.watchdog.observe .terminated).1.restart = .relaunch := by
    cases Watchdog.observe_observes s.watchdog .terminated with
    | relaunch _ _ _ _ decided => exact decided
    | repeated same => exact absurd same h.changed
    | changed _ there => exact absurd rfl there
    | coalesced _ _ scheduled => rw [hfree] at scheduled; cases scheduled
    | exhausted _ _ _ refused => rw [h.granted] at refused; cases refused
  rw [Supervisor.grants, hdecisions, hrelaunch, List.count_cons_self, Supervisor.grants]

/-- Nothing but a tick's own work touches the budget. -/
theorem Handles.budget_eq (h : Handles s t) : t.watchdog.budget = s.watchdog.budget := by
  rcases h.watchdog with hw | hw <;> rw [hw]
  rfl

/-- No other turn touches the budget. -/
theorem turn_budget (hs : Watchful s) (h : ¬ Charges P s) :
    (s.turn P).watchdog.budget = s.watchdog.budget := by
  cases turn_turns P s with
  | idle _ result => rw [result]
  | ended _ result =>
    have hfinish : s.finish.rearm.watchdog.budget = s.finish.watchdog.budget := rfl
    rw [result, hfinish, finish_eq, Watchdog.step_cancel]
  | @handled occasion u _ _ handles result =>
    have hopened : (s.opened occasion).watchdog = s.watchdog := by cases occasion <;> rfl
    have hkept : u.rearm.watchdog = u.watchdog := rfl
    rw [result, hkept, handles.budget_eq, hopened]
  | ticked due result =>
    have hroute := tick_route P (s.opened .tick) (hs.alert (running_of_due due))
    have hkept : ((s.opened .tick).onTick P).rearm.watchdog =
        ((s.opened .tick).onTick P).watchdog := rfl
    have hnoted : ((s.opened .tick).noted P).watchdog =
        (s.watchdog.observe (s.observe P).1).2 := by
      rw [noted_frame, opened_observe.1]
      rfl
    rw [result, hkept, hroute.handles.budget_eq, hnoted]
    cases Watchdog.observe_observes s.watchdog (s.observe P).1 with
    | relaunch fresh gone _ granted => exact absurd ⟨due, gone, gone ▸ fresh, granted⟩ h
    | repeated _ _ result | changed _ _ _ result | coalesced _ _ _ _ result
    | exhausted _ _ _ _ _ result => rw [result]

/-! ## Runs -/

variable (P s) in
/-- Some tick of the run charges the budget. -/
def ChargedWithin (inputs : List (Input σ)) : Prop :=
  ∃ before after, inputs = before ++ .turn :: after ∧ Charges P (run P s before)

theorem Watchful.run (hs : Watchful s) (inputs : List (Input σ)) : Watchful (run P s inputs) :=
  run_invariant hs fun _ hu input _ => hu.step input

variable (P s) in
/-- What is granted stays granted. -/
theorem grants_le_run (inputs : List (Input σ)) : s.grants ≤ (run P s inputs).grants := by
  obtain ⟨n, hgrants, -, -⟩ := (run_accounts P s inputs).charged
  omega

/-- A run keeps the budget, if none of its ticks charges it. -/
theorem run_budget_of_uncharged (hs : Watchful s) {inputs : List (Input σ)}
    (h : ¬ ChargedWithin P s inputs) :
    (run P s inputs).watchdog.budget = s.watchdog.budget := by
  induction inputs using List.reverseRecOn with
  | nil => rfl
  | append_singleton rest input ih =>
    have hrest : (run P s rest).watchdog.budget = s.watchdog.budget := by
      refine ih ?_
      rintro ⟨before, after, rfl, hcharges⟩
      exact h ⟨before, after ++ [input], by simp, hcharges⟩
    rw [run_concat, ← hrest]
    by_cases hturn : input = .turn
    · subst hturn
      exact turn_budget (hs.run rest) fun hcharges => h ⟨rest, [], rfl, hcharges⟩
    · rw [step_frame P _ hturn]

/-- **A run keeps the budget** exactly when there is no limit to it, or no tick charges it. -/
theorem run_budget_iff (hs : Watchful s) (inputs : List (Input σ)) :
    (run P s inputs).watchdog.budget = s.watchdog.budget ↔
      s.watchdog.budget = .infinite ∨ ¬ ChargedWithin P s inputs := by
  obtain ⟨n, hgrants, hspent, -⟩ := (run_accounts P s inputs).charged
  constructor
  · intro hkept
    rcases hspent with ⟨hinfinite, -⟩ | ⟨-, -, hcount⟩
    · exact .inl hinfinite
    · right
      rintro ⟨before, after, rfl, hcharges⟩
      have hbefore := grants_le_run P s before
      have hafter := grants_le_run P ((run P s before).turn P) after
      have hone := hcharges.grants (hs.run before)
      have hsplit : run P s (before ++ .turn :: after) =
          run P ((run P s before).turn P) after := run_append before (.turn :: after)
      rw [hsplit] at hgrants hkept hcount
      rw [hkept] at hcount
      omega
  · rintro (hinfinite | hnone)
    · rcases hspent with ⟨-, hafter⟩ | ⟨hlimited, -⟩
      · rw [hafter, hinfinite]
      · exact absurd hinfinite hlimited
    · exact run_budget_of_uncharged hs hnone

/-! ## The window of a restart -/

variable (P s) in
/-- The first input of the window accepts a restart, which is parked from then on, or is answered at
once; the last input answers it. -/
structure RestartWindow (ticket : Ticket) (window : List (Input σ)) : Prop where
  due : s.due? = some (.request ticket .restart)
  accepted : s.stopParked = false
  opens : window.head? = some .turn
  parked : ∀ n, 0 < n → n < window.length →
    .restart ticket ∈ (run P s (window.take n)).waiters
  answered : ∃ before input reply, window = before ++ [input] ∧
    Made (.answered ticket reply) (run P s before) (run P s window)

variable (P s) in
/-- How a tick of the window that is followed by `after` charges the budget. -/
inductive ChargedRestart (after : List (Input σ)) : Prop where
  /-- It lets go of the process, and settles the restart itself. -/
  | settling (last : after = []) (held : (s.observe P).2.pid P ≠ none)
      (settled : EverybodySettled s (s.turn P))
  /-- A kill has let go of the process: the restart stays parked, beside a relaunch. -/
  | killed (more : after ≠ []) (free : (s.observe P).2.pid P = none)
      (unsettled : NobodySettled s (s.turn P)) (scheduled : (s.turn P).due? = some .relaunch)

namespace RestartWindow

variable {ticket : Ticket} {window before after : List (Input σ)}

/-- The restart is parked before and after a tick in the middle of the window. -/
theorem parked_around (h : RestartWindow P s ticket window)
    (hwindow : window = before ++ .turn :: after) (hdue : (run P s before).due? = some .tick) :
    .restart ticket ∈ (run P s before).waiters ∧
      (after ≠ [] → .restart ticket ∈ ((run P s before).turn P).waiters) := by
  have hlength : window.length = before.length + 1 + after.length := by
    rw [hwindow, List.length_append, List.length_cons]
    omega
  have hbefore : before ≠ [] := by
    -- The first input serves the restart, and is no tick.
    rintro rfl
    have hrequest := h.due
    rw [run, List.foldl_nil, hrequest] at hdue
    cases hdue
  have hpos := List.length_pos_iff.mpr hbefore
  constructor
  · have hparked := h.parked before.length hpos (by omega)
    rwa [hwindow, List.take_left] at hparked
  · intro hafter
    have hmore := List.length_pos_iff.mpr hafter
    have hparked := h.parked (before.length + 1) (by omega) (by omega)
    have htake : window.take (before.length + 1) = before ++ [.turn] := by
      rw [hwindow, List.take_length_add_append]
      rfl
    rwa [htake, run_concat] at hparked

/-- A tick that charges settles the restart as the last input of the window, or settles nobody. -/
theorem charged (h : RestartWindow P s ticket window) (hs : Watchful (run P s before))
    (hone : OneStop (run P s before).waiters) (hwindow : window = before ++ .turn :: after)
    (hcharges : Charges P (run P s before)) : ChargedRestart P (run P s before) after := by
  obtain ⟨hparked, hstill⟩ := h.parked_around hwindow hcharges.due
  by_cases hfree : ((run P s before).observe P).2.pid P = none
  · have hnobody := nobodySettled_of_free hs hcharges.due hcharges.gone hfree
    have hstop : (run P s before).stopParked = true :=
      List.any_eq_true.mpr ⟨.restart ticket, hparked, rfl⟩
    refine .killed ?_ hfree hnobody ((turn_revives hs).mpr ⟨hcharges.due, hstop, hcharges.gone,
      hfree, hcharges.changed, hcharges.granted⟩).1
    -- The last input of the window answers the restart.
    rintro rfl
    obtain ⟨rest, input, reply, hlast, hmade⟩ := h.answered
    obtain ⟨rfl, hinput⟩ := List.append_inj' (hwindow.symm.trans hlast) rfl
    rw [hwindow, run_concat] at hmade
    exact hnobody.unanswered ticket reply hmade
  · have hsettled := everybodySettled_of_held hs hone hcharges.due hcharges.gone hfree
    refine .settling ?_ hfree hsettled
    by_contra hmore
    have hleft := hstill hmore
    rw [hsettled.nobody] at hleft
    cases hleft

end RestartWindow

/-- **The budget of a restart.**  When a restart is answered the budget is what it was when it was
accepted, unless it has a limit and a tick of the window charged it: the tick that settled the
restart, or one that came after a kill and settled nobody. -/
theorem manual_restart_budget (P : Platform σ) (spec : Spec) (system : σ) (sink : Option Sink)
    (inputs : List (Input σ)) {ticket : Ticket} {window : List (Input σ)}
    (h : RestartWindow P (reached P spec system sink inputs) ticket window) :
    ((reached P spec system sink (inputs ++ window)).watchdog.budget =
        (reached P spec system sink inputs).watchdog.budget ↔
      (reached P spec system sink inputs).watchdog.budget = .infinite ∨
        ¬ ChargedWithin P (reached P spec system sink inputs) window) ∧
    ∀ before after, window = before ++ .turn :: after →
      Charges P (reached P spec system sink (inputs ++ before)) →
      ChargedRestart P (reached P spec system sink (inputs ++ before)) after := by
  have hrun (more : List (Input σ)) : reached P spec system sink (inputs ++ more) =
      run P (reached P spec system sink inputs) more := run_append inputs more
  constructor
  · rw [hrun]
    exact run_budget_iff (Watchful.of_reached P spec system sink inputs) window
  · intro before after hwindow hcharges
    have hs := Watchful.of_reached P spec system sink (inputs ++ before)
    have hone := (requests_reached P spec system sink (inputs ++ before)).1
    rw [hrun] at hs hone hcharges ⊢
    exact h.charged hs hone hwindow hcharges

/-- A process that ignores `Signal.term`, with a budget of two relaunches, after a restart was sent
and after some inputs. -/
def restarting (inputs : List (Input ScriptedProcess)) : Supervisor ScriptedProcess :=
  reached ScriptedProcess.platform (ScriptedProcess.spec (.limited 2))
    { script := { ignored := [.term] } } none ([.send 0 .restart] ++ inputs)

/-- The restart is parked and the process vanishes.  The exit check finds no exit status, and a tick
finds the process gone. -/
def vanishesForRestart : List (Input ScriptedProcess) :=
  [.turn, .world fun p => { p with life := .vanished }, .elapse 1000, .turn, .turn]

/-- **The tick that settles the restart charges the budget**, though the process was restarted by
hand. -/
theorem restart_charged :
    ChargedRestart ScriptedProcess.platform (restarting vanishesForRestart.dropLast) [] ∧
      (restarting vanishesForRestart).watchdog.budget ≠ (restarting []).watchdog.budget := by
  have hwindow : RestartWindow ScriptedProcess.platform (restarting []) 0 vanishesForRestart := by
    refine ⟨by decide, by decide, rfl, ?_, vanishesForRestart.dropLast, .turn,
      .ok (.restarted 1002), rfl, [], (restarting vanishesForRestart).trace.tail, rfl,
      (restarting vanishesForRestart).trace.tail.take 9, rfl⟩
    intro n hpos hless
    have hlength : vanishesForRestart.length = 5 := rfl
    obtain rfl | rfl | rfl | rfl : n = 1 ∨ n = 2 ∨ n = 3 ∨ n = 4 := by omega
    all_goals decide
  have hcharges : Charges ScriptedProcess.platform (restarting vanishesForRestart.dropLast) :=
    ⟨by decide, by decide, by decide, by decide⟩
  obtain ⟨hbudget, hcharged⟩ := manual_restart_budget ScriptedProcess.platform
    (ScriptedProcess.spec (.limited 2)) { script := { ignored := [.term] } } none [.send 0 .restart]
    hwindow
  refine ⟨hcharged vanishesForRestart.dropLast [] rfl hcharges, fun hkept => ?_⟩
  rcases hbudget.mp hkept with hinfinite | hnone
  · cases hinfinite
  · exact hnone ⟨vanishesForRestart.dropLast, [], rfl, hcharges⟩

end Supervisor

end Overseer
