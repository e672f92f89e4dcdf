import Overseer.Proofs.Supervisor.Finality

/-!
# What the supervisor does unasked

Unless it is asked to, a supervisor sends no signal but the null signal, and turns nobody away.

* `Mild s t` -- from `s` to `t` no signal was sent and no request was refused as busy;
* `resolveWaiters_mild` -- settling the parked callers is mild, launches included; so are all the
  ways in which an exit becomes known;
* `serve_mild` -- so is every occasion on which nobody asks for anything.
-/

namespace Overseer

/-- Neither is a signal sent, nor is a request refused because another one is parked. -/
def Event.isMild : Event → Bool
  | signalled .. => false
  | answered _ reply => !Answer.isBusy reply
  | _ => true

/-- Somebody asks for something: a request is due, or the loss of the last handle. -/
def Supervisor.Occasion.isAsked : Supervisor.Occasion → Bool
  | .request .. | .detached => true
  | _ => false

namespace Supervisor

variable {σ : Type} {P : Platform σ} {s t u : Supervisor σ}

/-- From `s` to `t` no signal was sent, and no request was refused as busy. -/
abbrev Mild (s t : Supervisor σ) : Prop := Adds (fun e => e.isMild = true) s t

theorem Mild.of_answer {ticket : Ticket} {reply : Answer} (h : Answer.isBusy reply = false) :
    Mild s (s.answer ticket reply) :=
  .cons rfl (by rw [Event.isMild, h]; rfl)

/-- A request that is tried is not refused as busy. -/
theorem Mild.of_tried {ticket : Ticket} {reply : Answer} (h : Answer.isRebuff reply = false) :
    Mild s (s.answer ticket reply) := by
  refine .of_answer ?_
  cases reply with
  | ok => rfl
  | error e => cases e <;> simp_all [Answer.isRebuff, Answer.isBusy]

variable (P) (s)

/-! ## Calls and launches -/

theorem probe_mild : Mild s (s.probe P).2 := .cons rfl rfl

theorem tryWait_mild : Mild s (s.tryWait P).2 := .cons rfl rfl

theorem release_mild : Mild s (s.release P).2 := .cons rfl rfl

theorem readStatus_mild (pid : Pid) : Mild s (s.readStatus P pid).2 := .cons rfl rfl

theorem isAlive_mild : Mild s (s.isAlive P).2 := by
  unfold isAlive
  split
  · exact .of_trace_eq rfl
  · exact probe_mild P s

theorem observe_mild : Mild s (s.observe P).2 := by
  unfold observe
  split
  · exact .of_trace_eq rfl
  · next pid _ =>
    have halive := isAlive_mild P s
    split
    · next t h => rwa [h] at halive
    · next t h =>
      rw [h] at halive
      have hread := readStatus_mild P t pid
      split <;> next u hu => rw [hu] at hread; exact halive.trans hread

theorem launch_mild : Mild s (s.launch P).2 := by
  rcases launch_cases P s with ⟨e, cause, -, -, h⟩ | ⟨e, cause, -, h⟩ | ⟨pid, reading, -, h⟩
  · exact .cons h rfl
  · exact ⟨[.launched (.error e), .started (.error cause)], h, by simp [Event.isMild]⟩
  · exact ⟨[.launched (.ok pid), .statusRead reading, .started (.ok pid)], h,
      by simp [Event.isMild]⟩

theorem relaunchNow_mild : Mild s (s.relaunchNow P).2 := by
  unfold relaunchNow
  split
  · exact (release_mild P s).trans (launch_mild P _)
  · exact launch_mild P { s with watchdog := s.watchdog.takeRestart.2 }

theorem relaunch_mild : Mild s (s.relaunch P) := by
  unfold relaunch
  dsimp only
  split
  · exact launch_mild P { s with watchdog := s.watchdog.takeRestart.2 }
  · exact .of_trace_eq rfl

/-! ## Settling -/

theorem told_mild (exit : Except String ExitStatus) : Mild s (s.told P exit) := by
  have hnothing : Mild s (s.nothingLeft P exit).2 := by
    cases exit with
    | ok _ => exact .of_trace_eq rfl
    | error _ => exact isAlive_mild P s
  refine hnothing.trans ((told_adds P s exit).mono ?_)
  rintro _ ⟨ticket, rfl⟩
  cases exit <;> rfl

theorem finishDelete_mild (ticket : Option Ticket) {result : Except Error Unit}
    (h : Answer.isBusy (result.map fun () => .done) = false) :
    Mild s (s.finishDelete ticket result) := by
  cases ticket with
  | none => exact .of_trace_eq rfl
  | some ticket => exact Mild.of_answer (s := { s with cancelled := true }) h

/-- **Settling everybody is mild**, a launch included. -/
theorem resolveWaiters_mild (exit : Except String ExitStatus) :
    Mild s (s.resolveWaiters P exit) := by
  have htold := told_mild P s exit
  cases resolveWaiters_settles P s exit with
  | nobody _ result => exact .of_trace_eq (congrArg Supervisor.trace result)
  | deleted ticket _ result =>
    rw [result]
    refine Adds.trans ?_ (finishDelete_mild _ ticket ?_)
    · split
      · exact htold.trans (Mild.of_answer rfl)
      · exact htold
    · cases exit <;> split <;> rfl
  | relaunched ticket _ _ _ result =>
    rw [result]
    exact (htold.trans (relaunchNow_mild P _)).trans (Mild.of_tried (relaunchNow_tried P _))
  | refused ticket _ _ _ result =>
    rw [result]
    exact htold.trans (Mild.of_tried (exitAnswer_tried exit))
  | waits _ _ _ result => rw [result]; exact htold

theorem checkWaiters_mild : Mild s (s.checkWaiters P) := by
  unfold checkWaiters
  split
  · exact .of_trace_eq rfl
  · have hwait := tryWait_mild P s
    split
    · next u h => rw [h] at hwait; exact hwait.trans (resolveWaiters_mild P u _)
    · next u h => rwa [h] at hwait
    · next u h => rw [h] at hwait; exact hwait.trans (resolveWaiters_mild P u _)

theorem park_mild (waiter : Waiter) : Mild s (s.park P waiter) :=
  checkWaiters_mild P { s with waiters := s.waiters ++ [waiter] }

theorem onTerminated_mild : Mild s (s.onTerminated P) := by
  unfold onTerminated
  split
  · exact .of_trace_eq rfl
  · have hcalls := (tryWait_mild P s).trans (release_mild P (s.tryWait P).2)
    exact hcalls.trans
      (resolveWaiters_mild P { ((s.tryWait P).2.release P).2 with startTime := none } _)

theorem reapZombie_mild : Mild s (s.reapZombie P) := by
  unfold reapZombie
  have hwait := tryWait_mild P s
  split
  · next status u h => rw [h] at hwait; exact hwait.trans (resolveWaiters_mild P u _)
  · next h => rwa [h] at hwait

theorem noticeExit_mild : Mild s (s.noticeExit P) := by
  unfold noticeExit
  split
  · exact .of_trace_eq rfl
  · have halive := isAlive_mild P s
    split
    · next u h => rwa [h] at halive
    · next u h => rw [h] at halive; exact halive.trans (onTerminated_mild P u)

/-! ## Occasions -/

/-- **A tick is mild.** -/
theorem onTick_mild : Mild s (s.onTick P) := by
  have hobserve := observe_mild P s
  have hnoted : Mild s (s.noted P) := by
    refine hobserve.trans ((noted_adds P s).mono ?_)
    intro e he
    cases e <;> simp_all [Event.isTick, Event.isMild]
  cases onTick_ticks P s with
  | stopped _ result => rw [result]; exact hobserve
  | terminated _ _ result => rw [result]; exact hnoted.trans (onTerminated_mild P _)
  | zombie _ _ result => rw [result]; exact hnoted.trans (reapZombie_mild P _)
  | quiet _ _ result => rw [result]; exact hnoted

/-- Callers who are told that the supervisor has ended are not refused as busy. -/
theorem finish_mild : Mild s s.finish := by
  refine finish_adds.mono ?_
  rintro _ ⟨ticket, rfl⟩
  rfl

/-- **Every occasion on which nobody asks for anything is mild.** -/
theorem serve_mild {occasion : Occasion} (h : occasion.isAsked = false) :
    Mild s (s.serve P occasion) := by
  cases occasion with
  | cancelled => exact finish_mild s
  | relaunch => exact relaunch_mild P s
  | exitCheck => exact checkWaiters_mild P s
  | tick => exact onTick_mild P (s.opened .tick)
  | request | detached => cases h

variable {P s} in
/-- What happens from outside is mild. -/
theorem step_mild {input : Input σ} (h : input ≠ .turn) : Mild s (step P s input) := by
  refine (step_adds P s h).mono ?_
  rintro _ ⟨ticket, rfl⟩
  rfl

end Supervisor

end Overseer
