import Overseer.Proofs.Supervisor.AwaitedExit
import Overseer.Proofs.Supervisor.StopWindow
import Overseer.Proofs.Supervisor.Timing

/-!
# The start time and the process that is held

* `Stale` -- a start time is recorded with nothing held;
* `Lingers`, `Strands` -- a launch for a parked restart fails and leaves the start time of the
  process that was launched beside it, and leaves nothing held;
* `turn_stale`, `turn_failed` -- no other turn does;
* `stale_iff_stranded`, `start_time_held` -- so it is in every run.
-/

namespace Overseer

namespace Supervisor

variable {σ : Type} {P : Platform σ} {s t : Supervisor σ}

/-! ## Start times that are left behind -/

variable (P s) in
/-- A start time is recorded, and nothing is held. -/
def Stale : Prop := s.startTime ≠ none ∧ s.pid P = none

variable (P s) in
/-- The launch for a parked restart fails, and the start time of the process before is left: the
process was launched when the restart was parked already, and its exit status is collected. -/
structure Lingers : Prop where
  timed : s.startTime ≠ none
  held : s.pid P ≠ none
  collects : Collects P s
  failed : ∃ e, Made (.launched (.error e)) s (s.turn P)

variable (P s) in
/-- Such a turn leaves nothing held. -/
structure Strands : Prop where
  lingers : Lingers P s
  free : (s.turn P).pid P = none

variable (P s) in
/-- A relaunch is scheduled only when the start time was cleared, or was left behind. -/
def ScheduledFree : Prop := s.due? = some .relaunch → s.startTime ≠ none → s.pid P = none

theorem Quiet.not_failed (h : Quiet s t) (e : Error) : ¬ Made (.launched (.error e)) s t :=
  fun hmade => h.fine.of_made hmade e rfl

/-- A launch that fails in a turn is the only one of it. -/
theorem turn_failure (H : Holding P) {e : Error}
    (h : Made (.launched (.error e)) s (s.turn P)) : FailedLaunch s (s.turn P) := by
  cases turn_timing H s with
  | still hstill => exact absurd h (hstill.quiet.not_failed e)
  | cleared _ _ quiet => exact absurd h (quiet.not_failed e)
  | launched hlaunched => exact absurd rfl (hlaunched.fine.of_made h e)
  | failed _ failure | dropped _ failure => exact failure

/-- **A launch that fails** leaves a start time exactly when it lingers, or was left before. -/
theorem turn_failed (H : Holding P) (hfree : ScheduledFree P s) {e : Error}
    (h : Made (.launched (.error e)) s (s.turn P)) :
    (s.turn P).startTime ≠ none ↔ Lingers P s ∨ Stale P s := by
  cases turn_timing H s with
  | still hstill => exact absurd h (hstill.quiet.not_failed e)
  | cleared _ _ quiet => exact absurd h (quiet.not_failed e)
  | launched hlaunched => exact absurd rfl (hlaunched.fine.of_made h e)
  | failed why _ time =>
    rw [time]
    constructor
    · intro htimed
      by_cases hheld : s.pid P = none
      · exact .inr ⟨htimed, hheld⟩
      · rcases why with hnone | hdue | hcollects
        · exact absurd hnone hheld
        · exact absurd (hfree hdue htimed) hheld
        · exact .inl ⟨htimed, hheld, hcollects, e, h⟩
    · rintro (hlingers | hstale)
      · exact hlingers.timed
      · exact hstale.1
  | dropped why _ time =>
    rw [time]
    refine iff_of_false (by simp) ?_
    rintro (hlingers | hstale)
    · exact why.2 hlingers.collects
    · exact why.1 hstale.2

/-- **A turn leaves a start time with nothing held** by such a launch, and by nothing else; and a
start time that is left stays until a process is created. -/
theorem turn_stale (H : Holding P) (hfree : ScheduledFree P s) :
    Stale P (s.turn P) ↔
      Strands P s ∨ Stale P s ∧ instances (s.turn P).trace = instances s.trace := by
  have hquietly (quiet : Quiet s (s.turn P)) : ¬ Strands P s := by
    intro h
    obtain ⟨e, hmade⟩ := h.lingers.failed
    exact quiet.not_failed e hmade
  cases turn_timing H s with
  | still h =>
    have hsame : Stale P (s.turn P) ↔ Stale P s := by rw [Stale, Stale, h.time, h.pid]
    rw [hsame]
    exact ⟨fun hstale => .inr ⟨hstale, h.quiet.instances_eq⟩,
      fun hstale => (hstale.resolve_left (hquietly h.quiet)).1⟩
  | cleared held time quiet =>
    refine iff_of_false (fun hstale => hstale.1 time) ?_
    rintro (hstrands | hstale)
    · exact hquietly quiet hstrands
    · exact held hstale.1.2
  | launched h =>
    refine iff_of_false (fun hstale => h.held hstale.2) ?_
    rintro (hstrands | ⟨-, hsame⟩)
    · obtain ⟨e, hmade⟩ := hstrands.lingers.failed
      exact h.fine.of_made hmade e rfl
    · have hfresh := h.fresh
      omega
  | failed _ failure _ free =>
    obtain ⟨e, hmade⟩ := failure.made
    have htimed := turn_failed H hfree hmade
    constructor
    · rintro ⟨htime, hnone⟩
      rcases htimed.mp htime with hlingers | hstale
      · exact .inl ⟨hlingers, hnone⟩
      · exact .inr ⟨hstale, failure.same⟩
    · rintro (hstrands | ⟨hstale, -⟩)
      · exact ⟨htimed.mpr (.inl hstrands.lingers), hstrands.free⟩
      · exact ⟨htimed.mpr (.inr hstale), free hstale.2⟩
  | dropped why _ time =>
    refine iff_of_false (fun hstale => hstale.1 time) ?_
    rintro (hstrands | hstale)
    · exact why.2 hstrands.lingers.collects
    · exact why.1 hstale.1.2

/-- A relaunch is scheduled by a tick, which found nothing held or has cleared the start time. -/
theorem turn_scheduledFree (H : Holding P) (hs : Watchful s) : ScheduledFree P (s.turn P) := by
  intro hdue htime
  obtain ⟨hticked, hgone, -⟩ := scheduled_by_tick hs hdue
  have hpending := (due?_eq_relaunch.mp hdue).2.2
  rw [turn_of_gone hs hticked hgone] at hpending htime ⊢
  by_cases hheld : ((s.opened .tick).noted P).pid P = none
  · rw [onTerminated_of_free hheld]
    exact hheld
  · obtain ⟨u, exit, -, hcleared, hresult⟩ := onTerminated_clears _ hheld
    rw [hresult] at hpending htime
    rcases resolveWaiters_launches u H exit with hstill | ⟨ticket, -, -, hlaunched⟩
    · exact absurd (hstill.time.trans hcleared) htime
    · have hpicked : (u.resolveWaiters P exit).watchdog.pending = false := by
        rw [hlaunched]
        exact relaunchNow_pending P (u.told P exit)
      exact absurd (hpending.symm.trans hpicked) (by simp)

/-! ## Runs -/

/-- The surroundings, where they change on their own, leave alone which process is held. -/
def Input.Steadies (P : Platform σ) : Input σ → Prop
  | .world change => ∀ x, P.pid (change x) = P.pid x
  | _ => True

/-- What happens from outside concerns neither the start time nor the process that is held. -/
theorem step_still {input : Input σ} (hturn : input ≠ .turn) (hsteady : input.Steadies P) :
    Still P s (step P s input) := by
  have hquiet : Quiet s (step P s input) := by
    refine (step_adds P s hturn).mono ?_
    rintro _ ⟨ticket, rfl⟩
    rfl
  refine ⟨by rw [step_frame P s hturn], ?_, hquiet⟩
  cases input with
  | turn => exact absurd rfl hturn
  | world change => exact hsteady s.system
  | send ticket request =>
    rw [step, send_frame]
    rfl
  | _ => rfl

theorem step_scheduledFree (hs : ScheduledFree P s) {input : Input σ} (hturn : input ≠ .turn)
    (hsteady : input.Steadies P) : ScheduledFree P (step P s input) := by
  have hstill := step_still (s := s) hturn hsteady
  have hframe := step_frame P s hturn
  intro hdue
  obtain ⟨hrunning, hcancelled, hpending⟩ := due?_eq_relaunch.mp hdue
  rw [hstill.time, hstill.pid]
  refine hs (due?_eq_relaunch.mpr ⟨by rwa [hframe] at hrunning, ?_, by rwa [hframe] at hpending⟩)
  by_cases hcancel : input = .cancel
  · subst hcancel
    cases hcancelled
  · rwa [step_cancelled P s hturn hcancel] at hcancelled

theorem step_stale (H : Holding P) (hfree : ScheduledFree P s) {input : Input σ}
    (hsteady : input.Steadies P) :
    Stale P (step P s input) ↔ input = .turn ∧ Strands P s ∨
      Stale P s ∧ instances (step P s input).trace = instances s.trace := by
  by_cases hturn : input = .turn
  · subst hturn
    rw [step, turn_stale H hfree, and_iff_right rfl]
  · have hstill := step_still (s := s) hturn hsteady
    rw [Stale, hstill.time, hstill.pid, hstill.quiet.instances_eq]
    simp [hturn, Stale]

section

variable (H : Holding P) (spec : Spec) (system : σ) (sink : Option Sink)

include H

/-- The first launch holds a process, or records no start time. -/
theorem supervise_not_stale : ¬ Stale P (supervise P spec system sink).2 := by
  have hlaunch : ¬ Stale P ((new spec system sink).launch P).2 := by
    rintro ⟨htime, hfree⟩
    rcases launch_times (new spec system sink) H with h | ⟨-, hsame, -⟩
    · exact h.held hfree
    · exact htime hsame
  refine @supervise_invariant σ P (fun u => ¬ Stale P u) spec system sink hlaunch hlaunch ?_
  intro u hu hstale
  rw [Stale, finish_eq] at hstale
  exact hu hstale

omit H in
theorem supervise_scheduledFree : ScheduledFree P (supervise P spec system sink).2 := by
  have hlaunch : ((new spec system sink).launch P).2.watchdog.pending = false := by
    rw [(launch_keeps P _).watchdog]
    rfl
  have hfree : (supervise P spec system sink).2.watchdog.pending = false := by
    refine @supervise_invariant σ P (fun u => u.watchdog.pending = false) spec system sink hlaunch
      hlaunch ?_
    intro u hu
    rw [finish_eq, Watchdog.step_cancel]
    exact hu
  intro hdue
  have hpending := (due?_eq_relaunch.mp hdue).2.2
  rw [hfree] at hpending
  cases hpending

theorem reached_scheduledFree {inputs : List (Input σ)}
    (hsteady : ∀ input ∈ inputs, input.Steadies P) :
    ScheduledFree P (reached P spec system sink inputs) := by
  induction inputs using List.reverseRecOn with
  | nil => exact supervise_scheduledFree spec system sink
  | append_singleton rest input ih =>
    have hrest := ih fun earlier hearlier => hsteady earlier (by simp [hearlier])
    rw [reached_concat]
    by_cases hturn : input = .turn
    · subst hturn
      exact turn_scheduledFree H (Watchful.of_reached P spec system sink rest)
    · exact step_scheduledFree hrest hturn (hsteady input (by simp))

/-- **A start time is recorded with nothing held** exactly when a turn has left it so, and no
process was created since. -/
theorem stale_iff_stranded {inputs : List (Input σ)}
    (hsteady : ∀ input ∈ inputs, input.Steadies P) :
    Stale P (reached P spec system sink inputs) ↔
      ∃ before after, inputs = before ++ .turn :: after ∧
        Strands P (reached P spec system sink before) ∧
        instances (reached P spec system sink inputs).trace =
          instances (reached P spec system sink before).trace := by
  induction inputs using List.reverseRecOn with
  | nil =>
    refine iff_of_false (supervise_not_stale H spec system sink) ?_
    rintro ⟨before, after, hinputs, -⟩
    cases before <;> cases hinputs
  | append_singleton rest input ih =>
    have hrest : ∀ earlier ∈ rest, Input.Steadies P earlier :=
      fun earlier hearlier => hsteady earlier (by simp [hearlier])
    specialize ih hrest
    have hfree := reached_scheduledFree H spec system sink hrest
    rw [reached_concat, step_stale H hfree (hsteady input (by simp))]
    constructor
    · rintro (⟨rfl, hstrands⟩ | ⟨hstale, hsame⟩)
      · obtain ⟨e, hmade⟩ := hstrands.lingers.failed
        exact ⟨rest, [], rfl, hstrands, (turn_failure H hmade).same⟩
      · obtain ⟨before, after, rfl, hstrands, hsince⟩ := ih.mp hstale
        exact ⟨before, after ++ [input], by simp, hstrands, hsame.trans hsince⟩
    · rintro ⟨before, after, hinputs, hstrands, hsince⟩
      rcases concat_eq_split hinputs with ⟨rfl, hturn, -⟩ | ⟨more, rfl, rfl⟩
      · exact .inl ⟨hturn.symm, hstrands⟩
      · -- No process was created before the last input either.
        have hearlier := run_instances_le P (reached P spec system sink before) (.turn :: more)
        have hlast := step_instances_le P
          (reached P spec system sink (before ++ .turn :: more)) input
        have hrun : reached P spec system sink (before ++ .turn :: more) =
            run P (reached P spec system sink before) (.turn :: more) := run_append _ _
        rw [← hrun] at hearlier
        exact .inr ⟨ih.mpr ⟨before, more, rfl, hstrands, by omega⟩, by omega⟩

end

/-- **A recorded start time tells that a process is held**, unless a launch for a parked restart has
failed and left the start time of the process that it let go of, and no process was created since.
No other launch that fails leaves a start time, but one that was left before. -/
theorem start_time_held {P : Platform σ} (H : Holding P) (spec : Spec) (system : σ)
    (sink : Option Sink) {inputs : List (Input σ)}
    (hsteady : ∀ input ∈ inputs, input.Steadies P) :
    (Stale P (reached P spec system sink inputs) ↔
      ∃ before after, inputs = before ++ .turn :: after ∧
        Strands P (reached P spec system sink before) ∧
        instances (reached P spec system sink inputs).trace =
          instances (reached P spec system sink before).trace) ∧
    ∀ e, Made (.launched (.error e)) (reached P spec system sink inputs)
        ((reached P spec system sink inputs).turn P) →
      (((reached P spec system sink inputs).turn P).startTime ≠ none ↔
        Lingers P (reached P spec system sink inputs) ∨
          Stale P (reached P spec system sink inputs)) :=
  ⟨stale_iff_stranded H spec system sink hsteady, fun _ hmade =>
    turn_failed H (reached_scheduledFree H spec system sink hsteady) hmade⟩

/-- A process that ignores `Signal.term`, with a budget of one relaunch, after some inputs. -/
def stubborn (inputs : List (Input ScriptedProcess)) : Supervisor ScriptedProcess :=
  reached ScriptedProcess.platform (ScriptedProcess.spec (.limited 1))
    { script := { ignored := [.term] } } none inputs

/-- The process is restarted, and killed just before a tick, which brings another one back beside
the parked restart.  That one exits when no process can be created. -/
def exitsBesideRestart : List (Input ScriptedProcess) :=
  [.elapse 990, .send 0 .restart, .turn, .send 1 .kill, .turn, .elapse 10, .turn, .turn,
    .world fun p =>
      { p with life := .dead, script := { p.script with failStart := some (.os .enoent) } },
    .elapse 20]

/-- **The restart fails and leaves a start time**, with nothing held. -/
theorem failed_restart_stale :
    Stale ScriptedProcess.platform (stubborn (exitsBesideRestart ++ [.turn])) := by
  have hsteady : ∀ input ∈ exitsBesideRestart ++ [.turn],
      Input.Steadies ScriptedProcess.platform input := by
    simp [exitsBesideRestart, Input.Steadies, ScriptedProcess.platform]
  have hfailed : Made (.launched (.error (.launch "/bin/mock" (.os .enoent))))
      (stubborn exitsBesideRestart)
      ((stubborn exitsBesideRestart).turn ScriptedProcess.platform) :=
    ⟨((stubborn exitsBesideRestart).turn ScriptedProcess.platform).trace.take 1,
      ((stubborn exitsBesideRestart).turn ScriptedProcess.platform).trace.drop 2, rfl,
      (((stubborn exitsBesideRestart).turn ScriptedProcess.platform).trace.drop 2).take 3, rfl⟩
  have hlingers : Lingers ScriptedProcess.platform (stubborn exitsBesideRestart) :=
    ⟨by decide, by decide, ⟨⟨0, by decide⟩, by decide⟩, _, hfailed⟩
  exact (start_time_held ScriptedProcess.platform_holding _ _ _ hsteady).1.mpr
    ⟨exitsBesideRestart, [], rfl, ⟨hlingers, by decide⟩, by decide⟩

end Supervisor

end Overseer
