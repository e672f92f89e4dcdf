import Overseer.Proofs.Holding
import Overseer.Proofs.Supervisor.Starts

/-!
# What becomes of the start time

A launch records the start time, and whatever stops the process or finds it gone clears it.  The
settling of a parked restart lets go of the process without clearing it, so that a launch that fails
there leaves the start time as it was.

* `Still` -- the start time and the process that is held are as before;
* `Timing` -- what may become of the start time; `launch_timing`, `resolveWaiters_timing`,
  `handle_timing`, `onTick_timing` and the others say it of each part of a turn;
* `Collects` -- the turns that settle a parked restart with an exit status that was collected;
* `turn_timing` -- so it is in every turn.
-/

namespace Overseer

theorem Event.not_isCreation_of_isTick {e : Event} (h : e.isTick = true) :
    e.isCreation = false := by
  cases e <;> simp_all [isTick, isCreation]

namespace Supervisor

variable {σ : Type} {P : Platform σ} {s t u : Supervisor σ} {kept cut : Prop}

/-! ## What becomes of the start time -/

variable (P) in
/-- From `s` to `t` the start time is as before, the process that is held is, and no launch was
attempted. -/
structure Still (s t : Supervisor σ) : Prop where
  time : t.startTime = s.startTime
  pid : t.pid P = s.pid P
  quiet : Quiet s t

namespace Still

theorem refl (s : Supervisor σ) : Still P s s := ⟨rfl, rfl, .of_trace_eq rfl⟩

theorem trans (hst : Still P s t) (htu : Still P t u) : Still P s u :=
  ⟨htu.time.trans hst.time, htu.pid.trans hst.pid, hst.quiet.trans htu.quiet⟩

theorem answer (h : Still P s t) (ticket : Ticket) (reply : Answer) :
    Still P s (t.answer ticket reply) :=
  ⟨h.time, h.pid, Quiet.answer h.quiet ticket reply⟩

theorem finishDelete (h : Still P s t) (ticket : Option Ticket) (result : Except Error Unit) :
    Still P s (t.finishDelete ticket result) := by
  refine ⟨?_, ?_, Quiet.finishDelete h.quiet ticket result⟩ <;> cases ticket
  · exact h.time
  · exact h.time
  · exact h.pid
  · exact h.pid

end Still

variable (P) in
/-- A process was created and is held, and its start time is recorded. -/
structure Launched (s t : Supervisor σ) : Prop where
  time : t.startTime ≠ none
  held : t.pid P ≠ none
  fresh : instances t.trace = instances s.trace + 1
  fine : Adds (fun e => ∀ error, e ≠ .launched (.error error)) s t

/-- A launch was attempted and failed, and no process was created. -/
structure FailedLaunch (s t : Supervisor σ) : Prop where
  made : ∃ e, Made (.launched (.error e)) s t
  same : instances t.trace = instances s.trace

variable (P) in
/-- What becomes of the start time from `s` to `t`.  After a launch that failed it is as before if
`kept`, and is cleared if `cut`. -/
inductive Timing (kept cut : Prop) (s t : Supervisor σ) : Prop where
  | still (h : Still P s t)
  /-- The process was asked to end or was let go of. -/
  | cleared (held : s.pid P ≠ none) (time : t.startTime = none) (quiet : Quiet s t)
  | launched (h : Launched P s t)
  | failed (why : kept) (failure : FailedLaunch s t) (time : t.startTime = s.startTime)
      (free : s.pid P = none → t.pid P = none)
  | dropped (why : cut) (failure : FailedLaunch s t) (time : t.startTime = none)

theorem Quiet.fine (h : Quiet s t) : Adds (fun e => ∀ error, e ≠ .launched (.error error)) s t := by
  refine h.mono ?_
  rintro e he error rfl
  cases he

theorem Quiet.instances_eq (h : Quiet s t) : instances t.trace = instances s.trace :=
  h.noStart.instances_eq

theorem Launched.of_quiet (h : Launched P u t) (hst : Quiet s u) : Launched P s t :=
  ⟨h.time, h.held, by rw [h.fresh, hst.instances_eq], hst.fine.trans h.fine⟩

theorem FailedLaunch.of_quiet (h : FailedLaunch u t) (hst : Quiet s u) : FailedLaunch s t := by
  obtain ⟨⟨e, hmade⟩, hsame⟩ := h
  exact ⟨⟨e, hmade.after hst.suffix⟩, hsame.trans hst.instances_eq⟩

theorem FailedLaunch.quiet (h : FailedLaunch s t) (htu : Quiet t u) : FailedLaunch s u := by
  obtain ⟨⟨e, hmade⟩, hsame⟩ := h
  exact ⟨⟨e, hmade.before htu.suffix⟩, htu.instances_eq.trans hsame⟩

namespace Timing

theorem mono {kept' cut' : Prop} (h : Timing P kept cut s t) (hkept : kept → kept')
    (hcut : cut → cut') : Timing P kept' cut' s t := by
  cases h with
  | still h => exact .still h
  | cleared held time quiet => exact .cleared held time quiet
  | launched h => exact .launched h
  | failed why failure time free => exact .failed (hkept why) failure time free
  | dropped why failure time => exact .dropped (hcut why) failure time

/-- What comes before, and changes nothing. -/
theorem after_still (hst : Still P s u) (h : Timing P kept cut u t) : Timing P kept cut s t := by
  cases h with
  | still h => exact .still (hst.trans h)
  | cleared held time quiet => exact .cleared (hst.pid ▸ held) time (hst.quiet.trans quiet)
  | launched h => exact .launched (h.of_quiet hst.quiet)
  | failed why failure time free =>
    exact .failed why (failure.of_quiet hst.quiet) (time.trans hst.time) (hst.pid ▸ free)
  | dropped why failure time => exact .dropped why (failure.of_quiet hst.quiet) time

/-- What comes after, and changes nothing. -/
theorem then_still (h : Timing P kept cut s u) (hut : Still P u t) : Timing P kept cut s t := by
  cases h with
  | still h => exact .still (h.trans hut)
  | cleared held time quiet => exact .cleared held (hut.time.trans time) (quiet.trans hut.quiet)
  | launched h =>
    exact .launched ⟨hut.time ▸ h.time, hut.pid ▸ h.held, by rw [hut.quiet.instances_eq, h.fresh],
      h.fine.trans hut.quiet.fine⟩
  | failed why failure time free =>
    exact .failed why (failure.quiet hut.quiet) (hut.time.trans time) (hut.pid ▸ free)
  | dropped why failure time => exact .dropped why (failure.quiet hut.quiet) (hut.time.trans time)

/-- A start time that was cleared before stays so, unless a launch records another one. -/
theorem after_cleared {kept' cut' : Prop} (held : s.pid P ≠ none) (time : u.startTime = none)
    (quiet : Quiet s u) (h : Timing P kept cut u t) (hcut : kept ∨ cut → cut') :
    Timing P kept' cut' s t := by
  cases h with
  | still h => exact .cleared held (h.time.trans time) (quiet.trans h.quiet)
  | cleared _ time quiet' => exact .cleared held time (quiet.trans quiet')
  | launched h => exact .launched (h.of_quiet quiet)
  | failed why failure time' =>
    exact .dropped (hcut (.inl why)) (failure.of_quiet quiet) (time'.trans time)
  | dropped why failure time => exact .dropped (hcut (.inr why)) (failure.of_quiet quiet) time

/-- Without a launch. -/
theorem of_quiet (h : Timing P kept cut s t) (quiet : Quiet s t) :
    Still P s t ∨ s.pid P ≠ none ∧ t.startTime = none := by
  have hsame := quiet.instances_eq
  cases h with
  | still h => exact .inl h
  | cleared held time => exact .inr ⟨held, time⟩
  | launched h => rw [h.fresh] at hsame; omega
  | failed _ failure | dropped _ failure =>
    obtain ⟨⟨e, hmade⟩, -⟩ := failure
    exact absurd rfl (quiet.fine.of_made hmade e)

end Timing

/-! ## Calls -/

section

variable (H : Holding P) (s)

include H

theorem signal_still (signal : Signal) : Still P s (s.signal P signal).2 :=
  ⟨rfl, H.signal (some signal) s.system, (signal_calls P s signal).quiet⟩

theorem probe_still : Still P s (s.probe P).2 :=
  ⟨rfl, H.signal none s.system, (probe_calls P s).quiet⟩

theorem tryWait_still : Still P s (s.tryWait P).2 :=
  ⟨rfl, H.tryWait s.system, (tryWait_calls P s).quiet⟩

theorem readStatus_still (pid : Pid) : Still P s (s.readStatus P pid).2 :=
  ⟨rfl, H.readStatus pid s.system, (readStatus_calls P s pid).quiet⟩

theorem isAlive_still : Still P s (s.isAlive P).2 := by
  unfold isAlive
  split
  · exact .refl s
  · exact probe_still s H

theorem observe_still : Still P s (s.observe P).2 := by
  unfold observe
  split
  · exact .refl s
  · next pid _ =>
    have halive := isAlive_still s H
    split
    · next t h => rwa [h] at halive
    · next t h =>
      rw [h] at halive
      have hread := readStatus_still t H pid
      split <;> next u hu => rw [hu] at hread; exact halive.trans hread

theorem sendSignal_still (signal : Signal) : Still P s (s.sendSignal P signal).2 := by
  unfold sendSignal
  split
  · exact .refl s
  · have hsignal := signal_still s H signal
    split <;> next t h => rwa [h] at hsignal

/-- A process that was asked to end has no start time; one that could not be asked keeps it. -/
theorem stopGraceful_clears :
    (s.stopGraceful P).1 = .ok () ∧ s.pid P ≠ none ∧ (s.stopGraceful P).2.startTime = none ∨
      (s.stopGraceful P).1 ≠ .ok () ∧ Still P s (s.stopGraceful P).2 := by
  unfold stopGraceful
  split
  · exact .inr ⟨by simp, .refl s⟩
  · next pid hpid =>
    have hsignal := signal_still s H .term
    split
    · next e t h => exact .inr ⟨by simp, by rwa [h] at hsignal⟩
    · exact .inl ⟨rfl, by simp [hpid], rfl⟩

theorem stopGraceful_timing : Timing P kept cut s (s.stopGraceful P).2 := by
  rcases stopGraceful_clears s H with ⟨-, hheld, htime⟩ | ⟨-, hstill⟩
  · exact .cleared hheld htime (stopGraceful_calls P s).quiet
  · exact .still hstill

theorem stopForced_timing : Timing P kept cut s (s.stopForced P).2 := by
  have hquiet := (stopForced_calls P s).quiet
  unfold stopForced at hquiet ⊢
  split at hquiet
  · exact .still (.refl s)
  · next pid hpid =>
    have hheld : s.pid P ≠ none := by simp [hpid]
    have hsignal := signal_still s H .kill
    split at hquiet
    · next t h => exact .still (by rwa [h] at hsignal)
    · next t h =>
      rw [h] at hsignal
      split at hquiet
      · next e u hu =>
        have hrelease : Still P t (t.release P).2 :=
          ⟨rfl, H.release_error (congrArg Prod.fst hu), (release_calls P t).quiet⟩
        rw [hu] at hrelease
        exact .still (hsignal.trans hrelease)
      · exact .cleared hheld rfl hquiet

/-! ## Launches -/

/-- A launch holds a process and records a start time, or fails and leaves both. -/
theorem attemptLaunch_times :
    (∃ pid, (s.attemptLaunch P).1 = .ok pid ∧ (s.attemptLaunch P).2.startTime ≠ none ∧
        (s.attemptLaunch P).2.pid P ≠ none) ∨
      ∃ e, (s.attemptLaunch P).1 = .error e ∧ (s.attemptLaunch P).2.startTime = s.startTime ∧
        (s.attemptLaunch P).2.pid P = s.pid P := by
  unfold attemptLaunch
  split
  · exact .inr ⟨_, rfl, rfl, rfl⟩
  · next directory _ =>
    have hresult : (s.start P directory).1 = (P.start s.spec directory s.system).1 := rfl
    have hstart : (s.start P directory).2.startTime = s.startTime ∧
        (s.start P directory).2.system = (P.start s.spec directory s.system).2 := ⟨rfl, rfl⟩
    split
    · next e t h =>
      rw [h] at hstart hresult
      have hpid := H.start_error hresult.symm
      rw [← hstart.2] at hpid
      exact .inr ⟨_, rfl, hstart.1, hpid⟩
    · next pid t h =>
      rw [h] at hstart hresult
      have hpid := H.start_ok hresult.symm
      rw [← hstart.2] at hpid
      have hread := readStatus_still { t with startTime := some t.now } H pid
      refine .inl ⟨pid, rfl, ?_, ?_⟩
      · exact fun hnone => absurd (hread.time.symm.trans hnone) (by simp)
      · exact fun hnone => hpid (hread.pid.symm.trans hnone)

theorem launch_times : Launched P s (s.launch P).2 ∨ FailedLaunch s (s.launch P).2 ∧
    (s.launch P).2.startTime = s.startTime ∧ (s.launch P).2.pid P = s.pid P := by
  have hresult : (s.launch P).1 = (s.attemptLaunch P).1 := rfl
  have hkept : (s.launch P).2.startTime = (s.attemptLaunch P).2.startTime ∧
      (s.launch P).2.pid P = (s.attemptLaunch P).2.pid P := ⟨rfl, rfl⟩
  rw [hkept.1, hkept.2]
  rcases attemptLaunch_times s H with ⟨pid, hok, htime, hpid⟩ | ⟨e, herror, htimes⟩
  · rcases launch_cases P s with
      ⟨e, _, -, herror, -⟩ | ⟨e, _, herror, -⟩ | ⟨pid, reading, -, htrace⟩
    · exact absurd (herror.symm.trans (hresult.trans hok)) (by simp)
    · exact absurd (herror.symm.trans (hresult.trans hok)) (by simp)
    · have hfresh : instances (s.launch P).2.trace = instances s.trace + 1 := by
        rw [htrace]
        simp [instances, List.countP_cons, Event.isBirth]
      refine .inl ⟨htime, hpid, hfresh, ?_⟩
      exact ⟨[.launched (.ok pid), .statusRead reading, .started (.ok pid)], htrace, by simp⟩
  · rcases launch_cases P s with ⟨e, _, -, -, htrace⟩ | ⟨e, cause, -, htrace⟩ | ⟨pid, _, hok, -⟩
    · exact .inr ⟨⟨⟨e, .of_cons htrace⟩, by rw [htrace]; rfl⟩, htimes⟩
    · refine .inr ⟨⟨⟨e, [], .started (.error cause) :: s.trace, htrace, List.suffix_cons _ _⟩, ?_⟩,
        htimes⟩
      rw [htrace]
      rfl
    · exact absurd (hok.symm.trans (hresult.trans herror)) (by simp)

theorem launch_timing (why : kept) : Timing P kept cut s (s.launch P).2 := by
  rcases launch_times s H with h | ⟨hfailure, htime, hpid⟩
  · exact .launched h
  · exact .failed why hfailure htime (hpid.trans ·)

/-- Launching at once keeps the start time when the launch fails, though it may let go of the
process. -/
theorem relaunchNow_timing (why : kept) : Timing P kept cut s (s.relaunchNow P).2 := by
  unfold relaunchNow
  dsimp only
  split
  · next hheld =>
    have hquiet := (release_calls P s).quiet
    rcases launch_times
        { (s.release P).2 with watchdog := (s.release P).2.watchdog.takeRestart.2 } H with
      h | ⟨hfailure, htime, -⟩
    · exact .launched (h.of_quiet hquiet)
    · refine .failed why (hfailure.of_quiet hquiet) htime fun hfree => ?_
      rw [hfree] at hheld
      cases hheld
  · have hsame : Still P s { s with watchdog := s.watchdog.takeRestart.2 } :=
      ⟨rfl, rfl, .of_trace_eq rfl⟩
    exact (launch_timing _ H why).after_still hsame

/-! ## Settling -/

theorem told_still (exit : Except String ExitStatus) : Still P s (s.told P exit) := by
  have hquiet := told_quiet P s exit
  have hleft : Still P s (s.nothingLeft P exit).2 := by
    cases exit with
    | ok _ => exact .refl s
    | error _ => exact isAlive_still s H
  rw [told_frame] at hquiet ⊢
  exact ⟨hleft.time, hleft.pid, hquiet⟩

/-- The settling launches for a parked restart, and only without a parked delete. -/
theorem resolveWaiters_launches (exit : Except String ExitStatus) :
    Still P s (s.resolveWaiters P exit) ∨
      ∃ ticket, .restart ticket ∈ s.waiters ∧ s.waiters.any Waiter.isDelete = false ∧
        s.resolveWaiters P exit = ((s.told P exit).relaunchNow P).2.answer ticket
          (((s.told P exit).relaunchNow P).1.map .restarted) := by
  have htold := told_still s H exit
  cases resolveWaiters_settles P s exit with
  | nobody _ result => rw [result]; exact .inl (.refl s)
  | deleted ticket _ result =>
    rw [result]
    refine .inl (Still.finishDelete ?_ ticket _)
    split
    · exact htold.answer _ _
    · exact htold
  | refused ticket _ _ _ result => rw [result]; exact .inl (htold.answer ticket _)
  | waits _ _ _ result => rw [result]; exact .inl htold
  | relaunched ticket noDelete parked _ result =>
    exact .inr ⟨ticket, parkedRestart?_mem parked, parkedDelete?_eq_none_iff.mp noDelete, result⟩

theorem resolveWaiters_timing (exit : Except String ExitStatus)
    (why : ∀ ticket, .restart ticket ∈ s.waiters → s.waiters.any Waiter.isDelete = false → kept) :
    Timing P kept cut s (s.resolveWaiters P exit) := by
  rcases resolveWaiters_launches s H exit with hstill | ⟨ticket, hparked, hnone, hresult⟩
  · exact .still hstill
  · have hlaunch : Timing P kept cut (s.told P exit) ((s.told P exit).relaunchNow P).2 :=
      relaunchNow_timing _ H (why ticket hparked hnone)
    rw [hresult]
    exact (hlaunch.after_still (told_still s H exit)).then_still ((Still.refl _).answer ticket _)

theorem checkWaiters_timing
    (why : ∀ ticket, .restart ticket ∈ s.waiters → s.waiters.any Waiter.isDelete = false → kept) :
    Timing P kept cut s (s.checkWaiters P) := by
  unfold checkWaiters
  split
  · exact .still (.refl s)
  · have hwait := tryWait_still s H
    have hwaiters := (tryWait_calls P s).keeps.waiters
    split
    · next status u h =>
      rw [h] at hwait hwaiters
      exact (resolveWaiters_timing u H _ (hwaiters ▸ why)).after_still hwait
    · next u h => rw [h] at hwait; exact .still hwait
    · next e u h =>
      rw [h] at hwait hwaiters
      exact (resolveWaiters_timing u H _ (hwaiters ▸ why)).after_still hwait

theorem reapZombie_timing
    (why : ∀ ticket, .restart ticket ∈ s.waiters → s.waiters.any Waiter.isDelete = false → kept) :
    Timing P kept cut s (s.reapZombie P) := by
  have hwait := tryWait_still s H
  have hwaiters := (tryWait_calls P s).keeps.waiters
  unfold reapZombie
  split
  · next status u h =>
    rw [h] at hwait hwaiters
    exact (resolveWaiters_timing u H _ (hwaiters ▸ why)).after_still hwait
  · next u _ h => rw [h] at hwait; exact .still hwait

omit H in
/-- Letting go of a process that is gone clears the start time, and then settles everybody. -/
theorem onTerminated_clears (h : s.pid P ≠ none) :
    ∃ u exit, Calls s u ∧ u.startTime = none ∧ s.onTerminated P = u.resolveWaiters P exit := by
  have hcalls := ((tryWait_calls P s).trans (release_calls P _)).withStartTime none
  unfold onTerminated
  split
  · next hfree => exact absurd hfree h
  · exact ⟨_, _, hcalls, rfl, rfl⟩

theorem onTerminated_timing : Timing P kept (s.pid P ≠ none) s (s.onTerminated P) := by
  by_cases hheld : s.pid P = none
  · rw [onTerminated_of_free hheld]
    exact .still (.refl s)
  · obtain ⟨u, exit, hcalls, htime, hresult⟩ := onTerminated_clears s hheld
    have hsettled : Timing P True True u (u.resolveWaiters P exit) :=
      resolveWaiters_timing u H exit fun _ _ _ => trivial
    rw [hresult]
    exact .after_cleared hheld htime hcalls.quiet hsettled fun _ => hheld

/-- Without a stop parked, seeing whether the process has exited launches nothing. -/
theorem noticeExit_still (hfree : s.stopParked = false) :
    Quiet s (s.noticeExit P) ∧
      (Still P s (s.noticeExit P) ∨ s.pid P ≠ none ∧ (s.noticeExit P).startTime = none) := by
  have hquiet : Quiet s (s.noticeExit P) := by
    rcases (noticeExit_route P s).quiet with ⟨h, -⟩ | ⟨-, u, ticket, -, -, -, hparked, -⟩
    · exact h
    · have hstop : s.stopParked = true := List.any_eq_true.mpr ⟨_, hparked, rfl⟩
      rw [hfree] at hstop
      cases hstop
  refine ⟨hquiet, ?_⟩
  have htiming : Timing P True True s (s.noticeExit P) := by
    unfold noticeExit
    split
    · exact .still (.refl s)
    · have halive := isAlive_still s H
      split
      · next u h => rw [h] at halive; exact .still halive
      · next u h =>
        rw [h] at halive
        exact ((onTerminated_timing u H).mono id fun _ => trivial).after_still halive
  exact htiming.of_quiet hquiet

/-! ## Requests -/

theorem park_timing (waiter : Waiter)
    (why : ∀ ticket, .restart ticket ∈ s.waiters ++ [waiter] →
      (s.waiters ++ [waiter]).any Waiter.isDelete = false → kept) :
    Timing P kept cut s (s.park P waiter) := by
  have hparked : Still P s { s with waiters := s.waiters ++ [waiter] } :=
    ⟨rfl, rfl, .of_trace_eq rfl⟩
  exact (checkWaiters_timing _ H why).after_still hparked

/-- A delete launches nothing. -/
theorem delete_timing (ticket : Option Ticket) : Timing P kept cut s (s.delete P ticket) := by
  have hquiet := (stopGraceful_calls P s).quiet
  have hgraceful := stopGraceful_clears s H
  cases delete_deletes P s ticket with
  | busy _ result =>
    rcases result with ⟨-, result⟩ | ⟨refused, -, result⟩ <;> rw [result]
    · exact .still (.refl s)
    · exact .still ((Still.refl s).answer refused _)
  | parked _ asked result =>
    obtain ⟨-, hheld, htime⟩ := hgraceful.resolve_right fun h => h.1 asked
    have hpark : Timing P False False (s.stopGraceful P).2
        ((s.stopGraceful P).2.park P (.delete ticket)) :=
      park_timing _ H _ fun _ _ hnone => by simp [Waiter.isDelete] at hnone
    rw [result]
    exact .after_cleared hheld htime hquiet hpark (by simp)
  | forced _ outcome result =>
    have hforced : Timing P False False (s.stopGraceful P).2
        ((s.stopGraceful P).2.stopForced P).2 := stopForced_timing _ H
    have hended := hforced.then_still ((Still.refl _).finishDelete ticket outcome)
    rw [result]
    rcases hgraceful with ⟨-, hheld, htime⟩ | ⟨-, hstill⟩
    · exact .after_cleared hheld htime hquiet hended (by simp)
    · exact (hended.mono False.elim False.elim).after_still hstill

/-- A restart that finds no stop parked may launch at once.  If that fails, the start time is as
before with nothing held, and is cleared else. -/
theorem restart_timing (ticket : Ticket) :
    Timing P (s.pid P = none) (s.pid P ≠ none ∧ s.stopParked = false) s (s.restart P ticket) := by
  have hquiet := (stopGraceful_calls P (s.noticeExit P)).quiet
  have hgraceful := stopGraceful_clears (s.noticeExit P) H
  -- What comes after the look, when the look has launched nothing.
  have hlooked (first : s.stopParked = false)
      (h : Timing P ((s.noticeExit P).pid P = none) ((s.noticeExit P).pid P ≠ none)
        (s.noticeExit P) (s.restart P ticket)) :
      Timing P (s.pid P = none) (s.pid P ≠ none ∧ s.stopParked = false) s (s.restart P ticket) := by
    obtain ⟨hnotice, hstill | ⟨hheld, htime⟩⟩ := noticeExit_still s H first
    · rw [hstill.pid] at h
      exact (h.mono id fun hheld => ⟨hheld, first⟩).after_still hstill
    · exact .after_cleared hheld htime hnotice h fun _ => ⟨hheld, first⟩
  cases restart_restarts P s ticket with
  | busy _ result => rw [result]; exact .still ((Still.refl s).answer ticket _)
  | parked first asked result =>
    obtain ⟨-, hheld, htime⟩ := hgraceful.resolve_right fun h => h.1 asked
    have hpark : Timing P True True ((s.noticeExit P).stopGraceful P).2 (s.restart P ticket) := by
      rw [result]
      exact park_timing _ H _ fun _ _ _ => trivial
    exact hlooked first (.after_cleared hheld htime hquiet hpark fun _ => hheld)
  | relaunched first free result =>
    refine hlooked first ?_
    rw [result]
    exact (relaunchNow_timing _ H free).then_still ((Still.refl _).answer ticket _)
  | refused first e result refusal =>
    obtain ⟨-, hstill⟩ := hgraceful.resolve_left fun h => by simp [refusal] at h
    refine hlooked first (.still ?_)
    rw [result]
    exact hstill.answer ticket _

end

/-! ## Turns -/

section

variable (H : Holding P) (s)

include H

theorem handle_timing (ticket : Ticket) (request : Request) :
    Timing P (s.pid P = none ∨ ∃ ticket, .restart ticket ∈ s.waiters)
      (s.pid P ≠ none ∧ s.stopParked = false) s (s.handle P ticket request) := by
  cases request with
  | pid | startTime | restartsRemaining => exact .still ((Still.refl s).answer ticket _)
  | status => exact .still ((observe_still s H).answer ticket _)
  | isAlive => exact .still ((isAlive_still s H).answer ticket _)
  | signal signal => exact .still ((sendSignal_still s H signal).answer ticket _)
  | stop => exact (stopGraceful_timing s H).then_still ((Still.refl _).answer ticket _)
  | kill => exact (stopForced_timing s H).then_still ((Still.refl _).answer ticket _)
  | restart => exact (restart_timing s H ticket).mono .inl id
  | delete => exact delete_timing s H (some ticket)
  | wait =>
    rcases wait_cases P s ticket with ⟨-, hresult⟩ | ⟨-, hresult⟩ <;> rw [hresult]
    · exact .still ((Still.refl s).answer ticket _)
    · exact park_timing s H _ fun restart hparked _ => .inr ⟨restart, by simpa using hparked⟩

theorem noted_still : Still P s (s.noted P) := by
  have hobserve := observe_still s H
  have hquiet : Quiet s (s.noted P) :=
    hobserve.quiet.trans ((noted_adds P s).mono fun _ he => Event.not_isCreation_of_isTick he)
  rw [noted_frame] at hquiet ⊢
  exact ⟨hobserve.time, hobserve.pid, hquiet⟩

/-- A tick that finds the process gone clears the start time, and no other does. -/
theorem onTick_timing :
    Timing P (∃ ticket, .restart ticket ∈ s.waiters ∧ (s.observe P).1 ≠ .terminated)
      (s.pid P ≠ none ∧ (s.observe P).1 = .terminated) s (s.onTick P) := by
  have hnoted := noted_still s H
  cases onTick_ticks P s with
  | stopped _ result => rw [result]; exact .still (observe_still s H)
  | quiet _ _ result => rw [result]; exact .still hnoted
  | terminated _ gone result =>
    rw [result]
    have hgone : Timing P False ((s.noted P).pid P ≠ none) (s.noted P)
        ((s.noted P).onTerminated P) := onTerminated_timing _ H
    rw [hnoted.pid] at hgone
    exact (hgone.mono False.elim fun hheld => ⟨hheld, gone⟩).after_still hnoted
  | zombie _ gone result =>
    have hthere : (s.observe P).1 ≠ .terminated := by rw [gone]; simp
    rw [result]
    refine .after_still hnoted (reapZombie_timing _ H fun ticket hparked _ => ⟨ticket, ?_, hthere⟩)
    rwa [noted_waiters] at hparked

theorem onDetached_timing : Timing P kept cut s (s.onDetached P) := by
  have hdetached : Still P s { s with detached := true } := ⟨rfl, rfl, .of_trace_eq rfl⟩
  unfold onDetached
  dsimp only
  split
  · exact (delete_timing _ H none).after_still hdetached
  · exact .still hdetached

end

variable (P s) in
/-- A parked restart is settled in the turn of `s`, if it is, with an exit status that was
collected: the turn does not let go of the process as one that is gone. -/
structure Collects : Prop where
  parked : ∃ ticket, .restart ticket ∈ s.waiters
  collected : ¬ (s.due? = some .tick ∧ (s.observe P).1 = .terminated)

/-- **What becomes of the start time in a turn.** -/
theorem turn_timing (H : Holding P) (s : Supervisor σ) :
    Timing P (s.pid P = none ∨ s.due? = some .relaunch ∨ Collects P s)
      (s.pid P ≠ none ∧ ¬ Collects P s) s (s.turn P) := by
  cases hdue : s.due? with
  | none => rw [turn_of_idle hdue]; exact .still (.refl s)
  | some occasion =>
    have hrearm (u : Supervisor σ) : Still P u u.rearm := ⟨rfl, rfl, .of_trace_eq rfl⟩
    have hcollects (htick : occasion ≠ .tick) (h : ∃ ticket, Waiter.restart ticket ∈ s.waiters) :
        Collects P s := ⟨h, fun hgone => htick (Option.some.inj (hdue.symm.trans hgone.1))⟩
    rw [turn_eq hdue]
    refine Timing.then_still ?_ (hrearm _)
    cases occasion with
    | cancelled =>
      have hquiet : Quiet s s.finish := by
        refine finish_adds.mono ?_
        rintro _ ⟨ticket, rfl⟩
        rfl
      have hfinish : s.finish.startTime = s.startTime ∧ s.finish.system = s.system := by
        rw [finish_eq]
        exact ⟨rfl, rfl⟩
      exact .still ⟨hfinish.1, congrArg P.pid hfinish.2, hquiet⟩
    | relaunch =>
      have hpicked : Still P s { s with watchdog := s.watchdog.takeRestart.2 } :=
        ⟨rfl, rfl, .of_trace_eq rfl⟩
      have hresult : s.serve P .relaunch = _ :=
        relaunch_of_pending P s (due?_eq_relaunch.mp hdue).2.2
      rw [hresult]
      exact (launch_timing _ H (.inr (.inl rfl))).after_still hpicked
    | request ticket request =>
      have hopened : Still P s { s with queue := s.queue.tail } := ⟨rfl, rfl, .of_trace_eq rfl⟩
      refine Timing.after_still hopened ((handle_timing _ H ticket request).mono ?_ ?_)
      · rintro (hfree | hparked)
        · exact .inl hfree
        · exact .inr (.inr (hcollects (by simp) hparked))
      · rintro ⟨hheld, hfree⟩
        refine ⟨hheld, fun ⟨⟨restart, hparked⟩, _⟩ => ?_⟩
        have hstop : s.stopParked = true := List.any_eq_true.mpr ⟨_, hparked, rfl⟩
        have hnone : s.stopParked = false := hfree
        rw [hnone] at hstop
        cases hstop
    | detached => exact onDetached_timing s H
    | exitCheck =>
      exact checkWaiters_timing s H fun ticket hparked _ =>
        .inr (.inr (hcollects (by simp) ⟨ticket, hparked⟩))
    | tick =>
      have hopened : Still P s (s.opened .tick) := ⟨rfl, rfl, .of_trace_eq rfl⟩
      have hstatus := (opened_observe (P := P) (s := s)).1
      have htick := onTick_timing (s.opened .tick) H
      rw [hstatus] at htick
      refine Timing.after_still hopened (htick.mono ?_ ?_)
      · rintro ⟨ticket, hparked, hthere⟩
        exact .inr (.inr ⟨⟨ticket, hparked⟩, fun h => hthere h.2⟩)
      · rintro ⟨hheld, hgone⟩
        exact ⟨hheld, fun h => h.collected ⟨hdue, hgone⟩⟩

end Supervisor

end Overseer
