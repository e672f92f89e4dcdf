import Overseer.Proofs.Custody
import Overseer.Proofs.ProcessTable
import Overseer.Proofs.Supervisor.Turns
import Overseer.ScriptedProcess

/-!
# The supervisor keeps custody of its processes

Over surroundings that keep custody, every process that was ever created has exited, was killed, or
is held, in every reachable state; so no two processes are ever at large together.

* `holding`, `Killed`, `StartsFree` -- what the trace tells of the process that is held, of the ones
  that were killed, and of the starts;
* `Guarded` -- the invariant; `InCustody` -- the invariant between two turns: a relaunch is
  scheduled only with nothing held;
* `Spent` -- no process is at large, which is when the held one may be let go of and another one
  created; `release_guarded`, `launch_guarded`;
* `turn_custody`, `reached_custody` -- every turn and every run keep the invariant;
* `single_instance` -- what follows.
-/

namespace Overseer

namespace Event

/-- The event neither creates a process nor lets go of one. -/
def isNeutral : Event → Bool
  | started _ | released _ => false
  | _ => true

theorem isNeutral_of_isTick {e : Event} (h : e.isTick = true) : e.isNeutral = true := by
  cases e <;> simp_all [isNeutral, isTick]

theorem not_isStart_of_isNeutral {e : Event} (h : e.isNeutral = true) : e.isStart = false := by
  cases e <;> simp_all [isNeutral, isStart]

end Event

namespace Supervisor

variable {σ : Type} {P : Platform σ} {L : Ledger σ} {s t u : Supervisor σ}

/-! ## What the trace tells -/

/-- Whether a process is held: the last creation came after the last release. -/
def holding : List Event → Bool
  | [] => false
  | .started (.ok _) :: _ => true
  | .released (.ok ()) :: _ => false
  | _ :: rest => holding rest

/-- `Signal.kill` was delivered to the process while it was held. -/
def Killed (n : Nat) (trace : List Event) : Prop :=
  ∃ later earlier, trace = later ++ .signalled .kill (.ok ()) :: earlier ∧
    holding earlier = true ∧ instances earlier = n + 1

/-- A process was asked for only with none held. -/
def StartsFree (trace : List Event) : Prop :=
  ∀ later earlier result, trace = later ++ .started result :: earlier → holding earlier = false

theorem Killed.of_suffix {n : Nat} {trace more : List Event} (h : Killed n trace)
    (hmore : trace <:+ more) : Killed n more := by
  obtain ⟨later, earlier, rfl, hholding, hearlier⟩ := h
  obtain ⟨first, rfl⟩ := hmore
  exact ⟨first ++ later, earlier, by rw [List.append_assoc], hholding, hearlier⟩

theorem holding_neutral {e : Event} (h : e.isNeutral = true) (trace : List Event) :
    holding (e :: trace) = holding trace := by
  cases e with
  | started _ => cases h
  | released _ => cases h
  | _ => rfl

theorem StartsFree.cons {e : Event} {trace : List Event} (h : StartsFree trace)
    (he : e.isStart = true → holding trace = false) : StartsFree (e :: trace) := by
  intro later earlier result hsplit
  cases later with
  | nil =>
    obtain ⟨rfl, rfl⟩ := List.cons.inj hsplit
    exact he rfl
  | cons head rest =>
    obtain ⟨-, htrace⟩ := List.cons.inj hsplit
    exact h rest earlier result htrace

theorem holding_append {events trace : List Event} (h : ∀ e ∈ events, e.isNeutral = true) :
    holding (events ++ trace) = holding trace := by
  induction events with
  | nil => rfl
  | cons e rest ih =>
    rw [List.cons_append, holding_neutral (h e List.mem_cons_self)]
    exact ih fun e' he' => h e' (List.mem_cons_of_mem e he')

theorem StartsFree.append {events trace : List Event} (htrace : StartsFree trace)
    (h : ∀ e ∈ events, e.isNeutral = true) : StartsFree (events ++ trace) := by
  induction events with
  | nil => exact htrace
  | cons e rest ih =>
    refine (ih fun e' he' => h e' (List.mem_cons_of_mem e he')).cons ?_
    intro hstart
    rw [Event.not_isStart_of_isNeutral (h e List.mem_cons_self)] at hstart
    cases hstart

/-! ## The invariant -/

variable (P L s) in
/-- Every process has exited, was killed, or is the one that is held. -/
structure Guarded : Prop where
  sound : L.sound s.system
  created : L.created s.system = instances s.trace
  held : holding s.trace = (s.pid P).isSome
  fate : ∀ n < instances s.trace, L.exited s.system n ∨ Killed n s.trace ∨
    (s.pid P).isSome = true ∧ n + 1 = instances s.trace
  free : StartsFree s.trace

variable (L s) in
/-- Every process has exited or was killed. -/
def Spent : Prop := ∀ n < instances s.trace, L.exited s.system n ∨ Killed n s.trace

variable (P L) in
/-- From `s` to `t` no process was created or let go of. -/
structure Steady (s t : Supervisor σ) : Prop where
  keeps : L.Keeps P s.system t.system
  adds : Adds (fun e => e.isNeutral) s t

theorem Steady.refl (h : L.sound s.system) : Steady P L s s := ⟨.refl h, .of_trace_eq rfl⟩

theorem Steady.trans (hst : Steady P L s t) (htu : Steady P L t u) : Steady P L s u :=
  ⟨hst.keeps.trans htu.keeps, hst.adds.trans htu.adds⟩

theorem Steady.noStart (h : Steady P L s t) : NoStart s t :=
  h.adds.mono fun _ he => Event.not_isStart_of_isNeutral he

theorem Steady.instances_eq (h : Steady P L s t) : instances t.trace = instances s.trace :=
  h.noStart.instances_eq

theorem Steady.pid (h : Steady P L s t) : t.pid P = s.pid P := h.keeps.pid

theorem Guarded.of_steady (hs : Guarded P L s) (h : Steady P L s t) : Guarded P L t := by
  have hinstances := h.instances_eq
  have hpid := h.pid
  obtain ⟨events, htrace, hevents⟩ := h.adds
  refine ⟨h.keeps.sound, ?_, ?_, ?_, ?_⟩
  · rw [h.keeps.created, hinstances, hs.created]
  · rw [htrace, holding_append hevents, hpid, hs.held]
  · rw [hinstances, hpid]
    intro n hn
    rcases hs.fate n hn with hexited | hkilled | hheld
    · exact .inl (h.keeps.exited n hexited)
    · exact .inr (.inl (hkilled.of_suffix h.adds.suffix))
    · exact .inr (.inr hheld)
  · rw [htrace]
    exact hs.free.append hevents

/-- Where no process was created, what was spent still is. -/
theorem Spent.carried (hs : Spent L s)
    (hexited : ∀ n, L.exited s.system n → L.exited t.system n) (hsuffix : s.trace <:+ t.trace) :
    ∀ n < instances s.trace, L.exited t.system n ∨ Killed n t.trace := by
  intro n hn
  exact (hs n hn).imp (hexited n) fun hkilled => hkilled.of_suffix hsuffix

theorem Spent.of_steady (hs : Spent L s) (h : Steady P L s t) : Spent L t := by
  rw [Spent, h.instances_eq]
  exact hs.carried h.keeps.exited h.adds.suffix

/-- With nothing held every process has exited or was killed. -/
theorem Guarded.spent_of_free (h : Guarded P L s) (hfree : s.pid P = none) : Spent L s := by
  intro n hn
  rcases h.fate n hn with hexited | hkilled | ⟨hheld, -⟩
  · exact .inl hexited
  · exact .inr hkilled
  · rw [hfree] at hheld
    cases hheld

/-- When the process created last has exited, all have, or were killed. -/
theorem Guarded.spent_of_gone (h : Guarded P L s) (hgone : L.Gone s.system) : Spent L s := by
  intro n hn
  rcases h.fate n hn with hexited | hkilled | ⟨-, hlast⟩
  · exact .inl hexited
  · exact .inr hkilled
  · exact .inl (hgone n (by rw [h.created, hlast]))

variable (P L s) in
/-- The invariant between two turns: a relaunch is scheduled only with nothing held. -/
structure InCustody : Prop where
  guarded : Guarded P L s
  scheduled : s.watchdog.pending = true → s.pid P = none

theorem InCustody.of_steady (hs : InCustody P L s) (h : Steady P L s t)
    (hwatchdog : t.watchdog = s.watchdog) : InCustody P L t where
  guarded := hs.guarded.of_steady h
  scheduled := by
    rw [hwatchdog, h.pid]
    exact hs.scheduled

/-- Where the surroundings and the trace are as before. -/
theorem InCustody.of_eq (hs : InCustody P L s) (hsystem : t.system = s.system)
    (htrace : t.trace = s.trace) (hwatchdog : t.watchdog = s.watchdog) : InCustody P L t := by
  refine hs.of_steady ⟨?_, .of_trace_eq htrace⟩ hwatchdog
  rw [hsystem]
  exact .refl hs.guarded.sound

variable (P L) in
/-- The surroundings change on their own only as they may: no process is created or let go of, and
what has exited stays so. -/
def Input.Lawful : Input σ → Prop
  | .world change => ∀ x, L.sound x → L.Keeps P x (change x)
  | _ => True

theorem Steady.answer (h : Steady P L s t) (ticket : Ticket) (reply : Answer) :
    Steady P L s (t.answer ticket reply) :=
  ⟨h.keeps, h.adds.trans (.cons rfl rfl)⟩

theorem InCustody.answer (hs : InCustody P L s) (ticket : Ticket) (reply : Answer) :
    InCustody P L (s.answer ticket reply) :=
  hs.of_steady ((Steady.refl hs.guarded.sound).answer ticket reply) rfl

theorem Steady.finishDelete (h : Steady P L s t) (ticket : Option Ticket)
    (result : Except Error Unit) : Steady P L s (t.finishDelete ticket result) := by
  have hcancelled : Steady P L s { t with cancelled := true } := ⟨h.keeps, h.adds⟩
  cases ticket with
  | none => exact hcancelled
  | some ticket => exact hcancelled.answer ticket _

/-! ## Calls -/

section Calls

variable (C : Custody P L)
include C

theorem signal_steady (hs : L.sound s.system) (signal : Signal) :
    Steady P L s (s.signal P signal).2 :=
  ⟨C.signal (some signal) hs, .cons rfl rfl⟩

theorem probe_steady (hs : L.sound s.system) : Steady P L s (s.probe P).2 :=
  ⟨C.signal none hs, .cons rfl rfl⟩

theorem tryWait_steady (hs : L.sound s.system) : Steady P L s (s.tryWait P).2 :=
  ⟨C.tryWait hs, .cons rfl rfl⟩

theorem readStatus_steady (hs : L.sound s.system) (pid : Pid) :
    Steady P L s (s.readStatus P pid).2 :=
  ⟨C.readStatus pid hs, .cons rfl rfl⟩

/-- An exit status is had only of a process that has exited. -/
theorem tryWait_spent (hs : Guarded P L s) {status : ExitStatus}
    (h : (s.tryWait P).1 = .ok (some status)) : Spent L (s.tryWait P).2 := by
  have hsteady := tryWait_steady C hs.sound
  by_cases hfree : s.pid P = none
  · exact (hs.spent_of_free hfree).of_steady hsteady
  · exact (hs.of_steady hsteady).spent_of_gone (C.collected hs.sound hfree h)

/-- A process that is not alive has exited. -/
theorem isAlive_spent (hs : Guarded P L s) :
    Steady P L s (s.isAlive P).2 ∧ ((s.isAlive P).1 = false → Spent L (s.isAlive P).2) := by
  unfold isAlive
  split
  · next hfree => exact ⟨.refl hs.sound, fun _ => hs.spent_of_free hfree⟩
  · next found hheld =>
    have hsteady := probe_steady C hs.sound
    refine ⟨hsteady, ?_⟩
    intro hdead
    have hnone : (P.signal none s.system).1 = .error .esrch := alive_eq_false hdead
    have hpid : P.pid s.system ≠ none := by
      intro hfree
      cases hfree.symm.trans hheld
    exact (hs.of_steady hsteady).spent_of_gone (C.probe hs.sound hpid hnone)

/-- A tick takes for gone only a process that has exited. -/
theorem observe_spent (hs : Guarded P L s) :
    Steady P L s (s.observe P).2 ∧
      ((s.observe P).1 = .terminated → Spent L (s.observe P).2) := by
  unfold observe
  split
  · next hfree => exact ⟨.refl hs.sound, fun _ => hs.spent_of_free hfree⟩
  · next found hheld =>
    obtain ⟨hsteady, hspent⟩ := isAlive_spent C hs
    split
    · next u h =>
      rw [h] at hsteady hspent
      exact ⟨hsteady, fun _ => hspent rfl⟩
    · next u h =>
      rw [h] at hsteady
      have hu := hs.of_steady hsteady
      have hread := readStatus_steady C hu.sound found
      have hpid : u.pid P = some found := hsteady.pid.trans hheld
      have hgone : (u.readStatus P found).1 = .ok .terminated → Spent L (u.readStatus P found).2 :=
        fun hstatus => (hu.of_steady hread).spent_of_gone (C.terminated hu.sound hpid hstatus)
      split
      · next status v hv =>
        rw [hv] at hread hgone
        exact ⟨hsteady.trans hread, fun hstatus => hgone (congrArg _ hstatus)⟩
      · next e v hv =>
        rw [hv] at hread
        exact ⟨hsteady.trans hread, fun hstatus => by cases hstatus⟩

/-- Asking the held process to end lets go of nothing. -/
theorem stopGraceful_steady (hs : L.sound s.system) : Steady P L s (s.stopGraceful P).2 := by
  unfold stopGraceful
  split
  · exact .refl hs
  · have hsignal := signal_steady C hs .term
    split
    · next u h => rwa [h] at hsignal
    · next u h =>
      rw [h] at hsignal
      exact ⟨hsignal.keeps, hsignal.adds⟩

theorem sendSignal_steady (hs : L.sound s.system) (signal : Signal) :
    Steady P L s (s.sendSignal P signal).2 := by
  unfold sendSignal
  split
  · exact .refl hs
  · have hsignal := signal_steady C hs signal
    split <;> next u h => rwa [h] at hsignal

/-- **A process may be let go of once none is at large.** -/
theorem release_guarded (hs : Guarded P L s) (hspent : Spent L s) :
    Guarded P L (s.release P).2 ∧ (s.release P).2.pid P = none := by
  obtain ⟨hok, hsound, hcreated, hexited, hfree⟩ := C.release hs.sound
  have htrace : (s.release P).2.trace = .released (.ok ()) :: s.trace := by
    rw [← hok]
    rfl
  have hinstances : instances (s.release P).2.trace = instances s.trace := by
    rw [htrace]
    rfl
  refine ⟨⟨hsound, ?_, ?_, ?_, ?_⟩, hfree⟩
  · rw [hinstances, ← hs.created]
    exact hcreated
  · rw [htrace, pid, show P.pid (s.release P).2.system = none from hfree]
    rfl
  · rw [hinstances]
    intro n hn
    exact (hspent.carried hexited ⟨[_], htrace.symm⟩ n hn).imp_right .inl
  · rw [htrace]
    exact hs.free.cons (by simp [Event.isStart])

/-- **A process may be created when none is held.** -/
theorem start_guarded (hs : Guarded P L s) (hfree : s.pid P = none) (directory : String) :
    Guarded P L (s.start P directory).2 := by
  have htrace : (s.start P directory).2.trace = .started (s.start P directory).1 :: s.trace := rfl
  have hholding : holding s.trace = false := by rw [hs.held, hfree]; rfl
  have hspent := hs.spent_of_free hfree
  have hstarts : StartsFree (s.start P directory).2.trace := hs.free.cons fun _ => hholding
  cases hresult : (s.start P directory).1 with
  | error e =>
    rw [hresult] at htrace
    have hkeeps := C.start_error hs.sound hfree hresult
    have hpid : (s.start P directory).2.pid P = none := hkeeps.pid.trans hfree
    have hinstances : instances (s.start P directory).2.trace = instances s.trace := by
      rw [htrace]
      rfl
    refine ⟨hkeeps.sound, ?_, ?_, ?_, hstarts⟩
    · rw [hinstances, ← hs.created]
      exact hkeeps.created
    · rw [htrace, hpid]
      exact hholding
    · rw [hinstances]
      intro n hn
      exact (hspent.carried hkeeps.exited ⟨[_], htrace.symm⟩ n hn).imp_right .inl
  | ok pid =>
    rw [hresult] at htrace
    obtain ⟨hsound, hcreated, hexited, hheld⟩ := C.start_ok hs.sound hfree hresult
    have hpid : ((s.start P directory).2.pid P).isSome = true := Option.isSome_iff_ne_none.mpr hheld
    have hinstances : instances (s.start P directory).2.trace = instances s.trace + 1 := by
      rw [htrace]
      exact List.countP_cons_of_pos rfl
    refine ⟨hsound, ?_, ?_, ?_, hstarts⟩
    · rw [hinstances, ← hs.created]
      exact hcreated
    · rw [htrace, hpid]
      rfl
    · rw [hinstances]
      intro n hn
      by_cases hlast : n + 1 = instances s.trace + 1
      · exact .inr (.inr ⟨hpid, hlast⟩)
      · have hbefore : n < instances s.trace := by omega
        exact (hspent.carried hexited ⟨[_], htrace.symm⟩ n hbefore).imp_right .inl

theorem launch_guarded (hs : Guarded P L s) (hfree : s.pid P = none) :
    Guarded P L (s.launch P).2 := by
  have hattempt : Guarded P L (s.attemptLaunch P).2 := by
    unfold attemptLaunch
    split
    · exact hs
    · next directory _ =>
      have hstart := start_guarded C hs hfree directory
      split
      · next t h => rwa [h] at hstart
      · next pid t h =>
        rw [h] at hstart
        have htime : Steady P L t { t with startTime := some t.now } :=
          ⟨.refl hstart.sound, .of_trace_eq rfl⟩
        have hread := readStatus_steady C (s := { t with startTime := some t.now }) hstart.sound pid
        exact hstart.of_steady (htime.trans hread)
  have hnote : Steady P L (s.attemptLaunch P).2 (s.launch P).2 :=
    ⟨.refl hattempt.sound, .cons rfl rfl⟩
  exact hattempt.of_steady hnote

/-- Launching at once lets go of a process that is spent, and creates another. -/
theorem relaunchNow_guarded (hs : Guarded P L s) (hspent : Spent L s) :
    Guarded P L (s.relaunchNow P).2 := by
  have hvacated : Guarded P L (if (s.pid P).isSome then (s.release P).2 else s) ∧
      (if (s.pid P).isSome then (s.release P).2 else s).pid P = none := by
    split
    · exact release_guarded C hs hspent
    · next hfree => exact ⟨hs, by simpa using hfree⟩
  obtain ⟨hguarded, hfree⟩ := hvacated
  have htaken : Steady P L (if (s.pid P).isSome then (s.release P).2 else s)
      { (if (s.pid P).isSome then (s.release P).2 else s) with
        watchdog := (if (s.pid P).isSome then (s.release P).2 else s).watchdog.takeRestart.2 } :=
    ⟨.refl hguarded.sound, .of_trace_eq rfl⟩
  exact launch_guarded C (hguarded.of_steady htaken) hfree

/-- A kill lets go of the process it was delivered to. -/
theorem stopForced_guarded (hs : Guarded P L s) :
    Guarded P L (s.stopForced P).2 ∧
      ((s.stopForced P).2.pid P = s.pid P ∨ (s.stopForced P).2.pid P = none) := by
  unfold stopForced
  split
  · exact ⟨hs, .inl rfl⟩
  · next found hheld =>
    have hsignal := signal_steady C hs.sound .kill
    have htrace : (s.signal P .kill).2.trace =
        .signalled .kill (s.signal P .kill).1 :: s.trace := rfl
    have hguarded := hs.of_steady hsignal
    split
    · next e u h =>
      rw [h] at hsignal
      exact ⟨hs.of_steady hsignal, .inl hsignal.pid⟩
    · next u h =>
      rw [h] at hsignal htrace hguarded
      have hspent : Spent L u := by
        intro n hn
        rcases hguarded.fate n hn with hexited | hkilled | ⟨-, hlast⟩
        · exact .inl hexited
        · exact .inr hkilled
        · have hholding : holding s.trace = true := by rw [hs.held, hheld]; rfl
          rw [hsignal.instances_eq] at hlast
          exact .inr ⟨[], s.trace, htrace, hholding, hlast.symm⟩
      obtain ⟨hreleased, hfree⟩ := release_guarded C hguarded hspent
      split
      · next v hv => rw [hv] at hreleased hfree; exact ⟨hreleased, .inr hfree⟩
      · next v hv =>
        rw [hv] at hreleased hfree
        exact ⟨hreleased.of_steady ⟨.refl hreleased.sound, .of_trace_eq rfl⟩, .inr hfree⟩

/-! ## Settling -/

theorem nothingLeft_spent (hs : Guarded P L s) {exit : Except String ExitStatus}
    (hexit : ∀ status, exit = .ok status → Spent L s) :
    Steady P L s (s.nothingLeft P exit).2 ∧
      ((s.nothingLeft P exit).1 = true → Spent L (s.nothingLeft P exit).2) := by
  cases exit with
  | ok status => exact ⟨.refl hs.sound, fun _ => hexit status rfl⟩
  | error reason =>
    obtain ⟨hsteady, hspent⟩ := isAlive_spent C hs
    refine ⟨hsteady, fun hgone => hspent ?_⟩
    have hnot : (!(s.isAlive P).1) = true := hgone
    simpa using hnot

theorem told_spent (hs : Guarded P L s) {exit : Except String ExitStatus}
    (hexit : ∀ status, exit = .ok status → Spent L s) :
    Steady P L s (s.told P exit) ∧
      ((s.nothingLeft P exit).1 = true → Spent L (s.told P exit)) := by
  obtain ⟨hsteady, hspent⟩ := nothingLeft_spent C hs hexit
  have htold : Steady P L (s.nothingLeft P exit).2 (s.told P exit) := by
    refine ⟨?_, (told_adds P s exit).mono ?_⟩
    · rw [told_frame]
      exact .refl hsteady.keeps.sound
    · rintro _ ⟨ticket, rfl⟩
      rfl
  exact ⟨hsteady.trans htold, fun hgone => (hspent hgone).of_steady htold⟩

theorem relaunchNow_custody (hs : Guarded P L s) (hspent : Spent L s) :
    InCustody P L (s.relaunchNow P).2 where
  guarded := relaunchNow_guarded C hs hspent
  scheduled := by
    intro hpending
    rw [relaunchNow_pending] at hpending
    cases hpending

/-- **Settling everybody keeps custody**, when an exit status is told only of a spent process. -/
theorem resolveWaiters_custody (hs : InCustody P L s) {exit : Except String ExitStatus}
    (hexit : ∀ status, exit = .ok status → Spent L s) :
    InCustody P L (s.resolveWaiters P exit) := by
  obtain ⟨hsteady, hspent⟩ := told_spent C hs.guarded hexit
  have hwatchdog := told_watchdog P s exit
  cases resolveWaiters_settles P s exit with
  | nobody _ result => rwa [result]
  | deleted ticket _ result =>
    rw [result]
    split
    · next restart _ =>
      refine hs.of_steady (Steady.finishDelete (hsteady.answer restart _) ticket _) ?_
      rw [finishDelete_watchdog]
      exact hwatchdog
    · refine hs.of_steady (hsteady.finishDelete ticket _) ?_
      rw [finishDelete_watchdog]
      exact hwatchdog
  | relaunched ticket _ _ gone result =>
    rw [result]
    have hrelaunch := relaunchNow_custody C (hs.guarded.of_steady hsteady) (hspent gone)
    exact hrelaunch.of_steady ((Steady.refl hrelaunch.guarded.sound).answer ticket _) rfl
  | refused ticket _ _ _ result =>
    rw [result]
    exact hs.of_steady (hsteady.answer ticket _) hwatchdog
  | waits _ _ _ result => rw [result]; exact hs.of_steady hsteady hwatchdog

theorem checkWaiters_custody (hs : InCustody P L s) : InCustody P L (s.checkWaiters P) := by
  unfold checkWaiters
  split
  · exact hs
  · have hsteady := tryWait_steady C hs.guarded.sound
    have hspent (status : ExitStatus) (h : (s.tryWait P).1 = .ok (some status)) :=
      tryWait_spent C hs.guarded h
    have hwait := hs.of_steady hsteady (tryWait_calls P s).keeps.watchdog
    split
    · next status u h =>
      rw [h] at hwait hspent
      exact resolveWaiters_custody C hwait fun _ _ => hspent status rfl
    · next u h => rwa [h] at hwait
    · next e u h =>
      rw [h] at hwait
      exact resolveWaiters_custody C hwait (by simp)

/-- **Letting go of a process that is gone keeps custody**, and nothing that is scheduled then has
a process beside it. -/
theorem onTerminated_custody (hs : Guarded P L s) (hspent : Spent L s) :
    InCustody P L (s.onTerminated P) := by
  unfold onTerminated
  split
  · next hfree => exact ⟨hs, fun _ => hfree⟩
  · have hsteady := tryWait_steady C hs.sound
    have hwait := hspent.of_steady hsteady
    obtain ⟨hreleased, hfree⟩ := release_guarded C (hs.of_steady hsteady) hwait
    have hcleared : InCustody P L { ((s.tryWait P).2.release P).2 with startTime := none } :=
      InCustody.of_eq ⟨hreleased, fun _ => hfree⟩ rfl rfl rfl
    refine resolveWaiters_custody C hcleared fun _ _ => hcleared.guarded.spent_of_free hfree

theorem reapZombie_custody (hs : InCustody P L s) : InCustody P L (s.reapZombie P) := by
  unfold reapZombie
  have hspent (status : ExitStatus) (h : (s.tryWait P).1 = .ok (some status)) :=
    tryWait_spent C hs.guarded h
  have hwait := hs.of_steady (tryWait_steady C hs.guarded.sound) (tryWait_calls P s).keeps.watchdog
  split
  · next status u h =>
    rw [h] at hwait hspent
    exact resolveWaiters_custody C hwait fun _ _ => hspent status rfl
  · next u h => rwa [h] at hwait

theorem noticeExit_custody (hs : InCustody P L s) : InCustody P L (s.noticeExit P) := by
  unfold noticeExit
  split
  · exact hs
  · obtain ⟨hsteady, hspent⟩ := isAlive_spent C hs.guarded
    have halive := hs.of_steady hsteady (isAlive_calls P s).keeps.watchdog
    split
    · next u h => rwa [h] at halive
    · next u h =>
      rw [h] at halive hspent
      exact onTerminated_custody C halive.guarded (hspent rfl)

/-! ## Requests -/

theorem park_custody (hs : InCustody P L s) (waiter : Waiter) :
    InCustody P L (s.park P waiter) :=
  checkWaiters_custody C (hs.of_eq rfl rfl rfl)

theorem stopGraceful_custody (hs : InCustody P L s) : InCustody P L (s.stopGraceful P).2 :=
  hs.of_steady (stopGraceful_steady C hs.guarded.sound) (stopGraceful_calls P s).keeps.watchdog

theorem stopForced_custody (hs : InCustody P L s) : InCustody P L (s.stopForced P).2 := by
  obtain ⟨hguarded, hpid⟩ := stopForced_guarded C hs.guarded
  refine ⟨hguarded, ?_⟩
  rw [(stopForced_calls P s).keeps.watchdog]
  intro hpending
  rcases hpid with h | h
  · rw [h]
    exact hs.scheduled hpending
  · exact h

theorem delete_custody (hs : InCustody P L s) (ticket : Option Ticket) :
    InCustody P L (s.delete P ticket) := by
  have hgraceful := stopGraceful_custody C hs
  cases delete_deletes P s ticket with
  | busy _ result =>
    rcases result with ⟨-, result⟩ | ⟨ticket, -, result⟩ <;> rw [result]
    · exact hs
    · exact hs.answer ticket _
  | parked _ _ result => rw [result]; exact park_custody C hgraceful _
  | forced _ outcome result =>
    rw [result]
    have hforced := stopForced_custody C hgraceful
    refine hforced.of_steady ((Steady.refl hforced.guarded.sound).finishDelete ticket outcome) ?_
    exact finishDelete_watchdog _ ticket outcome

theorem restart_custody (hs : InCustody P L s) (ticket : Ticket) :
    InCustody P L (s.restart P ticket) := by
  have hnotice := noticeExit_custody C hs
  have hgraceful := stopGraceful_custody C hnotice
  cases restart_restarts P s ticket with
  | busy _ result => rw [result]; exact hs.answer ticket _
  | parked _ _ result => rw [result]; exact park_custody C hgraceful _
  | relaunched _ free result =>
    rw [result]
    have hspent := hnotice.guarded.spent_of_free free
    exact (relaunchNow_custody C hnotice.guarded hspent).answer ticket _
  | refused _ e result => rw [result]; exact hgraceful.answer ticket _

theorem handle_custody (hs : InCustody P L s) (ticket : Ticket) (request : Request) :
    InCustody P L (s.handle P ticket request) := by
  have hsound := hs.guarded.sound
  cases request with
  | pid | startTime | restartsRemaining => exact hs.answer ticket _
  | status =>
    have hobserve := (observe_spent C hs.guarded).1
    exact (hs.of_steady hobserve (observe_calls P s).keeps.watchdog).answer ticket _
  | isAlive =>
    have halive := (isAlive_spent C hs.guarded).1
    exact (hs.of_steady halive (isAlive_calls P s).keeps.watchdog).answer ticket _
  | stop => exact (stopGraceful_custody C hs).answer ticket _
  | kill => exact (stopForced_custody C hs).answer ticket _
  | signal signal =>
    have hsignal := sendSignal_steady C hsound signal
    exact (hs.of_steady hsignal (sendSignal_calls P s signal).keeps.watchdog).answer ticket _
  | restart => exact restart_custody C hs ticket
  | wait =>
    rcases wait_cases P s ticket with ⟨-, hresult⟩ | ⟨-, hresult⟩ <;> rw [hresult]
    · exact hs.answer ticket _
    · exact park_custody C hs _
  | delete => exact delete_custody C hs (some ticket)

/-! ## Turns -/

/-- A tick may schedule a relaunch while the process that is gone is still held; letting go of it
comes next. -/
theorem onTick_custody (hs : InCustody P L s) : InCustody P L (s.onTick P) := by
  obtain ⟨hobserve, hspent⟩ := observe_spent C hs.guarded
  have hafter : Steady P L (s.observe P).2 (s.noted P) := by
    refine ⟨?_, (noted_adds P s).mono fun _ he => Event.isNeutral_of_isTick he⟩
    rw [noted_frame]
    exact .refl hobserve.keeps.sound
  have hguarded := hs.guarded.of_steady (hobserve.trans hafter)
  have hnoted (there : (s.observe P).1 ≠ .terminated) : InCustody P L (s.noted P) := by
    refine ⟨hguarded, ?_⟩
    have hpending : (s.noted P).watchdog.pending = s.watchdog.pending := by
      rw [noted_frame]
      exact Watchdog.observe_pending s.watchdog _ there
    rw [hpending, (hobserve.trans hafter).pid]
    exact hs.scheduled
  cases onTick_ticks P s with
  | stopped _ result =>
    rw [result]
    exact hs.of_steady hobserve (observe_calls P s).keeps.watchdog
  | terminated _ gone result =>
    rw [result]
    exact onTerminated_custody C hguarded ((hspent gone).of_steady hafter)
  | zombie _ gone result =>
    rw [result]
    exact reapZombie_custody C (hnoted (by simp [gone]))
  | quiet _ there result => rw [result]; exact hnoted there

theorem relaunch_custody (hs : InCustody P L s) (hpending : s.watchdog.pending = true) :
    InCustody P L (s.relaunch P) := by
  have htaken : InCustody P L { s with watchdog := s.watchdog.takeRestart.2 } := by
    refine ⟨hs.guarded.of_steady ⟨.refl hs.guarded.sound, .of_trace_eq rfl⟩, ?_⟩
    intro hpending
    cases hpending
  have hguarded := launch_guarded C htaken.guarded (hs.scheduled hpending)
  rw [relaunch_of_pending P s hpending]
  refine ⟨hguarded, ?_⟩
  rw [(launch_keeps P _).watchdog]
  intro hpending
  cases hpending

theorem onDetached_custody (hs : InCustody P L s) : InCustody P L (s.onDetached P) := by
  have hdetached : InCustody P L { s with detached := true } := hs.of_eq rfl rfl rfl
  unfold onDetached
  dsimp only
  split
  · exact delete_custody C hdetached none
  · exact hdetached

omit C in
theorem InCustody.finish (hs : InCustody P L s) : InCustody P L s.finish := by
  have hsteady : Steady P L s s.finish := by
    refine ⟨?_, finish_adds.mono ?_⟩
    · rw [finish_eq]
      exact .refl hs.guarded.sound
    · rintro _ ⟨ticket, rfl⟩
      rfl
  refine ⟨hs.guarded.of_steady hsteady, ?_⟩
  have hpending : s.finish.watchdog.pending = s.watchdog.pending := by
    rw [finish_eq, Watchdog.step_cancel]
  rw [hpending, hsteady.pid]
  exact hs.scheduled

/-- **Every turn keeps custody.** -/
theorem turn_custody (hs : InCustody P L s) : InCustody P L (s.turn P) := by
  cases hdue : s.due? with
  | none => rwa [turn_of_idle hdue]
  | some occasion =>
    have hserve : InCustody P L (s.serve P occasion) := by
      cases occasion with
      | cancelled => exact hs.finish
      | relaunch => exact relaunch_custody C hs (due?_eq_relaunch.mp hdue).2.2
      | request ticket request =>
        exact handle_custody C (s := { s with queue := s.queue.tail }) (hs.of_eq rfl rfl rfl)
          ticket request
      | detached => exact onDetached_custody C hs
      | exitCheck => exact checkWaiters_custody C hs
      | tick =>
        exact onTick_custody C (s := s.opened .tick) (hs.of_eq rfl rfl rfl)
    rw [turn_eq hdue]
    exact hserve.of_eq rfl rfl rfl

/-! ## Runs -/

theorem step_custody (hs : InCustody P L s) {input : Input σ} (hinput : input.Lawful P L) :
    InCustody P L (step P s input) := by
  by_cases hturn : input = .turn
  · rw [hturn]
    exact turn_custody C hs
  · have hkeeps : L.Keeps P s.system (step P s input).system := by
      cases input with
      | turn => exact absurd rfl hturn
      | world change => exact hinput s.system hs.guarded.sound
      | send ticket request =>
        rw [step, send_frame]
        exact .refl hs.guarded.sound
      | _ => exact .refl hs.guarded.sound
    refine hs.of_steady ⟨hkeeps, (step_adds P s hturn).mono ?_⟩ (by rw [step_frame P s hturn])
    rintro _ ⟨ticket, rfl⟩
    rfl

theorem supervise_custody (spec : Spec) {system : σ} (sink : Option Sink)
    (hsound : L.sound system) (hnone : P.pid system = none) (hfresh : L.created system = 0) :
    InCustody P L (supervise P spec system sink).2 := by
  have hnew : Guarded P L (new spec system sink) := by
    refine ⟨hsound, hfresh, ?_, ?_, ?_⟩
    · rw [pid, show P.pid (new spec system sink).system = none from hnone]
      rfl
    · intro n hn
      cases hn
    · intro later earlier result hsplit
      cases later <;> cases hsplit
  have hlaunch : InCustody P L ((new spec system sink).launch P).2 := by
    refine ⟨launch_guarded C hnew hnone, ?_⟩
    rw [(launch_keeps P _).watchdog]
    intro hpending
    cases hpending
  exact supervise_invariant hlaunch (hlaunch.of_eq rfl rfl rfl) fun _ h => h.finish

/-- **Every run keeps custody.** -/
theorem reached_custody (spec : Spec) {system : σ} (sink : Option Sink) {inputs : List (Input σ)}
    (hsound : L.sound system) (hnone : P.pid system = none) (hfresh : L.created system = 0)
    (hinputs : ∀ input ∈ inputs, input.Lawful P L) :
    InCustody P L (reached P spec system sink inputs) :=
  run_invariant (supervise_custody C spec sink hsound hnone hfresh)
    fun _ hu input hinput => step_custody C hu (hinputs input hinput)

end Calls

/-! ## One process at a time -/

variable (L s) in
/-- The process is neither gone nor killed. -/
def AtLarge (n : Nat) : Prop :=
  n < L.created s.system ∧ ¬ L.exited s.system n ∧ ¬ Killed n s.trace

/-- Since the process was created none was let go of, and no other was created. -/
def KeptSince (n : Nat) (trace : List Event) : Prop :=
  ∃ later earlier pid, trace = later ++ .started (.ok pid) :: earlier ∧ instances earlier = n ∧
    instances later = 0 ∧ .released (.ok ()) ∉ later

/-- The last creation was not followed by a release. -/
theorem exists_last_creation {trace : List Event} (h : holding trace = true) :
    ∃ later earlier pid, trace = later ++ .started (.ok pid) :: earlier ∧ instances later = 0 ∧
      .released (.ok ()) ∉ later := by
  induction trace with
  | nil => cases h
  | cons e rest ih =>
    have hextend (hrest : holding rest = true) (hbirth : e.isBirth = false)
        (hkept : e ≠ .released (.ok ())) : ∃ later earlier pid,
          e :: rest = later ++ .started (.ok pid) :: earlier ∧ instances later = 0 ∧
            .released (.ok ()) ∉ later := by
      obtain ⟨later, earlier, pid, rfl, hlater, hreleased⟩ := ih hrest
      refine ⟨e :: later, earlier, pid, rfl, ?_, ?_⟩
      · unfold instances at *
        rw [List.countP_cons_of_neg (by simp [hbirth]), hlater]
      · rw [List.mem_cons, not_or]
        exact ⟨hkept.symm, hreleased⟩
    cases e with
    | started result =>
      cases result with
      | ok pid => exact ⟨[], rest, pid, rfl, rfl, by simp⟩
      | error e => exact hextend h rfl (by simp)
    | released result =>
      cases result with
      | ok _ => cases h
      | error e => exact hextend h rfl (by simp)
    | _ => exact hextend h rfl (by simp)

theorem keptSince_of_holding {trace : List Event} (h : holding trace = true) {n : Nat}
    (hn : n + 1 = instances trace) : KeptSince n trace := by
  obtain ⟨later, earlier, pid, rfl, hlater, hreleased⟩ := exists_last_creation h
  refine ⟨later, earlier, pid, rfl, ?_, hlater, hreleased⟩
  have hcount : instances (later ++ .started (.ok pid) :: earlier) =
      instances later + (instances earlier + 1) := by
    unfold instances
    rw [List.countP_append, List.countP_cons_of_pos rfl]
  omega

variable (P L s) in
/-- What custody comes to. -/
structure SingleInstance : Prop where
  /-- Every process has exited, was killed, or is held. -/
  fate : ∀ n < L.created s.system, L.exited s.system n ∨ Killed n s.trace ∨
    (s.pid P).isSome = true ∧ n + 1 = L.created s.system
  /-- A process was asked for only with none held. -/
  free : StartsFree s.trace
  /-- No two processes are at large. -/
  single : ∀ m n, AtLarge L s m → AtLarge L s n → m = n
  /-- A process that is at large was never let go of. -/
  kept : ∀ n, AtLarge L s n → KeptSince n s.trace

/-- **One process at a time.**  Over surroundings that keep custody and hold nothing at first, every
process has exited, was killed, or is held, in every reachable state; a process is asked for only
with none held; no two are at large together, and none that is at large was let go of. -/
theorem single_instance (C : Custody P L) (spec : Spec) {system : σ} (sink : Option Sink)
    {inputs : List (Input σ)} (hsound : L.sound system) (hnone : P.pid system = none)
    (hfresh : L.created system = 0) (hinputs : ∀ input ∈ inputs, input.Lawful P L) :
    SingleInstance P L (reached P spec system sink inputs) := by
  have hguarded := (reached_custody C spec sink hsound hnone hfresh hinputs).guarded
  generalize reached P spec system sink inputs = s at *
  have hfate := hguarded.fate
  rw [← hguarded.created] at hfate
  -- What is at large is held, and the one that is held is the last.
  have hheld (n : Nat) (h : AtLarge L s n) :
      (s.pid P).isSome = true ∧ n + 1 = L.created s.system := by
    rcases hfate n h.1 with hexited | hkilled | hheld
    · exact absurd hexited h.2.1
    · exact absurd hkilled h.2.2
    · exact hheld
  refine ⟨hfate, hguarded.free, ?_, ?_⟩
  · intro m n hm hn
    have hfirst := (hheld m hm).2
    have hsecond := (hheld n hn).2
    omega
  · intro n hn
    obtain ⟨hsome, hlast⟩ := hheld n hn
    exact keptSince_of_holding (hguarded.held.trans hsome) (hlast.trans hguarded.created)

/-- The first process is killed, the second is asked for and exits on its own. -/
def killedThenExits : List (Input (ProcessControl ProcessTable)) :=
  [.send 0 .kill, .turn, .send 1 .restart, .turn,
    .world fun c => { c with kernel := ProcessTable.exits c.kernel 2 ⟨256⟩ },
    .elapse 1000, .turn, .elapse 1000, .turn, .turn]

/-- The third process is alone. -/
theorem third_process_alone :
    (reached ProcessTable.platform (ScriptedProcess.spec .infinite) (.new []) none
      killedThenExits).system.kernel = [some (.signalled 9), some ⟨256⟩, none] ∧
    SingleInstance ProcessTable.platform ProcessTable.ledger
      (reached ProcessTable.platform (ScriptedProcess.spec .infinite) (.new []) none
        killedThenExits) := by
  have horder : ProcessTable.ledger.sound (.new []) := by
    refine ⟨rfl, ?_, ?_⟩
    · intro pid hpid
      cases hpid
    · intro status hstatus
      cases hstatus
  refine ⟨by decide, single_instance ProcessTable.custody _ _ horder rfl rfl ?_⟩
  intro input hinput
  simp only [killedThenExits, List.mem_cons, List.not_mem_nil, or_false] at hinput
  rcases hinput with rfl | rfl | rfl | rfl | rfl | rfl | rfl | rfl | rfl | rfl
  case inr.inr.inr.inr.inl =>
    intro c hc
    exact ProcessTable.exits_keeps hc 2 ⟨256⟩
  all_goals trivial

end Supervisor

end Overseer
