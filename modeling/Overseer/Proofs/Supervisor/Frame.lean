import Mathlib.Data.List.Basic
import Overseer.Supervisor.Loop

/-!
# What the supervisor's operations leave alone

Every operation of the supervisor adds to the trace and changes a few fields of the state.  This
file says of each operation which ones, so that no later proof opens an operation to see that it
leaves a field alone.

* `Adds p s t` -- from `s` to `t` only events of the kind `p` were added to the trace;
* `Made e s t` -- from `s` to `t` the event `e` was added to the trace;
* `Calls s t` -- from `s` to `t` the surroundings were called, nothing was created and nobody was
  answered; `probe_calls`, ..., `observe_calls` and the three stops are of this kind;
* `launch_cases` -- the three ways in which a launch attempt goes;
* `Handles s t` -- what holds from before to after any part of a handler but a tick's own work.
-/

namespace Overseer

namespace Event

/-- A call on the held process.  It creates nothing, and nobody is told of it. -/
def isCall : Event → Bool
  | signalled .. | probed _ | awaited _ | released _ | statusRead _ => true
  | _ => false

/-- The process control was asked for a process. -/
def isStart : Event → Bool
  | started _ => true
  | _ => false

/-- A process was created. -/
def isBirth : Event → Bool
  | started (.ok _) => true
  | _ => false

/-- A tick's own work: what it observed, what was decided, what was offered to the sink. -/
def isTick : Event → Bool
  | observed _ | decided _ | offered .. => true
  | _ => false

theorem not_isStart_of_isCall {e : Event} (h : e.isCall = true) : e.isStart = false := by
  cases e <;> simp_all [isCall, isStart]

theorem not_isTick_of_isCall {e : Event} (h : e.isCall = true) : e.isTick = false := by
  cases e <;> simp_all [isCall, isTick]

theorem not_isStart_of_isTick {e : Event} (h : e.isTick = true) : e.isStart = false := by
  cases e <;> simp_all [isTick, isStart]

theorem not_isBirth_of_not_isStart {e : Event} (h : e.isStart = false) : e.isBirth = false := by
  cases e <;> simp_all [isStart, isBirth]

end Event

namespace Supervisor

variable {σ : Type} {P : Platform σ} {s t u : Supervisor σ} {p q : Event → Prop}

/-! ## Growing traces -/

/-- From `s` to `t` events of the kind `p`, and no others, were added to the trace. -/
def Adds (p : Event → Prop) (s t : Supervisor σ) : Prop :=
  ∃ events, t.trace = events ++ s.trace ∧ ∀ e ∈ events, p e

theorem Adds.of_trace_eq (h : t.trace = s.trace) : Adds p s t :=
  ⟨[], by simpa using h, by simp⟩

theorem Adds.cons {e : Event} (h : t.trace = e :: s.trace) (he : p e) : Adds p s t :=
  ⟨[e], by simpa using h, by simpa using he⟩

theorem Adds.trans (hst : Adds p s t) (htu : Adds p t u) : Adds p s u := by
  obtain ⟨first, hfirst, hp⟩ := hst
  obtain ⟨second, hsecond, hq⟩ := htu
  refine ⟨second ++ first, by rw [hsecond, hfirst, List.append_assoc], ?_⟩
  intro e he
  rcases List.mem_append.mp he with h | h
  · exact hq e h
  · exact hp e h

theorem Adds.mono (hpq : ∀ e, p e → q e) (h : Adds p s t) : Adds q s t := by
  obtain ⟨events, htrace, hp⟩ := h
  exact ⟨events, htrace, fun e he => hpq e (hp e he)⟩

/-- What was in the trace stays there. -/
theorem Adds.suffix (h : Adds p s t) : s.trace <:+ t.trace := by
  obtain ⟨events, htrace, -⟩ := h
  exact ⟨events, htrace.symm⟩

/-- Events of another kind are as many as before. -/
theorem Adds.countP_eq {kind : Event → Bool} (h : Adds p s t)
    (hp : ∀ e, p e → kind e = false) : t.trace.countP kind = s.trace.countP kind := by
  obtain ⟨events, htrace, hevents⟩ := h
  have hnone : events.countP kind = 0 := by
    rw [List.countP_eq_zero]
    intro e he
    simp [hp e (hevents e he)]
  rw [htrace, List.countP_append, hnone, Nat.zero_add]

/-- What events of another kind tell is told as before. -/
theorem Adds.filterMap_eq {α : Type} {told : Event → Option α} (h : Adds p s t)
    (hp : ∀ e, p e → told e = none) : t.trace.filterMap told = s.trace.filterMap told := by
  obtain ⟨events, htrace, hevents⟩ := h
  have hnone : events.filterMap told = [] := by
    rw [List.filterMap_eq_nil_iff]
    intro e he
    exact hp e (hevents e he)
  rw [htrace, List.filterMap_append, hnone, List.nil_append]

/-- From `s` to `t` the event was added to the trace. -/
def Made (e : Event) (s t : Supervisor σ) : Prop :=
  ∃ since before, t.trace = since ++ e :: before ∧ s.trace <:+ before

theorem Made.of_cons {e : Event} (h : t.trace = e :: s.trace) : Made e s t :=
  ⟨[], s.trace, h, List.suffix_rfl⟩

/-- What was done later was done on the way. -/
theorem Made.after {e : Event} (h : Made e t u) (hst : s.trace <:+ t.trace) : Made e s u := by
  obtain ⟨since, before, htrace, hnew⟩ := h
  exact ⟨since, before, htrace, hst.trans hnew⟩

/-- What was done at first was done on the way. -/
theorem Made.before {e : Event} (h : Made e s t) (htu : t.trace <:+ u.trace) : Made e s u := by
  obtain ⟨since, before, htrace, hnew⟩ := h
  obtain ⟨later, hlater⟩ := htu
  exact ⟨later ++ since, before, by rw [← hlater, htrace, List.append_assoc], hnew⟩

/-- What is in a longer trace was there before, or was added. -/
theorem mem_or_made {e : Event} (h : e ∈ t.trace) (hst : s.trace <:+ t.trace) :
    e ∈ s.trace ∨ Made e s t := by
  obtain ⟨events, htrace⟩ := hst
  rw [← htrace] at h
  rcases List.mem_append.mp h with h | h
  · obtain ⟨since, before, rfl⟩ := List.append_of_mem h
    exact .inr ⟨since, before ++ s.trace, by simp [← htrace], List.suffix_append _ _⟩
  · exact .inl h

/-- What was added is of the kind. -/
theorem Adds.of_made {e : Event} (h : Adds p s t) (hmade : Made e s t) : p e := by
  obtain ⟨events, hevents, hp⟩ := h
  obtain ⟨since, before, htrace, middle, hmiddle⟩ := hmade
  have hsplit : events = since ++ e :: middle := by
    refine List.append_cancel_right (hevents.symm.trans (htrace.trans ?_))
    rw [← hmiddle, List.append_assoc, List.cons_append]
  exact hp e (by simp [hsplit])

theorem not_made_of_trace_eq {e : Event} (h : t.trace = s.trace) : ¬ Made e s t := fun hmade =>
  (Adds.of_trace_eq h : Adds (fun _ => False) s t).of_made hmade

/-- No process was asked for from `s` to `t`. -/
abbrev NoStart (s t : Supervisor σ) : Prop := Adds (fun e => e.isStart = false) s t

/-- How often a process was asked for. -/
def starts (s : Supervisor σ) : Nat := s.trace.countP Event.isStart

/-- How many processes a trace tells of. -/
def instances (trace : List Event) : Nat := trace.countP Event.isBirth

theorem NoStart.starts_eq (h : NoStart s t) : t.starts = s.starts :=
  h.countP_eq fun _ he => he

theorem NoStart.instances_eq (h : NoStart s t) : instances t.trace = instances s.trace :=
  h.countP_eq fun _ he => Event.not_isBirth_of_not_isStart he

/-! ## Calls -/

/-- All of `s` is as before in `t` but the surroundings, the start time and the trace. -/
def Keeps (s t : Supervisor σ) : Prop :=
  t = { s with system := t.system, startTime := t.startTime, trace := t.trace }

namespace Keeps

theorem trans (hst : Keeps s t) (htu : Keeps t u) : Keeps s u := by
  unfold Keeps at *
  rw [htu, hst]

theorem watchdog (h : Keeps s t) : t.watchdog = s.watchdog := by rw [h]

theorem waiters (h : Keeps s t) : t.waiters = s.waiters := by rw [h]

theorem spec (h : Keeps s t) : t.spec = s.spec := by rw [h]

end Keeps

/-- The surroundings were called from `s` to `t`: they may have changed, and the start time may
have, but nothing was created, nobody was answered, and all else is as before. -/
structure Calls (s t : Supervisor σ) : Prop where
  keeps : Keeps s t
  adds : Adds (fun e => e.isCall) s t

namespace Calls

theorem refl (s : Supervisor σ) : Calls s s := ⟨rfl, .of_trace_eq rfl⟩

theorem trans (hst : Calls s t) (htu : Calls t u) : Calls s u :=
  ⟨hst.keeps.trans htu.keeps, hst.adds.trans htu.adds⟩

/-- Clearing the start time goes with the calls that give cause to it. -/
theorem withStartTime (h : Calls s t) (time : Option Moment) :
    Calls s { t with startTime := time } :=
  h.trans ⟨rfl, .of_trace_eq rfl⟩

theorem noStart (h : Calls s t) : NoStart s t :=
  h.adds.mono fun _ he => Event.not_isStart_of_isCall he

end Calls

/-- A process is not alive only when the null signal finds none. -/
theorem alive_eq_false {probe : Except Errno Unit} (h : alive probe = false) :
    probe = .error .esrch := by
  unfold alive at h
  split at h
  · next e => rw [show e = Errno.esrch by simpa using h]
  · cases h

variable (P) (s)

theorem signal_calls (signal : Signal) : Calls s (s.signal P signal).2 :=
  ⟨rfl, .cons rfl rfl⟩

theorem probe_calls : Calls s (s.probe P).2 := ⟨rfl, .cons rfl rfl⟩

theorem tryWait_calls : Calls s (s.tryWait P).2 := ⟨rfl, .cons rfl rfl⟩

theorem release_calls : Calls s (s.release P).2 := ⟨rfl, .cons rfl rfl⟩

theorem readStatus_calls (pid : Pid) : Calls s (s.readStatus P pid).2 := ⟨rfl, .cons rfl rfl⟩

theorem isAlive_calls : Calls s (s.isAlive P).2 := by
  unfold isAlive
  split
  · exact .refl s
  · exact probe_calls P s

theorem observe_calls : Calls s (s.observe P).2 := by
  unfold observe
  split
  · exact .refl s
  · next pid _ =>
    have halive := isAlive_calls P s
    split
    · next t h => rwa [h] at halive
    · next t h =>
      rw [h] at halive
      have hread := readStatus_calls P t pid
      split <;> next u hu => rw [hu] at hread; exact halive.trans hread

/-- Asking the held process to end. -/
theorem stopGraceful_calls : Calls s (s.stopGraceful P).2 := by
  unfold stopGraceful
  split
  · exact .refl s
  · have hsignal := signal_calls P s .term
    split
    · next t h => rwa [h] at hsignal
    · next t h => rw [h] at hsignal; exact hsignal.withStartTime none

/-- Ending the held process by force. -/
theorem stopForced_calls : Calls s (s.stopForced P).2 := by
  unfold stopForced
  split
  · exact .refl s
  · have hsignal := signal_calls P s .kill
    split
    · next t h => rwa [h] at hsignal
    · next t h =>
      rw [h] at hsignal
      have hrelease := release_calls P t
      split
      · next u hu => rw [hu] at hrelease; exact hsignal.trans hrelease
      · next u hu => rw [hu] at hrelease; exact (hsignal.trans hrelease).withStartTime _

theorem sendSignal_calls (signal : Signal) : Calls s (s.sendSignal P signal).2 := by
  unfold sendSignal
  split
  · exact .refl s
  · have hsignal := signal_calls P s signal
    split <;> next t h => rwa [h] at hsignal

/-! ## Launches -/

/-- The directory is unknown, the process control fails, or a process is created. -/
theorem attemptLaunch_cases :
    (∃ e cause, s.directory P = .error cause ∧ (s.attemptLaunch P).1 = .error e ∧
      (s.attemptLaunch P).2.trace = s.trace) ∨
    (∃ e cause, (s.attemptLaunch P).1 = .error e ∧
      (s.attemptLaunch P).2.trace = .started (.error cause) :: s.trace) ∨
    (∃ pid reading, (s.attemptLaunch P).1 = .ok pid ∧
      (s.attemptLaunch P).2.trace = .statusRead reading :: .started (.ok pid) :: s.trace) := by
  unfold attemptLaunch
  split
  · next cause hdirectory => exact .inl ⟨_, cause, hdirectory, rfl, rfl⟩
  · next directory _ =>
    have hstart : (s.start P directory).2.trace = .started (s.start P directory).1 :: s.trace := rfl
    split
    · next e t h =>
      rw [h] at hstart
      exact .inr (.inl ⟨_, e, rfl, hstart⟩)
    · next pid t h =>
      rw [h] at hstart
      exact .inr (.inr ⟨pid, _, rfl, congrArg _ hstart⟩)

theorem attemptLaunch_keeps : Keeps s (s.attemptLaunch P).2 := by
  unfold attemptLaunch
  split
  · rfl
  · next directory _ =>
    have hstart : Keeps s (s.start P directory).2 := rfl
    split
    · next t h => rwa [h] at hstart
    · next pid t h =>
      rw [h] at hstart
      have hread : Keeps t ({ t with startTime := some t.now }.readStatus P pid).2 := rfl
      exact hstart.trans hread

/-- **A launch attempt.**  It fails before it comes to the process control, or there, or it creates
a process. -/
theorem launch_cases :
    (∃ e cause, s.directory P = .error cause ∧ (s.launch P).1 = .error e ∧
      (s.launch P).2.trace = .launched (.error e) :: s.trace) ∨
    (∃ e cause, (s.launch P).1 = .error e ∧
      (s.launch P).2.trace = .launched (.error e) :: .started (.error cause) :: s.trace) ∨
    (∃ pid reading, (s.launch P).1 = .ok pid ∧
      (s.launch P).2.trace =
        .launched (.ok pid) :: .statusRead reading :: .started (.ok pid) :: s.trace) := by
  have hresult : (s.launch P).1 = (s.attemptLaunch P).1 := rfl
  have htrace : (s.launch P).2.trace =
      .launched (s.attemptLaunch P).1 :: (s.attemptLaunch P).2.trace := rfl
  rw [hresult, htrace]
  rcases attemptLaunch_cases P s with
    ⟨e, cause, hdirectory, he, ht⟩ | ⟨e, cause, he, ht⟩ | ⟨pid, reading, he, ht⟩
  · exact .inl ⟨e, cause, hdirectory, he, by rw [he, ht]⟩
  · exact .inr (.inl ⟨e, cause, he, by rw [he, ht]⟩)
  · exact .inr (.inr ⟨pid, reading, he, by rw [he, ht]⟩)

theorem launch_keeps : Keeps s (s.launch P).2 :=
  (attemptLaunch_keeps P s).trans rfl

/-- With a directory to start in the process control is asked for exactly one process. -/
theorem launch_starts {directory : String} (h : s.directory P = .ok directory) :
    (s.launch P).2.starts = s.starts + 1 := by
  rcases launch_cases P s with ⟨e, cause, hnone, -, -⟩ | ⟨e, cause, -, ht⟩ | ⟨pid, reading, -, ht⟩
  · rw [h] at hnone
    cases hnone
  · simp [starts, ht, List.countP_cons, Event.isStart]
  · simp [starts, ht, List.countP_cons, Event.isStart]

/-! ## Handlers -/

variable {P s}

/-- What a handler does from `s` to `t`, a tick's own work apart.  It may settle callers, park one,
pick up the scheduled relaunch and end the supervision; the requests, the clock, the sink and the
rest of the watchdog are as before. -/
structure Handles (s t : Supervisor σ) : Prop where
  frame : t = { s with
    system := t.system
    startTime := t.startTime
    watchdog := t.watchdog
    cancelled := t.cancelled
    waiters := t.waiters
    trace := t.trace }
  watchdog : t.watchdog = s.watchdog ∨ t.watchdog = s.watchdog.takeRestart.2
  cancelled : s.cancelled = true → t.cancelled = true
  adds : Adds (fun e => e.isTick = false) s t

namespace Handles

theorem refl (s : Supervisor σ) : Handles s s := ⟨rfl, .inl rfl, id, .of_trace_eq rfl⟩

theorem trans (hst : Handles s t) (htu : Handles t u) : Handles s u where
  frame := by rw [htu.frame, hst.frame]
  watchdog := by
    rcases htu.watchdog with h | h
    · rw [h]; exact hst.watchdog
    · right
      rcases hst.watchdog with h' | h' <;> rw [h, h']
      rfl
  cancelled := fun h => htu.cancelled (hst.cancelled h)
  adds := hst.adds.trans htu.adds

theorem of_keeps (h : Keeps s t) (hadds : Adds (fun e => e.isTick = false) s t) :
    Handles s t where
  frame := by rw [h]
  watchdog := .inl h.watchdog
  cancelled := by rw [h]; exact id
  adds := hadds

theorem of_calls (h : Calls s t) : Handles s t :=
  .of_keeps h.keeps (h.adds.mono fun _ he => Event.not_isTick_of_isCall he)

theorem of_answer (ticket : Ticket) (answer : Answer) : Handles s (s.answer ticket answer) :=
  .of_keeps rfl (.cons rfl rfl)

theorem of_waiters (waiters : List Waiter) : Handles s { s with waiters } :=
  ⟨rfl, .inl rfl, id, .of_trace_eq rfl⟩

theorem of_launch : Handles s (s.launch P).2 := by
  refine .of_keeps (launch_keeps P s) ?_
  rcases launch_cases P s with ⟨e, cause, -, -, h⟩ | ⟨e, cause, -, h⟩ | ⟨pid, reading, -, h⟩
  · exact .cons h rfl
  · exact ⟨[.launched (.error e), .started (.error cause)], h, by simp [Event.isTick]⟩
  · exact ⟨[.launched (.ok pid), .statusRead reading, .started (.ok pid)], h,
      by simp [Event.isTick]⟩

/-- The scheduled relaunch is picked up. -/
theorem of_takeRestart : Handles s { s with watchdog := s.watchdog.takeRestart.2 } :=
  ⟨rfl, .inr rfl, id, .of_trace_eq rfl⟩

theorem of_cancelled : Handles s { s with cancelled := true } :=
  ⟨rfl, .inl rfl, fun _ => rfl, .of_trace_eq rfl⟩

end Handles

end Supervisor

end Overseer
