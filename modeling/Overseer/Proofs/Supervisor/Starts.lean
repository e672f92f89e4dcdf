import Overseer.Proofs.Supervisor.Turns

/-!
# Which turns ask for a process

* `Route.quiet` -- a route launches to settle the parked restart, or not at all;
* `SettlesRestart s t` -- the parked restart of `s` was settled in `t` with one launch;
* `Orderly s t` -- from `s` to `t` a process was asked for to settle the parked restart, or not at
  all; `turn_orderly` -- every turn is of this kind, but the one that carries out a scheduled
  relaunch and the one that serves a restart;
* `turn_of_relaunch`, `restart_starts` -- what these two do.
-/

namespace Overseer

namespace Event

/-- A process was asked for, or a launch was attempted. -/
def isCreation : Event → Bool
  | started _ | launched _ => true
  | _ => false

theorem not_isCreation_of_isCall {e : Event} (h : e.isCall = true) : e.isCreation = false := by
  cases e <;> simp_all [isCall, isCreation]

theorem not_isStart_of_not_isCreation {e : Event} (h : e.isCreation = false) :
    e.isStart = false := by
  cases e <;> simp_all [isStart, isCreation]

end Event

namespace Supervisor

variable {σ : Type} {P : Platform σ} {s t u : Supervisor σ}

/-- A delete or a restart is parked. -/
def stopParked (s : Supervisor σ) : Bool := s.waiters.any fun waiter => !waiter.isWait

/-- The parked restart of `s` was settled in `t` with the one launch that was attempted. -/
structure SettlesRestart (s t : Supervisor σ) : Prop where
  noDelete : s.waiters.any Waiter.isDelete = false
  settled : t.waiters = []
  answered : ∃ ticket result rest, .restart ticket ∈ s.waiters ∧
    t.trace = .answered ticket (result.map .restarted) :: .launched result :: rest
  once : t.starts ≤ s.starts + 1

theorem SettlesRestart.of_noStart (h : SettlesRestart u t) (hwaiters : u.waiters = s.waiters)
    (hst : NoStart s u) : SettlesRestart s t where
  noDelete := by rw [← hwaiters, h.noDelete]
  settled := h.settled
  answered := by rw [← hwaiters]; exact h.answered
  once := by rw [← hst.starts_eq]; exact h.once

/-- The queue, the clock and the like do not matter. -/
theorem SettlesRestart.congr (h : SettlesRestart s t) {s' t' : Supervisor σ}
    (hs : s.waiters = s'.waiters ∧ s.trace = s'.trace)
    (ht : t.waiters = t'.waiters ∧ t.trace = t'.trace) : SettlesRestart s' t' := by
  have hafter : SettlesRestart s t' := by
    refine ⟨h.noDelete, ht.1 ▸ h.settled, ht.2 ▸ h.answered, ?_⟩
    unfold starts
    rw [← ht.2]
    exact h.once
  exact hafter.of_noStart hs.1 (.of_trace_eq hs.2)

theorem SettlesRestart.stopParked (h : SettlesRestart s t) : s.stopParked = true := by
  obtain ⟨ticket, -, -, hticket, -⟩ := h.answered
  exact List.any_eq_true.mpr ⟨.restart ticket, hticket, rfl⟩

/-! ## Settling -/

theorem NoStart.refl (s : Supervisor σ) : NoStart s s := .of_trace_eq rfl

/-- An answer asks for no process. -/
theorem NoStart.answer (h : NoStart s t) (ticket : Ticket) (reply : Answer) :
    NoStart s (t.answer ticket reply) :=
  h.trans (.cons rfl rfl)

/-- From `s` to `t` no process was asked for, and no launch was attempted. -/
abbrev Quiet (s t : Supervisor σ) : Prop := Adds (fun e => e.isCreation = false) s t

namespace Quiet

theorem noStart (h : Quiet s t) : NoStart s t :=
  h.mono fun _ he => Event.not_isStart_of_not_isCreation he

theorem answer (h : Quiet s t) (ticket : Ticket) (reply : Answer) :
    Quiet s (t.answer ticket reply) :=
  h.trans (.cons rfl rfl)

theorem finishDelete (h : Quiet s t) (ticket : Option Ticket) (result : Except Error Unit) :
    Quiet s (t.finishDelete ticket result) := by
  cases ticket with
  | none => exact h.trans (.of_trace_eq rfl)
  | some ticket => exact Quiet.answer (h.trans (.of_trace_eq rfl)) ticket _

end Quiet

theorem Calls.quiet (h : Calls s t) : Quiet s t :=
  h.adds.mono fun _ he => Event.not_isCreation_of_isCall he

variable (P s) in
theorem told_quiet (exit : Except String ExitStatus) : Quiet s (s.told P exit) := by
  refine (nothingLeft_calls P s exit).quiet.trans ((told_adds P s exit).mono ?_)
  rintro _ ⟨ticket, rfl⟩
  rfl

variable (P s) in
/-- A launch asks at most once for a process. -/
theorem launch_starts_le : (s.launch P).2.starts ≤ s.starts + 1 := by
  unfold starts
  rcases launch_cases P s with ⟨_, _, -, -, ht⟩ | ⟨_, _, -, ht⟩ | ⟨_, _, -, ht⟩ <;> rw [ht] <;>
    simp [List.countP_cons, Event.isStart]

variable (P s) in
theorem relaunchNow_starts_le : (s.relaunchNow P).2.starts ≤ s.starts + 1 := by
  unfold relaunchNow
  split
  · have hrelease := (release_calls P s).noStart.starts_eq
    rw [← hrelease]
    exact launch_starts_le P _
  · exact launch_starts_le P _

variable (P s) in
theorem relaunchNow_trace :
    ∃ rest, (s.relaunchNow P).2.trace = .launched (s.relaunchNow P).1 :: rest :=
  ⟨_, rfl⟩

variable (P) in
/-- Everybody but the parked restart of `s` was told, and then the restart was settled in `t` by a
launch. -/
structure SettledByLaunch (s t : Supervisor σ) : Prop where
  noDelete : s.waiters.any Waiter.isDelete = false
  launched : ∃ u ticket, Quiet s u ∧ u.waiters = [] ∧ u.watchdog = s.watchdog ∧
    .restart ticket ∈ s.waiters ∧
    t = (u.relaunchNow P).2.answer ticket ((u.relaunchNow P).1.map .restarted)

/-- **A route launches to settle the parked restart, or not at all.** -/
theorem Route.quiet (h : Route P s t) :
    Quiet s t ∧ t.watchdog = s.watchdog ∨ SettledByLaunch P s t := by
  cases h with
  | calls h => exact .inl ⟨h.quiet, h.keeps.watchdog⟩
  | @settled u exit h _ result =>
    have htold := h.quiet.trans (told_quiet P u exit)
    have hwatchdog : (u.told P exit).watchdog = s.watchdog :=
      (told_watchdog P u exit).trans h.keeps.watchdog
    have hwaiters := h.keeps.waiters
    have hsettles := resolveWaiters_settles P u exit
    rw [← result] at hsettles
    cases hsettles with
    | nobody _ result => rw [result]; exact .inl ⟨h.quiet, h.keeps.watchdog⟩
    | deleted ticket _ result =>
      rw [result, finishDelete_watchdog]
      left
      split
      · exact ⟨Quiet.finishDelete (Quiet.answer htold _ _) ticket _, hwatchdog⟩
      · exact ⟨Quiet.finishDelete htold ticket _, hwatchdog⟩
    | refused ticket _ _ _ result =>
      rw [result]
      exact .inl ⟨Quiet.answer htold ticket _, hwatchdog⟩
    | waits _ _ _ result => rw [result]; exact .inl ⟨htold, hwatchdog⟩
    | relaunched ticket noDelete parked _ result =>
      refine .inr ⟨hwaiters ▸ parkedDelete?_eq_none_iff.mp noDelete, u.told P exit, ticket, htold,
        told_waiters P u exit, hwatchdog, hwaiters ▸ parkedRestart?_mem parked, result⟩

/-- **A route asks for a process only to settle the parked restart**, and drops a scheduled relaunch
only for it. -/
theorem Route.starts (h : Route P s t) :
    NoStart s t ∧ t.watchdog = s.watchdog ∨ SettlesRestart s t := by
  rcases h.quiet with ⟨hquiet, hwatchdog⟩ |
    ⟨noDelete, u, ticket, hquiet, hnobody, -, hparked, result⟩
  · exact .inl ⟨hquiet.noStart, hwatchdog⟩
  · obtain ⟨rest, hrest⟩ := relaunchNow_trace P u
    have hwaiters : t.waiters = (u.relaunchNow P).2.waiters := by rw [result]; rfl
    have htrace : t.trace = .answered ticket ((u.relaunchNow P).1.map .restarted) ::
        (u.relaunchNow P).2.trace := by rw [result]; rfl
    have hstarts : t.starts = (u.relaunchNow P).2.starts := by
      rw [result]
      exact (NoStart.answer (NoStart.refl _) ticket _).starts_eq
    right
    refine ⟨noDelete, ?_, ⟨ticket, (u.relaunchNow P).1, rest, hparked, ?_⟩, ?_⟩
    · rw [hwaiters, relaunchNow_waiters, hnobody]
    · rw [htrace, hrest]
    · rw [hstarts, ← hquiet.noStart.starts_eq]
      exact relaunchNow_starts_le P u

/-! ## Turns -/

/-- From `s` to `t` a process was asked for to settle the parked restart, or not at all. -/
def Orderly (s t : Supervisor σ) : Prop := NoStart s t ∨ SettlesRestart s t

theorem Orderly.of_route (h : Route P u t) (hst : NoStart s u) (hwaiters : u.waiters = s.waiters) :
    Orderly s t := by
  rcases h.starts with ⟨h, -⟩ | h
  · exact .inl (hst.trans h)
  · exact .inr (h.of_noStart hwaiters hst)

theorem Orderly.congr (h : Orderly s t) {s' t' : Supervisor σ}
    (hs : s.waiters = s'.waiters ∧ s.trace = s'.trace)
    (ht : t.waiters = t'.waiters ∧ t.trace = t'.trace) : Orderly s' t' := by
  rcases h with h | h
  · left
    unfold NoStart Adds at *
    rwa [← hs.2, ← ht.2]
  · exact .inr (h.congr hs ht)

theorem NoStart.finish : NoStart s s.finish := by
  refine finish_adds.mono ?_
  rintro _ ⟨ticket, rfl⟩
  rfl

variable (P s) in
/-- Beside a parked restart a wait makes no difference. -/
theorem park_wait_orderly (ticket : Ticket) : Orderly s (s.park P (.wait ticket)) := by
  rcases (park_route P s (.wait ticket)).starts with ⟨h, -⟩ | h
  · exact .inl h
  · obtain ⟨restart, result, rest, hrestart, htrace⟩ := h.answered
    have hparked : .restart restart ∈ s.waiters := by simpa using hrestart
    have hdelete : s.waiters.any Waiter.isDelete = false := by
      simpa [Waiter.isDelete] using h.noDelete
    exact .inr ⟨hdelete, h.settled, ⟨restart, result, rest, hparked, htrace⟩, h.once⟩

variable (P s) in
/-- A delete asks for no process. -/
theorem delete_noStart (ticket : Option Ticket) : NoStart s (s.delete P ticket) := by
  have hgraceful := (stopGraceful_calls P s).noStart
  cases delete_deletes P s ticket with
  | busy _ result =>
    rcases result with ⟨-, result⟩ | ⟨ticket, -, result⟩ <;> rw [result]
    · exact .refl s
    · exact NoStart.answer (.refl s) ticket _
  | parked _ _ result =>
    rw [result]
    rcases (park_route P (s.stopGraceful P).2 (.delete ticket)).starts with ⟨h, -⟩ | h
    · exact hgraceful.trans h
    · -- A restart is not settled with a launch beside a parked delete.
      have hdelete := h.noDelete
      simp [Waiter.isDelete] at hdelete
  | forced _ outcome result =>
    rw [result]
    have hcalls := (stopGraceful_calls P s).trans (stopForced_calls P _)
    exact (Quiet.finishDelete hcalls.quiet ticket outcome).noStart

/-- Without a stop parked a route asks for no process. -/
theorem Route.noStart (h : Route P s t) (hfree : s.stopParked = false) : NoStart s t := by
  rcases h.starts with ⟨h, -⟩ | h
  · exact h
  · have hparked := h.stopParked
    rw [hfree] at hparked
    cases hparked

/-- A route leaves everybody parked, or nobody. -/
theorem Route.waiters (h : Route P s t) : t.waiters = s.waiters ∨ t.waiters = [] := by
  cases h with
  | calls h => exact .inl h.keeps.waiters
  | settled exit _ _ result => rw [result]; exact .inr (resolveWaiters_waiters P _ exit)

variable (P) in
/-- A restart that is served in `s` may have asked for a process: no stop is parked, and in `t`
everybody is settled, or else nothing was held, and everybody is parked as before. -/
structure AtOnce (s t : Supervisor σ) : Prop where
  first : s.stopParked = false
  after : t.waiters = [] ∨ (s.noticeExit P).pid P = none ∧ t.waiters = s.waiters

theorem AtOnce.stopParked (h : AtOnce P s t) : t.stopParked = false := by
  unfold Supervisor.stopParked
  rcases h.after with h' | ⟨-, h'⟩ <;> rw [h']
  · rfl
  · exact h.first

variable (P s) in
/-- A restart that finds a stop parked, or is parked itself, asks for no process. -/
theorem restart_starts (ticket : Ticket) :
    NoStart s (s.restart P ticket) ∨ AtOnce P s (s.restart P ticket) := by
  have hnotice := noticeExit_route P s
  have hgraceful := (stopGraceful_calls P (s.noticeExit P)).noStart
  cases restart_restarts P s ticket with
  | busy _ result => rw [result]; exact .inl (NoStart.answer (.refl s) ticket _)
  | parked first _ result =>
    by_cases hnobody : (s.restart P ticket).waiters = []
    · exact .inr ⟨first, .inl hnobody⟩
    · left
      rw [result] at hnobody ⊢
      have hpark := ((park_route P _ (.restart ticket)).calls_of_parked hnobody).noStart
      exact (hnotice.noStart first).trans (hgraceful.trans hpark)
  | relaunched first free result =>
    have hwaiters : (s.restart P ticket).waiters = (s.noticeExit P).waiters := by
      rw [result]
      exact relaunchNow_waiters P _
    right
    refine ⟨first, ?_⟩
    rw [hwaiters]
    rcases hnotice.waiters with h | h
    · exact .inr ⟨free, h⟩
    · exact .inl h
  | refused first e result =>
    rw [result]
    exact .inl (NoStart.answer ((hnotice.noStart first).trans hgraceful) ticket _)

variable (P s) in
theorem handle_orderly (ticket : Ticket) {request : Request} (h : request ≠ .restart) :
    Orderly s (s.handle P ticket request) := by
  by_cases hplain : request.isPlain = true
  · obtain ⟨u, reply, hcalls, hresult, -⟩ := handle_plain P s hplain ticket
    rw [hresult]
    exact .inl (NoStart.answer hcalls.noStart ticket reply)
  · cases request with
    | restart => exact absurd rfl h
    | delete => exact .inl (delete_noStart P s (some ticket))
    | wait =>
      rcases wait_cases P s ticket with ⟨-, hresult⟩ | ⟨-, hresult⟩ <;> rw [hresult]
      · exact .inl (NoStart.answer (.refl s) ticket _)
      · exact park_wait_orderly P s ticket
    | _ => exact absurd rfl hplain

variable (P s) in
theorem onTick_orderly : Orderly s (s.onTick P) := by
  cases hlive : s.watchdog.cancelled with
  | true =>
    cases onTick_ticks P s with
    | stopped _ result => rw [result]; exact .inl (observe_calls P s).noStart
    | terminated live | zombie live | quiet live => rw [hlive] at live; cases live
  | false => exact .of_route (tick_route P s hlive) (noted_noStart P s) (noted_waiters P s)

variable (P s) in
theorem onDetached_noStart : NoStart s (s.onDetached P) := by
  unfold onDetached
  dsimp only
  split
  · exact delete_noStart P _ none
  · exact .of_trace_eq rfl

variable (P s) in
/-- **A turn asks for a process only to settle the parked restart**, unless it carries out a
scheduled relaunch or serves a restart. -/
theorem turn_orderly : Orderly s (s.turn P) ∨ s.due? = some .relaunch ∨
    ∃ ticket, s.due? = some (.request ticket .restart) := by
  cases hdue : s.due? with
  | none => rw [turn_of_idle hdue]; exact .inl (.inl (.refl s))
  | some occasion =>
    rw [turn_eq hdue]
    cases occasion with
    | relaunch => exact .inr (.inl rfl)
    | cancelled => exact .inl (.inl .finish)
    | detached => exact .inl (.inl (onDetached_noStart P s))
    | exitCheck =>
      exact .inl ((Orderly.of_route (checkWaiters_route P s) (.refl s) rfl).congr
        ⟨rfl, rfl⟩ ⟨rfl, rfl⟩)
    | tick =>
      exact .inl ((onTick_orderly P (s.opened .tick)).congr
        ⟨rfl, rfl⟩ ⟨rfl, rfl⟩)
    | request ticket request =>
      by_cases hrestart : request = .restart
      · exact .inr (.inr ⟨ticket, by rw [hrestart]⟩)
      · exact .inl ((handle_orderly P { s with queue := s.queue.tail } ticket hrestart).congr
          ⟨rfl, rfl⟩ ⟨rfl, rfl⟩)

variable (P s) in
/-- From outside nothing is asked of the process control. -/
theorem step_noStart {input : Input σ} (h : input ≠ .turn) : NoStart s (step P s input) := by
  refine (step_adds P s h).mono ?_
  rintro _ ⟨ticket, rfl⟩
  rfl

/-- A scheduled relaunch asks for a process and leaves everybody parked. -/
theorem turn_of_relaunch (h : s.due? = some .relaunch) :
    (s.turn P).waiters = s.waiters ∧ (s.turn P).watchdog.pending = false ∧
      ∀ directory, s.directory P = .ok directory → (s.turn P).starts = s.starts + 1 := by
  obtain ⟨-, -, hpending⟩ := due?_eq_relaunch.mp h
  have hserve : s.serve P .relaunch = _ := relaunch_of_pending P s hpending
  have hkeeps := launch_keeps P { s with watchdog := s.watchdog.takeRestart.2 }
  rw [turn_eq h, hserve]
  refine ⟨hkeeps.waiters, congrArg Watchdog.pending hkeeps.watchdog, ?_⟩
  intro directory hdirectory
  exact launch_starts P { s with watchdog := s.watchdog.takeRestart.2 } hdirectory

end Supervisor

end Overseer
