import Overseer.Proofs.Supervisor.Conservation
import Overseer.Proofs.Supervisor.Deletion
import Overseer.Proofs.Supervisor.Watchful
import Overseer.ScriptedProcess

/-!
# Whom a tick settles that finds the process gone

Such a tick lets go of the process, and that is what settles the parked callers.  When a kill has
let go of it before, there is nothing to let go of, and nobody is settled.

* `EverybodySettled`, `NobodySettled` -- the two ends of such a tick;
* `Forsakes` -- somebody is parked, and the tick finds nothing held;
* `terminated_tick_settles` -- which of the two it is.
-/

namespace Overseer

namespace Supervisor

variable {σ : Type} {P : Platform σ} {s t : Supervisor σ}

/-- Everybody who is parked in `s` is settled in `t`. -/
structure EverybodySettled (s t : Supervisor σ) : Prop where
  nobody : t.waiters = []
  /-- Every request is answered as often as it was parked, and no other is. -/
  answered : ∀ k, (answeredTickets t.trace).count k =
    (answeredTickets s.trace).count k + (parkedTickets s.waiters).count k
  /-- A parked delete ends the supervision, with or without somebody to tell. -/
  ended : s.waiters.any Waiter.isDelete = true → t.cancelled = true

/-- Nobody who is parked in `s` is settled in `t`. -/
structure NobodySettled (s t : Supervisor σ) : Prop where
  parked : t.waiters = s.waiters
  unanswered : ∀ ticket reply, ¬ Made (.answered ticket reply) s t
  going : t.cancelled = s.cancelled

variable (P s) in
/-- Somebody is parked, and what observes the process finds nothing held. -/
structure Forsakes : Prop where
  parked : s.waiters ≠ []
  free : (s.observe P).2.pid P = none

variable (P s) in
/-- A tick answers nobody before it has noted its outcome. -/
theorem noted_unanswered : Adds (fun e => e.answered? = none) s (s.noted P) :=
  (observe_calls P s).unanswered.trans
    ((noted_adds P s).mono fun _ he => Event.answered?_of_isTick he)

/-- With nothing held there is nothing to let go of, and the tick only notes its outcome. -/
theorem nobodySettled_of_free (hs : Watchful s) (due : s.due? = some .tick)
    (gone : (s.observe P).1 = .terminated) (free : (s.observe P).2.pid P = none) :
    NobodySettled s (s.turn P) := by
  have hturn : s.turn P = ((s.opened .tick).noted P).rearm := by
    rw [turn_of_gone hs due gone, onTerminated_of_free (opened_observe.2.trans free)]
  have hadds : Adds (fun e => e.answered? = none) s (s.turn P) := by
    rw [hturn]
    exact noted_unanswered P (s.opened .tick)
  refine ⟨?_, ?_, ?_⟩
  · rw [hturn]
    exact noted_waiters P (s.opened .tick)
  · intro ticket reply hmade
    cases hadds.of_made hmade
  · have hnoted : ((s.opened .tick).noted P).cancelled = s.cancelled := by
      rw [noted_frame]
      rfl
    rw [hturn]
    exact hnoted

/-- A tick that leaves nobody parked has answered everybody who was. -/
theorem everybodySettled_of_nobody (hone : OneStop s.waiters) (due : s.due? = some .tick)
    (hnobody : (s.turn P).waiters = []) : EverybodySettled s (s.turn P) := by
  have hturn : s.turn P = ((s.opened .tick).onTick P).rearm := turn_eq due
  refine ⟨hnobody, ?_, ?_⟩
  · intro k
    have htaken : taken k (s.turn P) = taken k s := by
      rw [hturn]
      exact (onTick_takes P (s := s.opened .tick) hone).2 k
    have hafter : taken k (s.turn P) = (answeredTickets (s.turn P).trace).count k := by
      rw [taken, hnobody]
      rfl
    rw [← hafter, htaken]
    rfl
  · intro hdelete
    have hdeleting : Deleting (s.turn P) := by
      rw [hturn]
      exact (onTick_deleting (P := P) (s := s.opened .tick) (.inl hdelete)).congr rfl rfl
    rcases hdeleting with hparked | hcancelled
    · rw [hnobody] at hparked
      cases hparked
    · exact hcancelled

/-- Letting go of the process leaves nobody parked. -/
theorem everybodySettled_of_held (hs : Watchful s) (hone : OneStop s.waiters)
    (due : s.due? = some .tick) (gone : (s.observe P).1 = .terminated)
    (held : (s.observe P).2.pid P ≠ none) : EverybodySettled s (s.turn P) := by
  refine everybodySettled_of_nobody hone due ?_
  rw [turn_of_gone hs due gone]
  refine onTerminated_of_held (s := (s.opened .tick).noted P) ?_
  rwa [opened_observe.2]

/-- **A tick that finds the process gone** settles everybody who is parked; but when nothing is held
it leaves everybody parked, and answers nobody. -/
theorem terminated_tick_settles (P : Platform σ) (spec : Spec) (system : σ) (sink : Option Sink)
    (inputs : List (Input σ)) (hdue : (reached P spec system sink inputs).due? = some .tick)
    (hgone : ((reached P spec system sink inputs).observe P).1 = .terminated) :
    (¬ Forsakes P (reached P spec system sink inputs) →
      EverybodySettled (reached P spec system sink inputs)
        ((reached P spec system sink inputs).turn P)) ∧
    (Forsakes P (reached P spec system sink inputs) →
      NobodySettled (reached P spec system sink inputs)
        ((reached P spec system sink inputs).turn P)) := by
  have hs := Watchful.of_reached P spec system sink inputs
  have hone := (requests_reached P spec system sink inputs).1
  generalize reached P spec system sink inputs = s at *
  refine ⟨?_, fun h => nobodySettled_of_free hs hdue hgone h.free⟩
  intro hkept
  by_cases hfree : (s.observe P).2.pid P = none
  · -- Nothing is held, so that nobody was parked.
    have hidle : s.waiters = [] := by
      by_contra hparked
      exact hkept ⟨hparked, hfree⟩
    have hparked := (nobodySettled_of_free hs hdue hgone hfree).parked
    exact everybodySettled_of_nobody hone hdue (hparked.trans hidle)
  · exact everybodySettled_of_held hs hone hdue hgone hfree

/-- A process that ignores `Signal.term` is awaited and deleted, and killed just before a tick. -/
def killedBeforeTick : List (Input ScriptedProcess) :=
  [.elapse 990, .send 0 .wait, .send 1 .delete, .turn, .turn, .send 2 .kill, .turn, .elapse 10]

/-- **The tick that finds the killed process gone settles neither the wait nor the delete.** -/
theorem killed_stay_parked :
    (reached ScriptedProcess.platform (ScriptedProcess.spec .never)
      { script := { ignored := [.term] } } none killedBeforeTick).waiters =
        [.wait 0, .delete (some 1)] ∧
    NobodySettled
      (reached ScriptedProcess.platform (ScriptedProcess.spec .never)
        { script := { ignored := [.term] } } none killedBeforeTick)
      ((reached ScriptedProcess.platform (ScriptedProcess.spec .never)
        { script := { ignored := [.term] } } none killedBeforeTick).turn
          ScriptedProcess.platform) := by
  have hforsakes : Forsakes ScriptedProcess.platform
      (reached ScriptedProcess.platform (ScriptedProcess.spec .never)
        { script := { ignored := [.term] } } none killedBeforeTick) :=
    ⟨by decide, by decide⟩
  exact ⟨by decide, (terminated_tick_settles _ _ _ _ _ (by decide) (by decide)).2 hforsakes⟩

end Supervisor

end Overseer
