import Mathlib.Tactic.Common
import Overseer.ProcessControl
import Overseer.ScriptedProcess

/-!
# Surroundings that hold a process

What the supervisor relies on when it records a start time for the process that is held, and when it
tells which process that is.

* `Holding` -- the laws of the calls as to whether a process is held;
* `ProcessControl.platform_holding`, `ScriptedProcess.platform_holding` -- the process control keeps
  them over every kernel, and a scripted process does;
* `Naming` -- the laws as to which process it is; `ProcessControl.platform_naming`,
  `ScriptedProcess.platform_naming` -- both keep these as well.
-/

namespace Overseer

/-- The laws of the calls as to which process is held.  A start holds the process that it creates,
and a release lets go of it; when they fail, and in all other calls, it stays as it is. -/
structure Holding {σ : Type} (P : Platform σ) : Prop where
  start_ok : ∀ {x spec directory pid}, (P.start spec directory x).1 = .ok pid →
    P.pid (P.start spec directory x).2 ≠ none
  start_error : ∀ {x spec directory e}, (P.start spec directory x).1 = .error e →
    P.pid (P.start spec directory x).2 = P.pid x
  signal : ∀ signal x, P.pid (P.signal signal x).2 = P.pid x
  tryWait : ∀ x, P.pid (P.tryWait x).2 = P.pid x
  release_ok : ∀ {x}, (P.release x).1 = .ok () → P.pid (P.release x).2 = none
  release_error : ∀ {x e}, (P.release x).1 = .error e → P.pid (P.release x).2 = P.pid x
  readStatus : ∀ pid x, P.pid (P.readStatus pid x).2 = P.pid x

/-- The process control keeps them, over any kernel. -/
theorem ProcessControl.platform_holding {κ φ : Type} (K : Kernel κ φ) : Holding (platform K) where
  start_ok := by
    intro c spec directory pid h
    simp only [platform, start] at h ⊢
    split at h <;> simp_all
  start_error := by
    intro c spec directory e h
    simp only [platform, start] at h ⊢
    split at h <;> simp_all
  signal := by
    intro signal c
    simp only [platform, ProcessControl.signal]
    split
    · rfl
    · rfl
    · split <;> simp_all
  tryWait := by
    intro c
    simp only [platform, ProcessControl.tryWait]
    split
    · rfl
    · rfl
    · split <;> rfl
  release_ok := fun _ => rfl
  release_error := fun h => by cases h
  readStatus := fun _ _ => rfl

/-- A scripted process keeps them. -/
theorem ScriptedProcess.platform_holding : Holding platform where
  start_ok := by
    intro p spec directory pid h
    simp only [platform, start] at h ⊢
    split at h <;> simp_all
  start_error := by
    intro p spec directory e h
    simp only [platform, start] at h ⊢
    split at h <;> simp_all
  signal := by
    intro signal p
    cases signal with
    | none => rfl
    | some signal =>
      simp only [platform, receive]
      split
      · rfl
      · split <;> rfl
  tryWait := by
    intro p
    simp only [platform, ScriptedProcess.tryWait]
    split
    · rfl
    · rfl
    · split
      · rfl
      · split <;> rfl
  release_ok := by
    intro p h
    simp only [platform, release] at h ⊢
    split at h <;> simp_all
  release_error := by
    intro p e h
    simp only [platform, release] at h ⊢
    split at h <;> simp_all
  readStatus := fun _ _ => rfl

/-- A start holds the process that it names, and reading a run state leaves it. -/
structure Naming {σ : Type} (P : Platform σ) : Prop where
  start : ∀ {x spec directory pid}, (P.start spec directory x).1 = .ok pid →
    P.pid (P.start spec directory x).2 = some pid
  readStatus : ∀ pid x, P.pid (P.readStatus pid x).2 = P.pid x

/-- The process control names it so, over any kernel. -/
theorem ProcessControl.platform_naming {κ φ : Type} (K : Kernel κ φ) : Naming (platform K) where
  start := by
    intro c spec directory pid h
    simp only [platform, start] at h ⊢
    split at h <;> simp_all
  readStatus := fun _ _ => rfl

/-- A scripted process does. -/
theorem ScriptedProcess.platform_naming : Naming platform where
  start := by
    intro p spec directory pid h
    simp only [platform, start] at h ⊢
    split at h <;> simp_all
  readStatus := fun _ _ => rfl

end Overseer
