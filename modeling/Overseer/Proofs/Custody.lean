import Overseer.Platform

/-!
# Surroundings that keep custody

What the supervisor relies on when it takes a process for gone.  A process is named by its number in
the order of creation, from 0 on; the process that is held is the one created last.

* `Ledger` -- which processes of the surroundings were created, and which have exited;
* `Ledger.Keeps` -- what every change of the surroundings leaves alone but the creation of a process
  and its release;
* `Custody` -- the laws of the calls.
-/

namespace Overseer

/-- What is true of the processes of the surroundings. -/
structure Ledger (σ : Type) where
  /-- The surroundings are in order. -/
  sound : σ → Prop
  /-- How many processes were created. -/
  created : σ → Nat
  /-- The process has exited. -/
  exited : σ → Nat → Prop

namespace Ledger

variable {σ : Type} (L : Ledger σ)

/-- The process created last has exited. -/
def Gone (x : σ) : Prop := ∀ n, L.created x = n + 1 → L.exited x n

/-- Between two states no process was created or let go of, and what had exited still has. -/
structure Keeps (P : Platform σ) (x y : σ) : Prop where
  sound : L.sound y
  created : L.created y = L.created x
  exited : ∀ n, L.exited x n → L.exited y n
  pid : P.pid y = P.pid x

variable {L} {P : Platform σ} {x y z : σ}

theorem Keeps.refl (h : L.sound x) : L.Keeps P x x := ⟨h, rfl, fun _ => id, rfl⟩

theorem Keeps.trans (hxy : L.Keeps P x y) (hyz : L.Keeps P y z) : L.Keeps P x z where
  sound := hyz.sound
  created := hyz.created.trans hxy.created
  exited := fun n h => hyz.exited n (hxy.exited n h)
  pid := hyz.pid.trans hxy.pid

end Ledger

/-- The laws of the calls.  A start that fails creates nothing; a release succeeds; an exit status,
a probe that finds no such process and a reading of `terminated` are had only of a process that
has exited. -/
structure Custody {σ : Type} (P : Platform σ) (L : Ledger σ) : Prop where
  start_error : ∀ {x spec directory e}, L.sound x → P.pid x = none →
    (P.start spec directory x).1 = .error e → L.Keeps P x (P.start spec directory x).2
  start_ok : ∀ {x spec directory pid}, L.sound x → P.pid x = none →
    (P.start spec directory x).1 = .ok pid →
      L.sound (P.start spec directory x).2 ∧
      L.created (P.start spec directory x).2 = L.created x + 1 ∧
      (∀ n, L.exited x n → L.exited (P.start spec directory x).2 n) ∧
      P.pid (P.start spec directory x).2 ≠ none
  signal : ∀ {x} signal, L.sound x → L.Keeps P x (P.signal signal x).2
  probe : ∀ {x}, L.sound x → P.pid x ≠ none →
    (P.signal none x).1 = .error .esrch → L.Gone (P.signal none x).2
  tryWait : ∀ {x}, L.sound x → L.Keeps P x (P.tryWait x).2
  collected : ∀ {x status}, L.sound x → P.pid x ≠ none →
    (P.tryWait x).1 = .ok (some status) → L.Gone (P.tryWait x).2
  release : ∀ {x}, L.sound x →
    (P.release x).1 = .ok () ∧ L.sound (P.release x).2 ∧
      L.created (P.release x).2 = L.created x ∧
      (∀ n, L.exited x n → L.exited (P.release x).2 n) ∧ P.pid (P.release x).2 = none
  readStatus : ∀ {x} pid, L.sound x → L.Keeps P x (P.readStatus pid x).2
  terminated : ∀ {x pid}, L.sound x → P.pid x = some pid →
    (P.readStatus pid x).1 = .ok .terminated → L.Gone (P.readStatus pid x).2

end Overseer
