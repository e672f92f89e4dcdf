import Overseer.ProcessControl

/-!
# A process control between its calls

A process control keeps three things about its child, and every call may fail at several points.
This file says what is held between any two calls, whatever the kernel answered, and what the calls
that fail leave alone.

* `Call`, `call`, `after` -- everything that may happen to a process control, in any order;
* `Creates` -- the three ways in which a creation goes; `Unstartable` -- why none is made, and
  `start_error_iff` -- a start fails for no other reason;
* `Signals`, `Waits` -- the ways in which a signal and a wait go;
* `start_error`, `tryWait_keeps` -- a start that fails and a wait that tells no exit status leave
  what is held;
* `Sound` -- the child is the process that is signalled, and an exit status is kept only of it;
  `Sound.call` -- every call leaves it so;
* `exit_call` -- an exit status stays until the next child or the release;
* `child_held` -- all of this after any calls.
-/

namespace Overseer

namespace ProcessControl

variable {κ φ : Type} {K : Kernel κ φ} {c d : ProcessControl κ} {kernel : κ} {spec : Spec}
  {directory : String} {status : ExitStatus}

/-- Everything that may happen to a process control. -/
inductive Call (κ : Type) where
  | start (spec : Spec) (directory : String)
  /-- Without a signal only the null signal is sent. -/
  | signal (signal : Option Signal)
  | tryWait
  | release
  /-- The kernel changes on its own. -/
  | world (change : κ → κ)

variable (K) in
/-- One call. -/
def call (c : ProcessControl κ) : Call κ → ProcessControl κ
  | .start spec directory => (c.start K spec directory).2
  | .signal signal => (c.signal K signal).2
  | .tryWait => (c.tryWait K).2
  | .release => c.release.2
  | .world change => { c with kernel := change c.kernel }

variable (K) in
/-- Any number of calls. -/
def after (c : ProcessControl κ) (calls : List (Call κ)) : ProcessControl κ :=
  calls.foldl (call K) c

/-- From `c` to `d` nothing changed but the kernel. -/
def Keeps (c d : ProcessControl κ) : Prop := d = { c with kernel := d.kernel }

/-! ## Creation -/

section

variable (K kernel spec directory)

/-- The three ways in which a creation goes. -/
inductive Creates (created : Except IoError Pid × κ) : Prop where
  /-- The file for the standard output cannot be opened. -/
  | noOutput {kernel₁ : κ} {e : IoError}
      (closed : openTarget K kernel spec.stdout = (.error e, kernel₁))
      (result : created = (.error e, kernel₁))
  /-- The file for the standard error cannot be opened. -/
  | noErrors {kernel₁ kernel₂ : κ} {stdout : Stream φ} {e : IoError}
      (opened : openTarget K kernel spec.stdout = (.ok stdout, kernel₁))
      (closed : openTarget K kernel₁ spec.stderr = (.error e, kernel₂))
      (result : created = (.error e, kernel₂))
  /-- The kernel is asked for the process. -/
  | asked {kernel₁ kernel₂ : κ} {stdout stderr : Stream φ}
      (opened : openTarget K kernel spec.stdout = (.ok stdout, kernel₁))
      (opened' : openTarget K kernel₁ spec.stderr = (.ok stderr, kernel₂))
      (result : created = K.spawn
        ⟨spec.command, spec.args, directory, spec.env, stdout, stderr, spec.detach⟩ kernel₂)

theorem create_creates : Creates K kernel spec directory (create K kernel spec directory) := by
  rcases hstdout : openTarget K kernel spec.stdout with ⟨e | stdout, kernel₁⟩
  · exact .noOutput hstdout (by simp only [create, hstdout])
  · rcases hstderr : openTarget K kernel₁ spec.stderr with ⟨e | stderr, kernel₂⟩
    · exact .noErrors hstdout hstderr (by simp only [create, hstdout, hstderr])
    · exact .asked hstdout hstderr (by simp only [create, hstdout, hstderr])

/-- Why no process is created: an output file cannot be opened, or the kernel refuses. -/
inductive Unstartable (e : IoError) : Prop where
  | noOutput {kernel₁ : κ} (closed : openTarget K kernel spec.stdout = (.error e, kernel₁))
  | noErrors {kernel₁ kernel₂ : κ} {stdout : Stream φ}
      (opened : openTarget K kernel spec.stdout = (.ok stdout, kernel₁))
      (closed : openTarget K kernel₁ spec.stderr = (.error e, kernel₂))
  | refused {kernel₁ kernel₂ : κ} {stdout stderr : Stream φ}
      (opened : openTarget K kernel spec.stdout = (.ok stdout, kernel₁))
      (opened' : openTarget K kernel₁ spec.stderr = (.ok stderr, kernel₂))
      (refused : (K.spawn
        ⟨spec.command, spec.args, directory, spec.env, stdout, stderr, spec.detach⟩
        kernel₂).1 = .error e)

/-- **Nothing else keeps a process from being created.** -/
theorem create_error_iff (e : IoError) :
    (create K kernel spec directory).1 = .error e ↔ Unstartable K kernel spec directory e := by
  constructor
  · intro h
    cases create_creates K kernel spec directory with
    | noOutput closed result =>
      rw [result] at h
      cases h
      exact .noOutput closed
    | noErrors opened closed result =>
      rw [result] at h
      cases h
      exact .noErrors opened closed
    | asked opened opened' result =>
      rw [result] at h
      exact .refused opened opened' h
  · rintro (closed | ⟨opened, closed⟩ | ⟨opened, opened', refused⟩)
    · simp only [create, closed]
    · simp only [create, opened, closed]
    · simpa only [create, opened, opened'] using refused

end

/-- A start holds what it creates, or nothing is created. -/
theorem start_cases (c : ProcessControl κ) (spec : Spec) (directory : String) :
    (∃ pid kernel, create K c.kernel spec directory = (.ok pid, kernel) ∧
      c.start K spec directory = (.ok pid, ⟨kernel, some pid, some pid, none⟩)) ∨
    ∃ e kernel, create K c.kernel spec directory = (.error e, kernel) ∧
      c.start K spec directory = (.error e, { c with kernel }) := by
  rcases hcreate : create K c.kernel spec directory with ⟨e | pid, kernel⟩
  · exact .inr ⟨e, kernel, rfl, by simp only [start, hcreate]⟩
  · exact .inl ⟨pid, kernel, rfl, by simp only [start, hcreate]⟩

/-- A start fails when no process is created. -/
theorem start_error_iff (c : ProcessControl κ) (spec : Spec) (directory : String) (e : IoError) :
    (c.start K spec directory).1 = .error e ↔ Unstartable K c.kernel spec directory e := by
  rw [← create_error_iff]
  rcases start_cases (K := K) c spec directory with ⟨pid, kernel, hcreate, hstart⟩ |
    ⟨e', kernel, hcreate, hstart⟩ <;> rw [hcreate, hstart]

/-- **A start that fails leaves what is held.** -/
theorem start_error {e : IoError} (h : (c.start K spec directory).1 = .error e) :
    Keeps c (c.start K spec directory).2 := by
  rcases start_cases (K := K) c spec directory with ⟨pid, kernel, -, hstart⟩ |
    ⟨e', kernel, -, hstart⟩ <;> rw [hstart] at h ⊢
  · cases h
  · rfl

/-- A start that works holds the new process, and no exit status. -/
theorem start_ok {pid : Pid} (h : (c.start K spec directory).1 = .ok pid) :
    (c.start K spec directory).2.child = some pid ∧ (c.start K spec directory).2.pid = some pid ∧
      (c.start K spec directory).2.exit = none := by
  rcases start_cases (K := K) c spec directory with ⟨pid', kernel, -, hstart⟩ |
    ⟨e, kernel, -, hstart⟩ <;> rw [hstart] at h ⊢
  · obtain rfl := Except.ok.inj h
    exact ⟨rfl, rfl, rfl⟩
  · cases h

/-! ## Signals and waits -/

/-- A process that was let go of, or whose exit status was collected, is not signalled. -/
theorem signal_of_gone (h : c.pid = none ∨ c.exit ≠ none) (signal : Option Signal) :
    c.signal K signal = (.error .esrch, c) := by
  unfold ProcessControl.signal
  split
  · rfl
  · rfl
  · rename_i hpid hexit
    simp [hpid, hexit] at h

/-- Any other is, unless its number is too great for the call. -/
theorem signal_of_held {pid : Pid} (held : c.pid = some pid) (uncollected : c.exit = none)
    (signal : Option Signal) :
    c.signal K signal = if maxPid < pid then (.error .einval, c) else
      ((K.kill pid signal c.kernel).1, { c with kernel := (K.kill pid signal c.kernel).2 }) := by
  simp only [ProcessControl.signal, held, uncollected]

section

variable (K c)

/-- The three ways in which a signal goes. -/
inductive Signals (signal : Option Signal) : Prop where
  /-- There is no process to be signalled any more. -/
  | gone (why : c.pid = none ∨ c.exit ≠ none) (result : c.signal K signal = (.error .esrch, c))
  /-- The number of the process is too great for the call. -/
  | refused {pid : Pid} (held : c.pid = some pid) (uncollected : c.exit = none)
      (large : maxPid < pid) (result : c.signal K signal = (.error .einval, c))
  /-- The kernel is asked to send it. -/
  | sent {pid : Pid} (held : c.pid = some pid) (uncollected : c.exit = none)
      (small : pid ≤ maxPid) (result : c.signal K signal =
        ((K.kill pid signal c.kernel).1, { c with kernel := (K.kill pid signal c.kernel).2 }))

theorem signal_signals (signal : Option Signal) : Signals K c signal := by
  by_cases hgone : c.pid = none ∨ c.exit ≠ none
  · exact .gone hgone (signal_of_gone hgone signal)
  · obtain ⟨hpid, hexit⟩ := not_or.mp hgone
    obtain ⟨pid, held⟩ := Option.ne_none_iff_exists'.mp hpid
    have uncollected : c.exit = none := Classical.not_not.mp hexit
    have hresult := signal_of_held (K := K) held uncollected signal
    by_cases hlarge : maxPid < pid
    · exact .refused held uncollected hlarge (hresult.trans (if_pos hlarge))
    · exact .sent held uncollected (Nat.le_of_not_lt hlarge) (hresult.trans (if_neg hlarge))

/-- A signal changes nothing that is held. -/
theorem signal_keeps (signal : Option Signal) : Keeps c (c.signal K signal).2 := by
  cases signal_signals K c signal with
  | gone _ result | refused _ _ _ result | sent _ _ _ result => rw [result]; rfl

/-- The three ways in which a wait goes. -/
inductive Waits : Prop where
  /-- The exit status was collected before. -/
  | known {status : ExitStatus} (collected : c.exit = some status)
      (result : c.tryWait K = (.ok (some status), c))
  | childless (free : c.child = none)
      (result : c.tryWait K = (.error (.notFound "no child process held"), c))
  /-- The kernel is asked, and the exit status kept if it tells one. -/
  | asked {child : Pid} (held : c.child = some child) (uncollected : c.exit = none)
      (result : c.tryWait K = ((K.waitpid child c.kernel).1,
        { c with
          kernel := (K.waitpid child c.kernel).2
          exit := (K.waitpid child c.kernel).1.toOption.join }))

theorem tryWait_waits : Waits K c := by
  obtain ⟨kernel, child, pid, exit⟩ := c
  cases exit with
  | some status => exact .known rfl rfl
  | none =>
    cases child with
    | none => exact .childless rfl rfl
    | some child =>
      refine .asked rfl rfl ?_
      rcases hwait : K.waitpid child kernel with ⟨e | _ | status, kernel'⟩ <;>
        simp only [tryWait, hwait] <;> rfl

/-- **A wait that tells no exit status leaves what is held.** -/
theorem tryWait_keeps (untold : ∀ status, (c.tryWait K).1 ≠ .ok (some status)) :
    Keeps c (c.tryWait K).2 := by
  cases tryWait_waits K c with
  | known _ result => rw [result]; rfl
  | childless _ result => rw [result]; rfl
  | @asked child held uncollected result =>
    -- What is kept of an answer that tells no exit status is what was held: nothing.
    have hnone : (K.waitpid child c.kernel).1.toOption.join = none := by
      rw [result] at untold
      rcases hwait : (K.waitpid child c.kernel).1 with e | _ | status
      · rfl
      · rfl
      · exact absurd hwait (untold status)
    rw [result, hnone, ← uncollected]
    rfl

variable {K c}

/-- The exit status that a wait tells is kept. -/
theorem exit_tryWait (told : (c.tryWait K).1 = .ok (some status)) :
    (c.tryWait K).2.exit = some status := by
  cases tryWait_waits K c with
  | known collected result =>
    rw [result] at told ⊢
    obtain rfl := Option.some.inj (Except.ok.inj told)
    exact collected
  | childless _ result =>
    rw [result] at told
    cases told
  | asked _ _ result =>
    rw [result] at told ⊢
    dsimp only at told ⊢
    rw [told]
    rfl

/-- Once the exit status was collected it is told again. -/
theorem tryWait_of_collected (h : c.exit = some status) :
    c.tryWait K = (.ok (some status), c) := by
  unfold tryWait
  rw [h]

end

/-! ## Between the calls -/

/-- The child is the process that is signalled, and an exit status is kept only of it. -/
structure Sound (c : ProcessControl κ) : Prop where
  child : c.child = c.pid
  exit : c.exit ≠ none → c.pid ≠ none

theorem Sound.new (kernel : κ) : Sound (new kernel) := ⟨rfl, fun h => absurd rfl h⟩

theorem Sound.of_keeps (hc : Sound c) (h : Keeps c d) : Sound d := by
  rw [h]
  exact ⟨hc.child, hc.exit⟩

/-- **Every call leaves it so.** -/
theorem Sound.call (hc : Sound c) (call : Call κ) : Sound (c.call K call) := by
  cases call with
  | start spec directory =>
    rcases start_cases (K := K) c spec directory with ⟨pid, kernel, -, hstart⟩ |
      ⟨e, kernel, -, hstart⟩ <;> rw [ProcessControl.call, hstart]
    · exact ⟨rfl, by simp⟩
    · exact hc.of_keeps rfl
  | signal signal => exact hc.of_keeps (signal_keeps K c signal)
  | tryWait =>
    rw [ProcessControl.call]
    cases tryWait_waits K c with
    | known _ result | childless _ result => rw [result]; exact hc
    | asked held _ result =>
      rw [result]
      exact ⟨hc.child, fun _ => by simp [← hc.child, held]⟩
  | release => exact ⟨rfl, fun h => absurd rfl h⟩
  | world change => exact hc.of_keeps rfl

theorem Sound.after (hc : Sound c) (calls : List (Call κ)) : Sound (c.after K calls) := by
  induction calls generalizing c with
  | nil => exact hc
  | cons call rest ih => exact ih (hc.call call)

variable (K) in
/-- The call brings another child, or lets go of the one that is held. -/
def Renews (c : ProcessControl κ) : Call κ → Prop
  | .start spec directory => ∃ pid, (c.start K spec directory).1 = .ok pid
  | .release => True
  | _ => False

variable (K) in
/-- None of the calls does, when they are made from `c` on. -/
def Undisturbed (c : ProcessControl κ) : List (Call κ) → Prop
  | [] => True
  | call :: rest => ¬ Renews K c call ∧ Undisturbed (c.call K call) rest

/-- An exit status stays until the next child or the release. -/
theorem exit_call (h : c.exit = some status) {call : Call κ} (same : ¬ Renews K c call) :
    (c.call K call).exit = some status := by
  cases call with
  | start spec directory =>
    rcases start_cases (K := K) c spec directory with ⟨pid, kernel, -, hstart⟩ |
      ⟨e, kernel, -, hstart⟩
    · exact absurd ⟨pid, by rw [hstart]⟩ same
    · rw [ProcessControl.call, hstart]
      exact h
  | signal signal =>
    rw [ProcessControl.call, signal_of_gone (.inr (by simp [h]))]
    exact h
  | tryWait =>
    rw [ProcessControl.call, tryWait_of_collected h]
    exact h
  | release => exact absurd trivial same
  | world change => exact h

theorem exit_after (h : c.exit = some status) {calls : List (Call κ)}
    (same : Undisturbed K c calls) : (c.after K calls).exit = some status := by
  induction calls generalizing c with
  | nil => exact h
  | cons call rest ih => exact ih (exit_call h same.1) same.2

variable (K) in
/-- What holds of a process control between two calls, whatever its kernel answers. -/
structure Reliable (c : ProcessControl κ) : Prop where
  /-- A child is held if and only if a process identifier is, and it is that of the child. -/
  child : c.child = c.pid
  /-- An exit status is kept only together with them. -/
  exit : c.exit ≠ none → c.child ≠ none ∧ c.pid ≠ none
  /-- A start fails when an output file cannot be opened or the kernel refuses. -/
  failed : ∀ spec directory e, (c.start K spec directory).1 = .error e ↔
    Unstartable K c.kernel spec directory e
  /-- It then leaves what is held. -/
  unchanged : ∀ spec directory e, (c.start K spec directory).1 = .error e →
    Keeps c (c.start K spec directory).2
  /-- A start that works holds the new child, and no exit status. -/
  started : ∀ spec directory pid, (c.start K spec directory).1 = .ok pid →
    (c.start K spec directory).2.child = some pid ∧
      (c.start K spec directory).2.pid = some pid ∧ (c.start K spec directory).2.exit = none
  /-- A wait that fails or yields nothing changes nothing that is held. -/
  waited : (∀ status, (c.tryWait K).1 ≠ .ok (some status)) → Keeps c (c.tryWait K).2
  /-- Once a wait has told an exit status, every wait tells it and no signal is sent, until a start
  works or the child is released. -/
  collected : ∀ status, (c.tryWait K).1 = .ok (some status) →
    ∀ calls, Undisturbed K (c.tryWait K).2 calls →
      ((c.tryWait K).2.after K calls).tryWait K =
          (.ok (some status), (c.tryWait K).2.after K calls) ∧
        ∀ signal, ((c.tryWait K).2.after K calls).signal K signal =
          (.error .esrch, (c.tryWait K).2.after K calls)

/-- **What a process control holds through all failures.** -/
theorem child_held (K : Kernel κ φ) (kernel : κ) (calls : List (Call κ)) :
    Reliable K ((new kernel).after K calls) := by
  have hsound := (Sound.new kernel).after (K := K) calls
  generalize (new kernel).after K calls = c at *
  refine ⟨hsound.child, fun h => ?_, start_error_iff c, fun _ _ _ => start_error,
    fun _ _ _ => start_ok, tryWait_keeps K c, fun status told calls same => ?_⟩
  · have hpid := hsound.exit h
    exact ⟨hsound.child ▸ hpid, hpid⟩
  · have hkept := exit_after (exit_tryWait told) same
    exact ⟨tryWait_of_collected hkept, signal_of_gone (.inr (by simp [hkept]))⟩

end ProcessControl

end Overseer
