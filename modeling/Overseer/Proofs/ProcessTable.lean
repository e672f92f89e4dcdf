import Mathlib.Data.List.Basic
import Overseer.ProcessControl
import Overseer.Proofs.Custody

/-!
# A process control over a table of processes

The plainest kernel there is: a list with the fate of every process that was created.  The process
control over it keeps custody, so that the laws of `Custody` are those of the process control that
is run.

* `ProcessTable.kernel` -- the kernel; process `n` has the identifier `n + 1`, and no identifier is
  given twice;
* `ProcessTable.ledger` -- what the table tells of its processes;
* `ProcessTable.custody` -- the process control keeps custody;
* `ProcessTable.exits_keeps` -- a process may exit on its own.
-/

namespace Overseer

/-- The fate of every process that was created, in the order of creation. -/
abbrev ProcessTable := List (Option ExitStatus)

namespace ProcessTable

/-- The process with an identifier ends, unless it has ended before. -/
def exits (table : ProcessTable) (pid : Pid) (status : ExitStatus) : ProcessTable :=
  table.modify (pid - 1) fun fate => some (fate.getD status)

/-- The kernel: `Signal.kill` and `Signal.term` end a process, and no other signal does. -/
def kernel : Kernel ProcessTable Unit where
  workingDirectory _ := .ok "/"
  openFile _ table := (.ok (), table)
  spawn _ table := (.ok (table.length + 1), table ++ [none])
  waitpid pid table := (.ok (table[pid - 1]?).join, table)
  kill pid signal table :=
    if pid.toNat = 0 ∨ table.length < pid.toNat then (.error .esrch, table)
    else if signal = some .kill then (.ok (), exits table pid.toNat (.signalled 9))
    else if signal = some .term then (.ok (), exits table pid.toNat (.signalled 15))
    else (.ok (), table)
  readStatus pid table :=
    match table[pid - 1]? with
    | some none => (.ok .running, table)
    | some (some _) => (.ok .zombie, table)
    | none => (.error (.statusRead "gone"), table)

/-- The process with a number has exited. -/
def Exited (table : ProcessTable) (n : Nat) : Prop := ∃ status, table[n]? = some (some status)

@[simp] theorem length_exits (table : ProcessTable) (pid : Pid) (status : ExitStatus) :
    (exits table pid status).length = table.length :=
  List.length_modify ..

/-- What has exited stays so. -/
theorem Exited.exits {table : ProcessTable} {n : Nat} (h : Exited table n) (pid : Pid)
    (status : ExitStatus) : Exited (exits table pid status) n := by
  obtain ⟨found, hfound⟩ := h
  unfold Exited ProcessTable.exits
  rw [List.getElem?_modify, hfound]
  by_cases hsame : pid - 1 = n
  · exact ⟨found, by simp [hsame]⟩
  · exact ⟨found, by simp [hsame]⟩

theorem Exited.append {table : ProcessTable} {n : Nat} (h : Exited table n) (more : ProcessTable) :
    Exited (table ++ more) n := by
  obtain ⟨found, hfound⟩ := h
  have hn : n < table.length := (List.getElem?_eq_some_iff.mp hfound).1
  exact ⟨found, by rw [List.getElem?_append_left hn, hfound]⟩

/-- The process control is in order: what it holds is the process created last, and an exit status
that it has collected is that of this process. -/
structure InOrder (c : ProcessControl ProcessTable) : Prop where
  child : c.child = c.pid
  last : ∀ pid, c.pid = some pid → pid = c.kernel.length ∧ 0 < pid
  exit : ∀ status, c.exit = some status → ∀ n, c.kernel.length = n + 1 → Exited c.kernel n

/-- What the table tells of its processes. -/
def ledger : Ledger (ProcessControl ProcessTable) where
  sound := InOrder
  created c := c.kernel.length
  exited c n := Exited c.kernel n

/-- The process control over the table. -/
abbrev platform : Platform (ProcessControl ProcessTable) := ProcessControl.platform kernel

theorem openTarget_eq (table : ProcessTable) (target : OutputTarget) :
    ∃ stream, ProcessControl.openTarget kernel table target = (.ok stream, table) := by
  cases target <;> exact ⟨_, rfl⟩

/-- Nothing keeps a process from being created. -/
theorem create_eq (table : ProcessTable) (spec : Spec) (directory : String) :
    ProcessControl.create kernel table spec directory =
      (.ok (table.length + 1), table ++ [none]) := by
  obtain ⟨stdout, hout⟩ := openTarget_eq table spec.stdout
  obtain ⟨stderr, herr⟩ := openTarget_eq table spec.stderr
  simp only [ProcessControl.create, hout, herr]
  rfl

theorem start_eq (c : ProcessControl ProcessTable) (spec : Spec) (directory : String) :
    c.start kernel spec directory = (.ok (c.kernel.length + 1),
      ⟨c.kernel ++ [none], some (c.kernel.length + 1), some (c.kernel.length + 1), none⟩) := by
  simp only [ProcessControl.start, create_eq]

variable {c : ProcessControl ProcessTable}

/-- The table of a process control in order may change as a table does. -/
theorem keeps_of_kernel (hc : InOrder c) {table : ProcessTable}
    (hlength : table.length = c.kernel.length) (hexited : ∀ n, Exited c.kernel n → Exited table n) :
    ledger.Keeps platform c { c with kernel := table } where
  sound := by
    refine ⟨hc.child, ?_, ?_⟩
    · intro pid hpid
      rw [hlength]
      exact hc.last pid hpid
    · intro status hstatus n hn
      exact hexited n (hc.exit status hstatus n (hlength ▸ hn))
  created := hlength
  exited := hexited
  pid := rfl

/-- A process may exit on its own. -/
theorem exits_keeps (hc : InOrder c) (pid : Pid) (status : ExitStatus) :
    ledger.Keeps platform c { c with kernel := exits c.kernel pid status } :=
  keeps_of_kernel hc (length_exits ..) fun _ h => h.exits pid status

theorem kill_keeps (hc : InOrder c) (pid : Int) (signal : Option Signal) :
    ledger.Keeps platform c { c with kernel := (kernel.kill pid signal c.kernel).2 } := by
  have hkill : (kernel.kill pid signal c.kernel).2 = c.kernel ∨
      ∃ status, (kernel.kill pid signal c.kernel).2 = exits c.kernel pid.toNat status := by
    unfold kernel
    dsimp only
    split
    · exact .inl rfl
    · split
      · exact .inr ⟨_, rfl⟩
      · split
        · exact .inr ⟨_, rfl⟩
        · exact .inl rfl
  rcases hkill with h | ⟨status, h⟩ <;> rw [h]
  · exact .refl hc
  · exact exits_keeps hc _ status

theorem signal_keeps (hc : InOrder c) (signal : Option Signal) :
    ledger.Keeps platform c (c.signal kernel signal).2 := by
  unfold ProcessControl.signal
  split
  · exact .refl hc
  · exact .refl hc
  · split
    · exact .refl hc
    · exact kill_keeps hc _ signal

/-- The null signal finds every process of the table, whatever has become of it. -/
theorem kill_none {table : ProcessTable} {pid : Nat} (hpos : 0 < pid)
    (hlength : pid ≤ table.length) : kernel.kill pid none table = (.ok (), table) := by
  have hthere : ¬ (pid = 0 ∨ table.length < pid) := by omega
  simp only [kernel, Int.toNat_natCast, if_neg hthere]
  rfl

/-- The null signal fails on the process that is held only when its exit status was collected. -/
theorem probe_gone (hc : InOrder c) (hheld : c.pid ≠ none)
    (h : (c.signal kernel none).1 = .error .esrch) : ledger.Gone (c.signal kernel none).2 := by
  obtain ⟨pid, hpid⟩ := Option.ne_none_iff_exists'.mp hheld
  obtain ⟨hlast, hpos⟩ := hc.last pid hpid
  cases hexit : c.exit with
  | some status =>
    have hsame : c.signal kernel none = (.error .esrch, c) := by
      simp only [ProcessControl.signal, hpid, hexit]
    rw [hsame]
    exact hc.exit status hexit
  | none =>
    exfalso
    by_cases hlarge : ProcessControl.maxPid < pid
    · have hrefused : c.signal kernel none = (.error .einval, c) := by
        simp only [ProcessControl.signal, hpid, hexit, if_pos hlarge]
      rw [hrefused] at h
      cases h
    · have hfound : (c.signal kernel none).1 = .ok () := by
        simp only [ProcessControl.signal, hpid, hexit, if_neg hlarge,
          kill_none hpos (Nat.le_of_eq hlast)]
      rw [hfound] at h
      cases h

/-- An exit status that is collected is remembered, and is that of the process created last. -/
theorem tryWait_cases (hc : InOrder c) :
    ((c.tryWait kernel).2 = c ∧ ∀ status, (c.tryWait kernel).1 = .ok (some status) →
      c.exit = some status) ∨
    ∃ status, (c.tryWait kernel).2 = { c with exit := some status } ∧
      ∀ n, c.kernel.length = n + 1 → Exited c.kernel n := by
  obtain ⟨table, child, held, exit⟩ := c
  cases exit with
  | some found =>
    refine .inl ⟨rfl, ?_⟩
    intro status hstatus
    cases hstatus
    rfl
  | none =>
    cases child with
    | none =>
      refine .inl ⟨rfl, ?_⟩
      intro status hstatus
      cases hstatus
    | some pid =>
      obtain ⟨hlast, -⟩ := hc.last pid hc.child.symm
      cases hfate : (table[pid - 1]?).join with
      | none =>
        simp only [ProcessControl.tryWait, kernel, hfate]
        refine .inl ⟨trivial, ?_⟩
        intro status hstatus
        cases hstatus
      | some status =>
        simp only [ProcessControl.tryWait, kernel, hfate]
        refine .inr ⟨status, rfl, ?_⟩
        intro n hn
        have hnumber : pid - 1 = n := by
          rw [hlast, hn]
          rfl
        rw [hnumber] at hfate
        exact ⟨status, Option.join_eq_some_iff.mp hfate⟩

theorem tryWait_keeps (hc : InOrder c) : ledger.Keeps platform c (c.tryWait kernel).2 := by
  rcases tryWait_cases hc with ⟨h, -⟩ | ⟨status, h, hexited⟩ <;> rw [h]
  · exact .refl hc
  · refine ⟨⟨hc.child, hc.last, ?_⟩, rfl, fun _ => id, rfl⟩
    intro _ _
    exact hexited

theorem tryWait_gone (hc : InOrder c) {status : ExitStatus}
    (h : (c.tryWait kernel).1 = .ok (some status)) : ledger.Gone (c.tryWait kernel).2 := by
  rcases tryWait_cases hc with ⟨hsame, hexit⟩ | ⟨found, hsame, hexited⟩ <;> rw [hsame]
  · exact hc.exit status (hexit status h)
  · exact hexited

/-- A reading changes nothing, and a process of the table is never found terminated. -/
theorem readStatus_eq (table : ProcessTable) (pid : Pid) :
    (kernel.readStatus pid table).2 = table ∧
      (kernel.readStatus pid table).1 ≠ .ok .terminated := by
  unfold kernel
  dsimp only
  split <;> exact ⟨rfl, by simp⟩

/-- **The process control keeps custody.** -/
theorem custody : Custody platform ledger where
  start_error {c spec directory e} _ _ h := by
    have hstarted : (c.start kernel spec directory).1 = .error e := h
    rw [start_eq] at hstarted
    cases hstarted
  start_ok {c spec directory pid} hc _ _ := by
    change InOrder (c.start kernel spec directory).2 ∧
      (c.start kernel spec directory).2.kernel.length = c.kernel.length + 1 ∧
      (∀ n, Exited c.kernel n → Exited (c.start kernel spec directory).2.kernel n) ∧
      (c.start kernel spec directory).2.pid ≠ none
    rw [start_eq]
    refine ⟨⟨rfl, ?_, ?_⟩, List.length_append, fun _ h => h.append _, by simp⟩
    · intro pid hpid
      cases hpid
      have hlength : (c.kernel ++ [none]).length = c.kernel.length + 1 := List.length_append
      exact ⟨hlength.symm, Nat.succ_pos _⟩
    · intro status hstatus
      cases hstatus
  signal signal hc := signal_keeps hc signal
  probe hc hheld h := probe_gone hc hheld h
  tryWait hc := tryWait_keeps hc
  collected hc _ h := tryWait_gone hc h
  release {c} _ := by
    refine ⟨rfl, ⟨rfl, ?_, ?_⟩, rfl, fun _ => id, rfl⟩
    · intro pid hpid
      cases hpid
    · intro status hstatus
      cases hstatus
  readStatus {c} pid hc := by
    have hsame : (platform.readStatus pid c).2 = c := by
      change { c with kernel := (kernel.readStatus pid c.kernel).2 } = c
      rw [(readStatus_eq c.kernel pid).1]
    rw [hsame]
    exact .refl hc
  terminated {c pid} _ _ h := absurd h (readStatus_eq c.kernel pid).2

end ProcessTable

end Overseer
