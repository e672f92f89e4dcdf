import Overseer.Proofs.ProcessControl.Calls
import Overseer.Proofs.ProcessTable
import Overseer.ScriptedProcess

/-!
# What a process control asks of its kernel

A process identifier belongs to somebody else once its process was released or its exit status
collected.  To see that no such process is signalled, the process control is run over a kernel that
keeps a record, and the record alone tells which process a signal may be sent to.

* `Deed`, `Kernel.recording` -- what is recorded; `recorded` -- a process control with its record;
  `unrecorded_recorded` -- the record makes no difference;
* `child?`, `collected?` -- what a record tells of the child and of its exit status;
* `Aimed` -- every signal of a record is sent to the child that the record tells of by then;
* `Traced` -- the process control agrees with its record; `Traced.call` -- every call leaves it so;
* `signals_own_child` -- whom a process control signals, and whom it refuses to signal.
-/

namespace Overseer

/-- What a process control does about processes. -/
inductive Deed where
  | spawned (result : Except IoError Pid)
  | awaited (child : Pid) (result : Except IoError (Option ExitStatus))
  | killed (number : Int) (signal : Option Signal) (result : Except Errno Unit)
  | released

/-- A kernel that keeps a record of what it is asked about processes, the newest first. -/
def Kernel.recording {κ φ : Type} (K : Kernel κ φ) : Kernel (κ × List Deed) φ where
  workingDirectory x := K.workingDirectory x.1
  openFile path x := ((K.openFile path x.1).1, (K.openFile path x.1).2, x.2)
  spawn order x :=
    ((K.spawn order x.1).1, (K.spawn order x.1).2, .spawned (K.spawn order x.1).1 :: x.2)
  waitpid child x :=
    ((K.waitpid child x.1).1, (K.waitpid child x.1).2,
      .awaited child (K.waitpid child x.1).1 :: x.2)
  kill number signal x :=
    ((K.kill number signal x.1).1, (K.kill number signal x.1).2,
      .killed number signal (K.kill number signal x.1).1 :: x.2)
  readStatus pid x := ((K.readStatus pid x.1).1, (K.readStatus pid x.1).2, x.2)

namespace ProcessControl

variable {κ φ : Type} {K : Kernel κ φ} {kernel : κ} {record earlier : List Deed}
  {c : ProcessControl (κ × List Deed)}

/-- The same call with a record being kept.  A release asks nothing of the kernel, and is noted
besides. -/
def Call.recorded : Call κ → List (Call (κ × List Deed))
  | .start spec directory => [.start spec directory]
  | .signal sent => [.signal sent]
  | .tryWait => [.tryWait]
  | .release => [.release, .world fun x => (x.1, .released :: x.2)]
  | .world change => [.world fun x => (change x.1, x.2)]

variable (K kernel) in
/-- The process control with the record of all it has done, after any calls. -/
def recorded (calls : List (Call κ)) : ProcessControl (κ × List Deed) :=
  (new (kernel, [])).after K.recording (calls.flatMap Call.recorded)

/-- What has been done. -/
def deeds (c : ProcessControl (κ × List Deed)) : List Deed := c.kernel.2

/-- The process control without its record. -/
def unrecorded (c : ProcessControl (κ × List Deed)) : ProcessControl κ :=
  ⟨c.kernel.1, c.child, c.pid, c.exit⟩

/-! ## The record makes no difference -/

theorem openTarget_recording (kernel : κ) (record : List Deed) (target : OutputTarget) :
    openTarget K.recording (kernel, record) target =
      ((openTarget K kernel target).1, (openTarget K kernel target).2, record) := by
  cases target <;> rfl

variable (K kernel record) in
/-- A creation is recorded, if it comes to that. -/
theorem create_recording (spec : Spec) (directory : String) :
    ∃ done, create K.recording (kernel, record) spec directory =
        ((create K kernel spec directory).1, (create K kernel spec directory).2, done ++ record) ∧
      (done = [.spawned (create K kernel spec directory).1] ∨
        done = [] ∧ ∃ e, (create K kernel spec directory).1 = .error e) := by
  have hopen := openTarget_recording (K := K)
  rcases hstdout : openTarget K kernel spec.stdout with ⟨e | stdout, kernel₁⟩
  · refine ⟨[], ?_, .inr ⟨rfl, e, ?_⟩⟩ <;> simp only [create, hopen, hstdout]
    rfl
  · rcases hstderr : openTarget K kernel₁ spec.stderr with ⟨e | stderr, kernel₂⟩
    · refine ⟨[], ?_, .inr ⟨rfl, e, ?_⟩⟩ <;> simp only [create, hopen, hstdout, hstderr]
      rfl
    · refine ⟨_, ?_, .inl rfl⟩
      simp only [create, hopen, hstdout, hstderr]
      rfl

/-- A start over the recording kernel is that over the kernel, and is recorded. -/
theorem start_recording (c : ProcessControl (κ × List Deed)) (spec : Spec) (directory : String) :
    (∃ pid kernel, c.unrecorded.start K spec directory =
        (.ok pid, ⟨kernel, some pid, some pid, none⟩) ∧
      c.start K.recording spec directory =
        (.ok pid, ⟨(kernel, .spawned (.ok pid) :: c.deeds), some pid, some pid, none⟩)) ∨
    ∃ e kernel done, c.unrecorded.start K spec directory =
        (.error e, { c.unrecorded with kernel }) ∧
      c.start K.recording spec directory =
        (.error e, { c with kernel := (kernel, done ++ c.deeds) }) ∧
      (done = [] ∨ done = [.spawned (.error e)]) := by
  obtain ⟨⟨kernel, record⟩, child, pid, exit⟩ := c
  obtain ⟨done, hrecording, hdone⟩ := create_recording K kernel record spec directory
  rcases hcreate : create K kernel spec directory with ⟨e | pid', kernel'⟩
  · rw [hcreate] at hrecording hdone
    refine .inr ⟨e, kernel', done, ?_, ?_, ?_⟩
    · simp only [start, unrecorded, hcreate]
    · simp only [start, deeds, hrecording]
    · exact hdone.symm.imp And.left id
  · rw [hcreate] at hrecording hdone
    -- The kernel was asked, for it created the process.
    obtain rfl : done = [.spawned (.ok pid')] := by
      rcases hdone with h | ⟨-, e, h⟩
      · exact h
      · cases h
    refine .inl ⟨pid', kernel', ?_, ?_⟩
    · simp only [start, unrecorded, hcreate]
    · simp only [start, deeds, hrecording, List.singleton_append]

theorem unrecorded_signal (c : ProcessControl (κ × List Deed)) (signal : Option Signal) :
    (c.signal K.recording signal).2.unrecorded = (c.unrecorded.signal K signal).2 := by
  obtain ⟨⟨kernel, record⟩, child, _ | pid, _ | status⟩ := c <;> try rfl
  by_cases hlarge : maxPid < pid
  · simp only [ProcessControl.signal, unrecorded, if_pos hlarge]
  · simp only [ProcessControl.signal, unrecorded, if_neg hlarge]
    rfl

theorem unrecorded_tryWait (c : ProcessControl (κ × List Deed)) :
    (c.tryWait K.recording).2.unrecorded = (c.unrecorded.tryWait K).2 := by
  obtain ⟨⟨kernel, record⟩, _ | child, pid, _ | status⟩ := c <;> try rfl
  rcases hwait : K.waitpid child kernel with ⟨e | _ | status, kernel'⟩ <;>
    simp only [tryWait, unrecorded, Kernel.recording, hwait]

/-- The record makes no difference to one call. -/
theorem unrecorded_call (c : ProcessControl (κ × List Deed)) (call : Call κ) :
    (c.after K.recording call.recorded).unrecorded = c.unrecorded.call K call := by
  cases call with
  | start spec directory =>
    have hone : c.after K.recording (Call.start spec directory).recorded =
        (c.start K.recording spec directory).2 := rfl
    rcases start_recording (K := K) c spec directory with ⟨pid, kernel, hstart, hrecording⟩ |
      ⟨e, kernel, done, hstart, hrecording, -⟩ <;>
      rw [hone, hrecording, ProcessControl.call, hstart] <;> rfl
  | signal sent => exact unrecorded_signal c sent
  | tryWait => exact unrecorded_tryWait c
  | release => rfl
  | world change => rfl

theorem after_recorded_cons (c : ProcessControl (κ × List Deed)) (call : Call κ)
    (rest : List (Call κ)) :
    c.after K.recording ((call :: rest).flatMap Call.recorded) =
      (c.after K.recording call.recorded).after K.recording (rest.flatMap Call.recorded) := by
  rw [List.flatMap_cons]
  exact List.foldl_append

/-- **The record makes no difference** to what is done. -/
theorem unrecorded_recorded (K : Kernel κ φ) (kernel : κ) (calls : List (Call κ)) :
    (recorded K kernel calls).unrecorded = (new kernel).after K calls := by
  -- The first call leaves a record behind, so that the induction is over any record to begin with.
  suffices h : ∀ c : ProcessControl (κ × List Deed),
      (c.after K.recording (calls.flatMap Call.recorded)).unrecorded =
        c.unrecorded.after K calls from h (new (kernel, []))
  induction calls with
  | nil => exact fun _ => rfl
  | cons call rest ih =>
    intro c
    rw [after_recorded_cons, ih, unrecorded_call]
    rfl

/-! ## What a record tells -/

/-- The process that was created last, unless it was released. -/
def child? : List Deed → Option Pid
  | [] => none
  | .spawned (.ok pid) :: _ => some pid
  | .released :: _ => none
  | _ :: earlier => child? earlier

/-- The exit status that was collected since. -/
def collected? : List Deed → Option ExitStatus
  | [] => none
  | .spawned (.ok _) :: _ => none
  | .released :: _ => none
  | .awaited _ (.ok (some status)) :: _ => some status
  | _ :: earlier => collected? earlier

theorem spawned_of_child? {record : List Deed} {pid : Pid} (h : child? record = some pid) :
    .spawned (.ok pid) ∈ record := by
  fun_induction child? record with
  | case1 => cases h
  | case2 pid' earlier =>
    obtain rfl := Option.some.inj h
    exact List.mem_cons_self
  | case3 => cases h
  | case4 deed earlier _ _ ih => exact List.mem_cons_of_mem _ (ih h)

/-- Only the child is waited for and signalled, and only until its exit status is collected; a
signal goes to the process alone, for no process has the number of a group. -/
def AimedAfter (earlier : List Deed) : Deed → Prop
  | .killed number _ _ => ∃ pid : Pid, child? earlier = some pid ∧ collected? earlier = none ∧
      number = pid ∧ pid ≤ maxPid
  | .awaited child _ => child? earlier = some child ∧ collected? earlier = none
  | _ => True

/-- So it is with every deed of a record, given those before it. -/
def Aimed : List Deed → Prop
  | [] => True
  | deed :: earlier => AimedAfter earlier deed ∧ Aimed earlier

theorem Aimed.deed {deed : Deed} {later earlier : List Deed}
    (h : Aimed (later ++ deed :: earlier)) : AimedAfter earlier deed := by
  induction later with
  | nil => exact h.1
  | cons _ _ ih => exact ih h.2

/-! ## The process control and its record -/

/-- What is held is what the record tells, and the record is in order. -/
structure Traced (c : ProcessControl (κ × List Deed)) : Prop where
  child : c.child = child? c.deeds
  pid : c.pid = child? c.deeds
  exit : c.exit = collected? c.deeds
  aimed : Aimed c.deeds

theorem Traced.start (hc : Traced c) (spec : Spec) (directory : String) :
    Traced (c.start K.recording spec directory).2 := by
  rcases start_recording (K := K) c spec directory with ⟨pid, kernel, -, hstart⟩ |
    ⟨e, kernel, done, -, hstart, rfl | rfl⟩ <;> rw [hstart]
  · exact ⟨rfl, rfl, rfl, trivial, hc.aimed⟩
  · exact ⟨hc.child, hc.pid, hc.exit, hc.aimed⟩
  · exact ⟨hc.child, hc.pid, hc.exit, trivial, hc.aimed⟩

theorem Traced.signal (hc : Traced c) (signal : Option Signal) :
    Traced (c.signal K.recording signal).2 := by
  cases signal_signals K.recording c signal with
  | gone _ result | refused _ _ _ result => rw [result]; exact hc
  | @sent pid held uncollected small result =>
    rw [result]
    have haimed : child? c.deeds = some pid ∧ collected? c.deeds = none :=
      ⟨hc.pid ▸ held, hc.exit ▸ uncollected⟩
    exact ⟨hc.child, hc.pid, hc.exit, ⟨pid, haimed.1, haimed.2, rfl, small⟩, hc.aimed⟩

theorem Traced.tryWait (hc : Traced c) : Traced (c.tryWait K.recording).2 := by
  cases tryWait_waits K.recording c with
  | known _ result | childless _ result => rw [result]; exact hc
  | @asked child held uncollected result =>
    have haimed : child? c.deeds = some child ∧ collected? c.deeds = none :=
      ⟨hc.child ▸ held, hc.exit ▸ uncollected⟩
    rw [result]
    -- Without an exit status the new deed tells nothing, and nothing was collected before it.
    refine ⟨hc.child, hc.pid, ?_, haimed, hc.aimed⟩
    change (K.waitpid child c.kernel.1).1.toOption.join =
      collected? (.awaited child (K.waitpid child c.kernel.1).1 :: c.deeds)
    rcases (K.waitpid child c.kernel.1).1 with e | _ | status
    · exact haimed.2.symm
    · exact haimed.2.symm
    · rfl

/-- **Every call leaves it so.** -/
theorem Traced.call (hc : Traced c) (call : Call κ) :
    Traced (c.after K.recording call.recorded) := by
  cases call with
  | start spec directory => exact hc.start spec directory
  | signal sent => exact hc.signal sent
  | tryWait => exact hc.tryWait
  | release => exact ⟨rfl, rfl, rfl, trivial, hc.aimed⟩
  | world change => exact ⟨hc.child, hc.pid, hc.exit, hc.aimed⟩

theorem Traced.recorded (K : Kernel κ φ) (kernel : κ) (calls : List (Call κ)) :
    Traced (recorded K kernel calls) := by
  suffices h : ∀ c : ProcessControl (κ × List Deed), Traced c →
      Traced (c.after K.recording (calls.flatMap Call.recorded)) from
    h (new (kernel, [])) ⟨rfl, rfl, rfl, trivial⟩
  induction calls with
  | nil => exact fun _ hc => hc
  | cons call rest ih =>
    intro c hc
    rw [after_recorded_cons]
    exact ih _ (hc.call call)

/-! ## Whom a process control signals -/

variable (K) in
/-- What the record of a process control tells of the signals that were sent and of the next one. -/
structure Guarded (c : ProcessControl (κ × List Deed)) : Prop where
  /-- Every signal that was sent, the null signal included, went to the child held at that time, by
  its number and before its exit status was collected. -/
  sent : ∀ later earlier (number : Int) signal result,
    c.deeds = later ++ .killed number signal result :: earlier →
    ∃ pid : Pid, child? earlier = some pid ∧ collected? earlier = none ∧
      number = pid ∧ 0 < number ∧ number ≤ 2147483647
  /-- What was waited for is that child too, so that a collected exit status is its own. -/
  awaited : ∀ later earlier child result, c.deeds = later ++ .awaited child result :: earlier →
    child? earlier = some child ∧ collected? earlier = none
  /-- The child is signalled until its exit status is collected. -/
  sends : ∀ pid : Pid, child? c.deeds = some pid → collected? c.deeds = none → pid ≤ 2147483647 →
    ∀ signal, (c.signal K.recording signal).2.deeds =
      .killed pid signal (c.signal K.recording signal).1 :: c.deeds
  /-- A child with too great a number is not. -/
  refused : ∀ pid : Pid, child? c.deeds = some pid → collected? c.deeds = none →
    2147483647 < pid → ∀ signal, c.signal K.recording signal = (.error .einval, c)
  /-- Otherwise nobody is. -/
  gone : child? c.deeds = none ∨ collected? c.deeds ≠ none →
    ∀ signal, c.signal K.recording signal = (.error .esrch, c)

/-- **Only the child that is held is signalled**, whatever the kernel answers to any calls, as long
as the processes that it creates have positive numbers. -/
theorem signals_own_child (K : Kernel κ φ) (kernel : κ) (calls : List (Call κ))
    (positive : ∀ pid, .spawned (.ok pid) ∈ (recorded K kernel calls).deeds → 0 < pid) :
    (recorded K kernel calls).unrecorded = (new kernel).after K calls ∧
      Guarded K (recorded K kernel calls) := by
  have htraced := Traced.recorded K kernel calls
  refine ⟨unrecorded_recorded K kernel calls, ?_⟩
  generalize recorded K kernel calls = c at *
  have hmax : maxPid = 2147483647 := rfl
  refine ⟨?_, ?_, ?_, ?_, ?_⟩
  · intro later earlier number signal result hsplit
    obtain ⟨pid, hchild, hcollected, rfl, hsmall⟩ := (hsplit ▸ htraced.aimed).deed
    have hspawned : .spawned (.ok pid) ∈ c.deeds := by
      rw [hsplit]
      exact List.mem_append_right _ (List.mem_cons_of_mem _ (spawned_of_child? hchild))
    rw [hmax] at hsmall
    exact ⟨pid, hchild, hcollected, rfl, Int.natCast_pos.mpr (positive pid hspawned),
      Int.ofNat_le.mpr hsmall⟩
  · intro later earlier child result hsplit
    exact (hsplit ▸ htraced.aimed).deed
  · intro pid hchild hcollected hsmall signal
    rw [signal_of_held (htraced.pid.trans hchild) (htraced.exit.trans hcollected), hmax,
      if_neg (Nat.not_lt_of_le hsmall)]
    rfl
  · intro pid hchild hcollected hlarge signal
    rw [signal_of_held (htraced.pid.trans hchild) (htraced.exit.trans hcollected), hmax,
      if_pos hlarge]
  · intro hgone signal
    rw [← htraced.pid, ← htraced.exit] at hgone
    exact signal_of_gone hgone signal

/-- A process is ended, collected and followed by another one, which is released. -/
def twoProcesses : List (Call ProcessTable) :=
  [.start (ScriptedProcess.spec .never) "/", .signal none, .signal (some .term), .tryWait,
    .signal none, .start (ScriptedProcess.spec .never) "/", .signal none, .release,
    .signal (some .kill)]

/-- Neither is signalled once it was collected or released. -/
theorem signals_two_processes :
    (recorded ProcessTable.kernel [] twoProcesses).deeds =
        [.released, .killed 2 none (.ok ()), .spawned (.ok 2),
          .awaited 1 (.ok (some (.signalled 15))), .killed 1 (some .term) (.ok ()),
          .killed 1 none (.ok ()), .spawned (.ok 1)] ∧
      (∀ pid, .spawned (.ok pid) ∈ (recorded ProcessTable.kernel [] twoProcesses).deeds →
        0 < pid) ∧
      (recorded ProcessTable.kernel [] twoProcesses).unrecorded =
        (new []).after ProcessTable.kernel twoProcesses ∧
      Guarded ProcessTable.kernel (recorded ProcessTable.kernel [] twoProcesses) := by
  have hrecord : (recorded ProcessTable.kernel [] twoProcesses).deeds =
      [.released, .killed 2 none (.ok ()), .spawned (.ok 2),
        .awaited 1 (.ok (some (.signalled 15))), .killed 1 (some .term) (.ok ()),
        .killed 1 none (.ok ()), .spawned (.ok 1)] := rfl
  have hpositive : ∀ pid,
      .spawned (.ok pid) ∈ (recorded ProcessTable.kernel [] twoProcesses).deeds → 0 < pid := by
    intro pid hpid
    rw [hrecord] at hpid
    have hcases : pid = 2 ∨ pid = 1 := by simpa using hpid
    rcases hcases with rfl | rfl <;> decide
  exact ⟨hrecord, hpositive, signals_own_child _ _ _ hpositive⟩

end ProcessControl

end Overseer
