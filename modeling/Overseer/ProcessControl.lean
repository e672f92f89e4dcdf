import Overseer.Kernel
import Overseer.Platform

/-!
# The process control over a kernel

`ProcessControl κ` holds at most one child of a kernel.  Its exit status, once collected, is kept
until the child is let go of or another one is started, so that a process identifier that may belong
to somebody else by then is never signalled.

* `ProcessControl.start`, `ProcessControl.signal`, `ProcessControl.tryWait`,
  `ProcessControl.release` -- the calls;
* `ProcessControl.platform` -- the surroundings of a supervisor.
-/

namespace Overseer

/-- A child of a kernel, and the kernel. -/
structure ProcessControl (κ : Type) where
  kernel : κ
  /-- The child whose exit can be collected. -/
  child : Option Pid
  /-- The process to be signalled. -/
  pid : Option Pid
  /-- The exit status of the child, once it was collected. -/
  exit : Option ExitStatus

namespace ProcessControl

variable {κ φ : Type} (K : Kernel κ φ)

/-- Nothing is held. -/
def new (kernel : κ) : ProcessControl κ := ⟨kernel, none, none, none⟩

/-- The greatest number that names a process in a call. -/
def maxPid : Nat := 2147483647

/-- Opens an output target. -/
def openTarget (kernel : κ) : OutputTarget → Except IoError (Stream φ) × κ
  | .null => (.ok .nowhere, kernel)
  | .inherit => (.ok .shared, kernel)
  | .file path =>
    let (file, kernel) := K.openFile path kernel
    (file.map .file, kernel)

/-- Opens both outputs and creates the process.  The files come first, so that a process whose
output cannot be opened is not created. -/
def create (kernel : κ) (spec : Spec) (directory : String) : Except IoError Pid × κ :=
  match openTarget K kernel spec.stdout with
  | (.error e, kernel) => (.error e, kernel)
  | (.ok stdout, kernel) =>
    match openTarget K kernel spec.stderr with
    | (.error e, kernel) => (.error e, kernel)
    | (.ok stderr, kernel) =>
      let order : Order φ := {
        program := spec.command
        args := spec.args
        directory
        env := spec.env
        stdout
        stderr
        leadsGroup := spec.detach }
      K.spawn order kernel

/-- Creates a process and holds it.  Whatever was held is let go of; a failure changes nothing
here. -/
def start (c : ProcessControl κ) (spec : Spec) (directory : String) :
    Except IoError Pid × ProcessControl κ :=
  match create K c.kernel spec directory with
  | (.ok pid, kernel) => (.ok pid, ⟨kernel, some pid, some pid, none⟩)
  | (.error e, kernel) => (.error e, { c with kernel })

/-- Sends a signal to the process that is held, unless its exit status was collected. -/
def signal (c : ProcessControl κ) (signal : Option Signal) :
    Except Errno Unit × ProcessControl κ :=
  match c.pid, c.exit with
  | none, _ | some _, some _ => (.error .esrch, c)
  | some pid, none =>
    if maxPid < pid then (.error .einval, c)
    else
      let (result, kernel) := K.kill pid signal c.kernel
      (result, { c with kernel })

/-- Collects the exit status of the child, if it has exited. -/
def tryWait (c : ProcessControl κ) :
    Except IoError (Option ExitStatus) × ProcessControl κ :=
  match c.exit, c.child with
  | some status, _ => (.ok (some status), c)
  | none, none => (.error (.notFound "no child process held"), c)
  | none, some child =>
    let (result, kernel) := K.waitpid child c.kernel
    match result with
    | .ok (some status) => (result, { c with kernel, exit := some status })
    | _ => (result, { c with kernel })

/-- Lets go of the child, without a signal. -/
def release (c : ProcessControl κ) : Except IoError Unit × ProcessControl κ :=
  (.ok (), { c with child := none, pid := none, exit := none })

/-- The process control and the status source as surroundings of a supervisor. -/
def platform : Platform (ProcessControl κ) where
  workingDirectory c := K.workingDirectory c.kernel
  start spec directory c := c.start K spec directory
  pid c := c.pid
  signal signal c := c.signal K signal
  tryWait c := c.tryWait K
  release c := c.release
  readStatus pid c :=
    let (result, kernel) := K.readStatus pid c.kernel
    (result, { c with kernel })

end ProcessControl

end Overseer
