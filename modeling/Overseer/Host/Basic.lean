import Overseer.Host.Layout
import Overseer.Host.Shell.Step
import Overseer.Kernel

/-!
# A host to rehearse on

`Host` is a small operating system: files, an environment, a clock, and children that run programs.
Supervision can be tried out on it from end to end, with an outcome that does not depend on how fast
anything runs: children get on only while time passes.

* `Child.deliver` -- a signal reaches a child;
* `Host.tick` -- a millisecond passes;
* `Host.spawn`, `Host.waitpid`, `Host.kill`, `Host.readStatus` -- the calls of the kernel;
* `Host.kernel` -- the host as a kernel.
-/

namespace Overseer

/-- What a child is at. -/
inductive Phase where
  /-- It could go on. -/
  | ready
  | asleep (wakeAt : Nat)
  /-- It waits for children of its own. -/
  | waiting (pids : List Pid) (all : Bool)
  /-- It has exited, and its exit status was not collected. -/
  | ended (status : ExitStatus)

/-- A child. -/
structure Child where
  pid : Pid
  /-- The child that created it, if it was one. -/
  parent : Option Pid
  /-- The process group. -/
  group : Pid
  shell : Shell
  phase : Phase
  stopped : Bool
  /-- Signals that wait until the child goes on. -/
  held : List Signal

namespace Child

/-- What a signal does to a child that has not said otherwise. -/
inductive Effect where
  | ends
  /-- Ends it, with a picture of its memory. -/
  | endsWithCore
  | stops
  | continues
  | nothing
  deriving DecidableEq, Repr

/-- The signals that end a child with a picture of its memory. -/
def coreSignals : List Nat := [3, 4, 5, 6, 7, 8, 11, 24, 25, 31]

/-- The signals that stop a child. -/
def stopSignals : List Nat := [19, 20, 21, 22]

/-- The signals that do nothing. -/
def idleSignals : List Nat := [17, 23, 28]

/-- The signals that take effect before all others. -/
def urgentSignals : List Nat := [4, 5, 7, 8, 11, 31]

/-- The signal that lets a stopped child continue. -/
def continueSignal : Signal := ⟨18⟩

/-- The signal that stops a child without asking. -/
def stopSignal : Signal := ⟨19⟩

/-- What a signal does to a child that has not said otherwise. -/
def effectOf (s : Signal) : Effect :=
  if coreSignals.contains s.number then .endsWithCore
  else if stopSignals.contains s.number then .stops
  else if idleSignals.contains s.number then .nothing
  else if s = continueSignal then .continues
  else .ends

/-- The exit status of a child that a signal ended, with the bit that tells of a picture of its
memory. -/
def endedBy (s : Signal) (core : Bool) : ExitStatus :=
  ⟨(ExitStatus.signalled (UInt8.ofNat s.number)).word ||| (if core then 0x80 else 0)⟩

/-- What a child has said it does on a signal. -/
def answerTo (c : Child) (s : Signal) : Option (Option String) :=
  if s = .kill || s = stopSignal then none else c.shell.dispositions.lookup s

/-- Whether a signal means nothing to a child. -/
def ignores (c : Child) (s : Signal) : Bool :=
  match c.answerTo s with
  | some none => true
  | some (some _) => false
  | none => effectOf s == .nothing

/-- Notes a signal that is caught.  Whoever waits for children stops waiting. -/
def noteCaught (c : Child) (s : Signal) : Child :=
  let caught := if c.shell.caught.contains s then c.shell.caught else s :: c.shell.caught
  match c.phase with
  | .waiting _ _ =>
    { c with shell := { c.shell with caught, status := 128 + s.number }, phase := .ready }
  | _ => { c with shell := { c.shell with caught } }

/-- A signal takes effect. -/
def takeSignal (c : Child) (s : Signal) : Child :=
  match c.phase, c.answerTo s with
  | .ended _, _ => c
  | _, some none => c
  | _, some (some _) => c.noteCaught s
  | _, none =>
    match effectOf s with
    | .ends => { c with phase := .ended (endedBy s false), stopped := false }
    | .endsWithCore => { c with phase := .ended (endedBy s true), stopped := false }
    | .stops => { c with stopped := true }
    | .continues | .nothing => c

/-- The order in which signals that were held take effect. -/
def comesFirst (a b : Signal) : Bool :=
  let urgent (s : Signal) : Bool := urgentSignals.contains s.number
  if urgent a == urgent b then a.number ≤ b.number else urgent a

/-- A child goes on: the signals that it held take effect, except those that would stop it. -/
def resume (c : Child) : Child :=
  let held := c.held.filter fun s => !stopSignals.contains s.number
  (held.mergeSort comesFirst).foldl takeSignal { c with stopped := false, held := [] }

/-- A signal reaches a child.  One that is stopped holds every signal that means something to it,
once, except what ends it for good or lets it go on. -/
def deliver (c : Child) (s : Signal) : Child :=
  if s = continueSignal then (c.takeSignal s).resume
  else if c.stopped && s ≠ .kill then
    if c.ignores s || c.held.contains s then c else { c with held := s :: c.held }
  else c.takeSignal s

/-- Whether a child has exited. -/
def hasEnded (c : Child) : Bool :=
  match c.phase with
  | .ended _ => true
  | _ => false

/-- The signal that has ended a child. -/
def deathSignal? (c : Child) : Option Signal :=
  match c.phase with
  | .ended status => status.signal?.map (⟨·⟩)
  | _ => none

/-- The exit code that a shell sees of a child which has exited. -/
def seenCode (c : Child) : Nat :=
  match c.phase with
  | .ended status =>
    match status.code?, status.signal? with
    | some code, _ => code
    | none, some signal => 128 + signal
    | none, none => 0
  | _ => 0

end Child

/-- A small operating system. -/
structure Host where
  site : Site
  env : Environment
  /-- The directory of the parent. -/
  directory : Place
  now : Nat
  nextPid : Pid
  children : List Child

namespace Host

/-- The identifier of the first child. -/
def firstPid : Pid := 4200

/-- The process group of the parent. -/
def ownGroup : Pid := firstPid - 1

/-- A host on which nothing has happened yet. -/
def new (files : FileSystem) (env : Environment) (directory : Place) : Host where
  site := ⟨files, ""⟩
  env
  directory
  now := 0
  nextPid := firstPid
  children := []

/-- The child with an identifier. -/
def child? (h : Host) (pid : Pid) : Option Child := h.children.find? (·.pid == pid)

/-- Puts a child in the place of the one with its identifier. -/
def putChild (h : Host) (c : Child) : Host :=
  { h with children := h.children.map fun d => if d.pid = c.pid then c else d }

/-- A signal reaches the child with an identifier. -/
def deliverTo (h : Host) (s : Signal) (pid : Pid) : Host :=
  match h.child? pid with
  | some c => h.putChild (c.deliver s)
  | none => h

/-- A child does one thing. -/
def act (h : Host) (c : Child) : Host :=
  let (outcome, scene) := Scene.step { c.shell with site := h.site }
  let h := { h with site := scene.site }
  let c := { c with shell := scene.toShell }
  match outcome with
  | .goOn => h.putChild c
  | .sleep ms => h.putChild { c with phase := .asleep (h.now + ms) }
  | .exit code => h.putChild { c with phase := .ended (.returned (UInt8.ofNat code)) }
  | .send signal targets =>
    let found := targets.all fun pid => (h.child? pid).isSome
    let scene := if found then scene.ended 0 else scene.complain 1 "kill: No such process\n"
    let h := { h with site := scene.site }.putChild { c with shell := scene.toShell }
    match signal with
    | some s => targets.foldl (deliverTo · s) h
    | none => h
  | .fork shell =>
    let job : Child := ⟨h.nextPid, some c.pid, c.group, shell, .ready, false, []⟩
    let c := { c with shell := { c.shell with jobs := h.nextPid :: c.shell.jobs } }
    let h := h.putChild c
    { h with nextPid := h.nextPid + 1, children := h.children ++ [job] }
  | .await pids all => h.putChild { c with phase := .waiting pids all }

/-- A child has waited for its own children: their exit codes are remembered, and deaths are told
of those that it named. -/
def endWait (h : Host) (c : Child) (pids : List Pid) (all : Bool) : Host :=
  let isMeant (d : Child) : Bool := pids.contains d.pid && d.parent = some c.pid
  let gone := h.children.filter isMeant
  let finished := gone.map (fun d => (d.pid, d.seenCode)) ++ c.shell.finished
  let status := if all then 0 else (pids.getLast?.bind fun pid => finished.lookup pid).getD 127
  let deaths := if all then [] else gone.filterMap Child.deathSignal?
  let notices := String.join (deaths.map Scene.deathNotice)
  let scene : Scene := { c.shell with site := h.site, finished, status }
  let scene := scene.write scene.errors notices
  let h := { h with site := scene.site }.putChild { c with shell := scene.toShell, phase := .ready }
  { h with children := h.children.filter (!isMeant ·) }

/-- A child that has slept or waited enough is ready. -/
def wake (h : Host) (c : Child) : Host :=
  match c.phase with
  | .asleep wakeAt => if wakeAt ≤ h.now then h.putChild { c with phase := .ready } else h
  | .waiting pids all =>
    let busy := h.children.any fun d =>
      pids.contains d.pid && d.parent = some c.pid && !d.hasEnded
    if busy then h else h.endWait c pids all
  | _ => h

/-- A child does what it can do at one moment, at most so many things. -/
def proceed (pid : Pid) : Nat → Host → Host
  | 0, h => h
  | bound + 1, h =>
    match h.child? pid with
    | none => h
    | some c =>
      match c.stopped, c.phase with
      | false, .ready => proceed pid bound (h.act c)
      | _, _ => h

/-- How many things a child does in a millisecond. -/
def speed : Nat := 2000

/-- A child has a millisecond. -/
def turn (h : Host) (pid : Pid) : Host :=
  match h.child? pid with
  | some c => if c.stopped then h else (h.wake c).proceed pid speed
  | none => h

/-- A millisecond passes. -/
def tick (h : Host) : Host :=
  (h.children.map (·.pid)).foldl turn { h with now := h.now + 1 }

/-- Opens a file for writing at its end. -/
def openFile (h : Host) (path : String) : Except IoError Place × Host :=
  match h.site.files.openForAppending h.directory path with
  | .ok (place, files) => (.ok place, { h with site := { h.site with files } })
  | .error e => (.error e, h)

/-- Where programs are searched for when the environment does not tell. -/
def defaultSearch : String := "/bin:/usr/bin"

/-- Failures after which a search goes on: they tell about one directory. -/
def isLocal (e : Errno) : Bool := e == .eacces || e == .enoent || e == .enotdir

/-- The program that an order names. -/
def programOf (files : FileSystem) (env : Environment) (directory : Place) (name : String) :
    Except Errno String :=
  if name = "" then .error .enoent
  else if name.contains '/' then Search.programAt files directory name
  else if FileSystem.maxName < name.utf8ByteSize then .error .enametoolong
  else
    Search.along files directory isLocal name false .enoent
      (Search.directoriesOf ((env.text? "PATH").getD defaultSearch))

/-- Whether an order holds a zero, which no call can take. -/
def holdsZero (o : Order Place) : Bool :=
  let texts := o.program :: o.directory :: o.args ++ o.env.flatMap fun (k, v) => [k, v]
  texts.any (·.contains '\x00')

/-- The most bytes of one argument or variable, with the zero at its end. -/
def maxText : Nat := 131072

/-- The most bytes of all arguments and variables. -/
def maxTexts : Nat := 2097152

/-- How many bytes it takes to tell where one argument or variable is. -/
def pointerSize : Nat := 8

/-- Whether arguments and variables are more than a program can be given. -/
def isTooMuch (o : Order Place) (env : Environment) : Bool :=
  let args := (o.program :: o.args).map (·.utf8ByteSize + 1)
  let sizes := args ++ env.settings.map fun (name, value) => name.utf8ByteSize + value.size + 2
  let total := sizes.foldl (· + ·) (o.program.utf8ByteSize + 1)
  sizes.any (maxText < ·) || maxTexts < total + pointerSize * sizes.length

/-- The directory to start in. -/
def startOf (h : Host) (directory : String) : Except IoError Place := do
  let place ← h.site.files.locate h.directory directory
  match h.site.files.node? place with
  | some .directory => pure place
  | some _ => .error (.os .enotdir)
  | none => .error (.os .enoent)

/-- Where a stream of a child goes. -/
def channelOf (shared : Channel) : Stream Place → Channel
  | .nowhere => .nowhere
  | .shared => shared
  | .file place => .file place

/-- Creates a child. -/
def create (h : Host) (o : Order Place) : Except IoError (Pid × Host) :=
  if holdsZero o then .error (.invalidInput "nul byte found in provided data")
  else do
    let place ← h.startOf o.directory
    let env := o.env.foldl (fun env (k, v) => env.set k v.toUTF8) h.env
    let program ← (programOf h.site.files env place o.program).mapError .os
    if isTooMuch o env then throw (.os .e2big)
    let shell := Shell.ofProgram env place h.nextPid program o.program o.args
      (channelOf .output o.stdout) (channelOf .errors o.stderr)
    let group := if o.leadsGroup then h.nextPid else ownGroup
    let c : Child := ⟨h.nextPid, none, group, shell, .ready, false, []⟩
    pure (h.nextPid, { h with nextPid := h.nextPid + 1, children := h.children ++ [c] })

/-- Creates a child. -/
def spawn (o : Order Place) (h : Host) : Except IoError Pid × Host :=
  match h.create o with
  | .ok (pid, h) => (.ok pid, h)
  | .error e => (.error e, h)

/-- Collects the exit status of a child, if it has exited; then the child is gone. -/
def waitpid (pid : Pid) (h : Host) : Except IoError (Option ExitStatus) × Host :=
  match h.child? pid with
  | none => (.error (.os .echild), h)
  | some c =>
    match c.phase with
    | .ended status =>
      (.ok (some status), { h with children := h.children.filter (·.pid != pid) })
    | _ => (.ok none, h)

/-- Sends a signal to a child, or to all children of a group. -/
def kill (target : Int) (signal : Option Signal) (h : Host) : Except Errno Unit × Host :=
  let isMeant (c : Child) : Bool := c.pid = target || (target < -1 && c.group = -target)
  match (h.children.filter isMeant).map (·.pid), signal with
  | [], _ => (.error .esrch, h)
  | _, none => (.ok (), h)
  | pids, some s => (.ok (), pids.foldl (deliverTo · s) h)

/-- The first process, which has always been there. -/
def initialPid : Pid := 1

/-- The state of a child as the process table names it. -/
def stateOf (c : Child) : KernelState :=
  match c.phase with
  | .ended _ => .zombie
  | .ready => if c.stopped then .stop else .run
  | .asleep _ | .waiting _ _ => if c.stopped then .stop else .sleep

/-- Reads the run state of a process. -/
def readStatus (pid : Pid) (h : Host) : Except Error Status × Host :=
  if pid = initialPid then (.ok .sleeping, h)
  else
    match h.child? pid with
    | some c => (.ok (.ofKernel (stateOf c)), h)
    | none => (.error (.statusRead s!"process {pid} not found"), h)

/-- The host as a kernel. -/
def kernel : Kernel Host Place where
  workingDirectory h := .ok (FileSystem.pathOf h.directory)
  openFile path h := h.openFile path
  spawn := spawn
  waitpid := waitpid
  kill := kill
  readStatus := readStatus

/-- Whether a process leads a group of its own. -/
def leadsGroup (h : Host) (pid : Pid) : Bool := (h.child? pid).any (·.group == pid)

end Host

end Overseer
