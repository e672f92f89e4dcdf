import Overseer.Host.FileSystem
import Overseer.Host.ShellCommand.Basic
import Overseer.Reader
import Overseer.Signal
import Overseer.Spec

/-!
# Programs under way

`Shell` is a program in the course of its run: what it still has to do, and all that it does it
with.  Any program is one, since a program that is run directly is a shell with that one thing to
do.  A `Scene` is a shell together with the site on which it works.

* `Frame` -- what a command in parentheses changes only for itself;
* `Chore` -- something that is still to be done;
* `Outcome` -- how a run goes on;
* `Scene.write`, `Scene.assign`, `Scene.value?` -- writing, and the values of parameters.
-/

namespace Overseer

/-- Where a program writes. -/
inductive Channel where
  | nowhere
  /-- The standard output of the host. -/
  | output
  /-- The standard error of the host. -/
  | errors
  /-- To another command of the same shell; so many other pipes lie below this one. -/
  | pipe (below : Nat)
  | file (place : Place)
  deriving DecidableEq, Repr

/-- What a program can change. -/
structure Site where
  files : FileSystem
  /-- What was written to the standard output of the host. -/
  printed : String

/-- What a command reads and where it writes. -/
structure Streams where
  /-- What is left to be read. -/
  input : List Char
  output : Channel
  errors : Channel
  /-- The other descriptors that are open. -/
  others : List (Nat × Channel)

/-- The channel with a descriptor. -/
def Streams.get (t : Streams) (descriptor : Nat) : Channel :=
  match descriptor with
  | 1 => t.output
  | 2 => t.errors
  | n => (t.others.lookup n).getD .nowhere

/-- Sets the channel with a descriptor. -/
def Streams.set (t : Streams) (descriptor : Nat) (channel : Channel) : Streams :=
  match descriptor with
  | 1 => { t with output := channel }
  | 2 => { t with errors := channel }
  | n => { t with others := (n, channel) :: t.others.filter (·.1 != n) }

/-- A variable before it was changed: its value, and whether it was exported. -/
structure Saved where
  name : String
  value : Option String
  exported : Bool

/-- What a command in parentheses changes only for itself. -/
structure Frame extends Streams where
  /-- What the shell calls its own process identifier. -/
  self : Pid
  /-- The name that the program goes by. -/
  zero : String
  args : List String
  settings : List (String × String)
  /-- The variables that other programs get. -/
  exported : List String
  directory : Place
  /-- Signals that are caught, with the script to run on them, and signals that are ignored. -/
  traps : List (Signal × Option String)
  functions : List (String × ShellCommand)
  /-- The shell ends when a command fails. -/
  stopsOnFailure : Bool
  /-- The shell ends when a parameter is not set. -/
  stopsOnUnset : Bool
  /-- The variables that the current function has made its own. -/
  localized : List Saved

/-- Something that is still to be done.  `tested` commands may fail. -/
inductive Chore where
  | command (command : ShellCommand) (tested : Bool)
  /-- Runs a script that is read only now, line by line. -/
  | script (text : List Char)
  /-- Goes on if the last command succeeded, or only if it failed. -/
  | chain (onSuccess : Bool) (second : ShellCommand) (tested : Bool)
  | negate
  | branch (thenPart elsePart : ShellCommand) (tested : Bool)
  /-- Begins the first round of a loop, or a further one. -/
  | round (further : Bool) (whileSuccess : Bool) (condition body : ShellCommand) (tested : Bool)
  /-- Looks at the condition of a loop; `last` is the exit code of the round before. -/
  | verdict (whileSuccess : Bool) (condition body : ShellCommand) (tested : Bool) (last : Nat)
  | each (name : String) (values : List String) (body : ShellCommand) (tested : Bool)
  /-- Runs a program that is no part of the shell. -/
  | program (name zero : String) (args : List String)
  /-- The end of a command in parentheses. -/
  | restore (frame : Frame)
  /-- The end of a command whose output becomes a part of another command. -/
  | collect (frame : Frame) (rebuild : List Char → ShellCommand) (tested : Bool)
  /-- The end of a command whose output the next one reads. -/
  | feed (frame : Frame) (second : ShellCommand) (tested : Bool)
  /-- The end of a function. -/
  | returned (args : List String) (localized : List Saved)
  /-- The end of a script that was read from a file. -/
  | sourced
  /-- Puts back the streams, and what is left to be read if `inputToo`. -/
  | redirectBack (streams : Streams) (inputToo : Bool)
  | unassign (saved : List Saved)
  /-- Puts back the exit code of the last command. -/
  | status (code : Nat)
  /-- Ends the shell if the last command failed. -/
  | check
  | leave (code : Nat)

/-- A program in the course of its run. -/
structure Shell extends Frame where
  chores : List Chore
  /-- The exit code of the last command. -/
  status : Nat
  /-- What was written to pipes, the newest pipe first. -/
  pipes : List String
  /-- The commands that are not waited for, the newest one first. -/
  jobs : List Pid
  /-- The exit codes of those that were waited for after all. -/
  finished : List (Pid × Nat)
  /-- Signals that were caught, and nothing was done on them yet. -/
  caught : List Signal

/-- A program in the course of its run, on a site. -/
structure Scene extends Shell where
  site : Site

/-- How a run goes on. -/
inductive Outcome where
  | goOn
  | sleep (ms : Nat)
  | exit (code : Nat)
  /-- Sends a signal to processes, or asks whether it could be sent. -/
  | send (signal : Option Signal) (targets : List Pid)
  /-- Another process begins to run. -/
  | fork (shell : Shell)
  /-- Waits for processes; the exit code of the last one counts, unless all jobs were meant. -/
  | await (pids : List Pid) (all : Bool)

/-- Stands for the end of the shell among the signals. -/
def Signal.exit : Signal := ⟨0⟩

namespace Scene

/-- Writes a text. -/
def write (c : Scene) (channel : Channel) (text : String) : Scene :=
  match channel with
  | .nowhere | .errors => c
  | .output => { c with site := { c.site with printed := c.site.printed ++ text } }
  | .pipe below =>
    { c with pipes := c.pipes.modify (c.pipes.length - 1 - below) (· ++ text) }
  | .file place =>
    { c with site := { c.site with files := c.site.files.append place text.toUTF8 } }

/-- Writes to the output. -/
def say (c : Scene) (text : String) : Scene := c.write c.output text

/-- The command ended with an exit code. -/
def ended (c : Scene) (status : Nat) : Scene := { c with status }

/-- Complains about something, which is the exit code. -/
def complain (c : Scene) (status : Nat) (text : String) : Scene :=
  (c.write c.errors s!"{c.zero}: 1: {text}\n").ended status

/-- Puts something before everything else that is to be done. -/
def first (c : Scene) (chores : List Chore) : Scene := { c with chores := chores ++ c.chores }

/-- Sets a variable. -/
def assign (c : Scene) (name value : String) : Scene :=
  { c with settings := (name, value) :: c.settings.filter (·.1 != name) }

/-- Forgets a variable. -/
def unset (c : Scene) (name : String) : Scene :=
  { c with
    settings := c.settings.filter (·.1 != name)
    exported := c.exported.filter (· != name) }

/-- Lets other programs get a variable. -/
def exportName (c : Scene) (name : String) : Scene :=
  if c.exported.contains name then c else { c with exported := name :: c.exported }

/-- A variable as it is now. -/
def saved (c : Scene) (name : String) : Saved :=
  ⟨name, c.settings.lookup name, c.exported.contains name⟩

/-- Puts a variable back. -/
def putBack (c : Scene) (s : Saved) : Scene :=
  let c := c.unset s.name
  match s.value with
  | none => c
  | some value =>
    let c := c.assign s.name value
    if s.exported then c.exportName s.name else c

/-- The arguments as one text. -/
def joinedArgs (c : Scene) : String :=
  let divider := match c.settings.lookup "IFS" with
    | none => " "
    | some text => String.ofList (text.toList.take 1)
  divider.intercalate c.args

/-- The value of a parameter. -/
def value? (c : Scene) (name : String) : Option String :=
  match name with
  | "$" => some (toString c.self)
  | "?" => some (toString c.status)
  | "#" => some (toString c.args.length)
  | "!" => c.jobs.head?.map toString
  | "-" => some ((if c.stopsOnFailure then "e" else "") ++ (if c.stopsOnUnset then "u" else ""))
  | "@" | "*" => if c.args.isEmpty then none else some c.joinedArgs
  | _ =>
    if name.toList.all isDigit then
      match digitsValue 10 name.toList with
      | 0 => some c.zero
      | n + 1 => c.args[n]?
    else c.settings.lookup name

/-- The streams as they are now. -/
def streams (c : Scene) : Streams := c.toFrame.toStreams

/-- Sets the streams. -/
def withStreams (c : Scene) (t : Streams) : Scene :=
  { c with input := t.input, output := t.output, errors := t.errors, others := t.others }

/-- Sets everything that a command in parentheses changes only for itself. -/
def withFrame (c : Scene) (frame : Frame) : Scene :=
  { c with toShell := { c.toShell with toFrame := frame } }

/-- What a new shell ignores: what is caught is not. -/
def inherited (traps : List (Signal × Option String)) : List (Signal × Option String) :=
  traps.filter (·.2.isNone)

/-- Begins a command that keeps its changes for itself. -/
def enter (c : Scene) : Scene := { c with traps := inherited c.traps }

/-- The end of something that keeps its changes for itself, with what comes back then. -/
def frameOf? : Chore → Option Frame
  | .restore frame | .collect frame _ _ | .feed frame _ _ => some frame
  | _ => none

/-- Whether a chore ends something that keeps its changes for itself. -/
def isBoundary (chore : Chore) : Bool := (frameOf? chore).isSome

/-- Ends the innermost shell. -/
def leave (c : Scene) (code : Nat) : Scene :=
  { c with chores := .leave code :: c.chores.dropWhile (!isBoundary ·) }

/-- Complains about something that no shell survives. -/
def abort (c : Scene) (reason : String) : Scene := (c.complain 2 reason).leave 2

/-- Whether a chore belongs to a loop. -/
def isLoop : Chore → Bool
  | .round .. | .verdict .. | .each .. => true
  | _ => false

/-- Whether a chore puts something back, however the command before it ends. -/
def isCleanup : Chore → Bool
  | .redirectBack .. | .unassign _ | .status _ => true
  | _ => false

/-- The chores after a loop is left, which is the innermost one or one further out, or after its
next round has begun. -/
def unwound (again : Bool) : Nat → List Chore → List Chore
  | _, [] => []
  | n, chore :: rest =>
    if isLoop chore then
      match n with
      | n + 2 => unwound again (n + 1) rest
      | _ =>
        match again, chore with
        | false, _ => rest
        | true, .verdict whileSuccess condition body tested _ =>
          .round true whileSuccess condition body tested :: rest
        | true, chore => chore :: rest
    else if isCleanup chore then chore :: unwound again n rest
    else unwound again n rest

/-- Whether a chore ends something that has loops of its own and can be left. -/
def endsCall : Chore → Bool
  | .returned .. | .sourced => true
  | chore => isBoundary chore

/-- Leaves a loop, or begins its next round.  Loops around a function or a command in parentheses do
not count. -/
def leaveLoop (c : Scene) (again : Bool) (n : Nat) : Scene :=
  let inner := c.chores.takeWhile (!endsCall ·)
  let loops := (inner.filter isLoop).length
  if loops = 0 then c.ended 0
  else
    { c with
      chores := unwound again (min n loops) inner ++ c.chores.drop inner.length
      status := 0 }

/-- Leaves a function or a script that was read from a file, or else the shell. -/
def leaveFunction (c : Scene) (code : Nat) : Scene :=
  let inner := c.chores.takeWhile (!endsCall ·)
  match c.chores.drop inner.length with
  | [] => c.leave code
  | chore :: rest =>
    if isBoundary chore then c.leave code
    else { c with chores := inner.filter isCleanup ++ chore :: rest, status := code }

end Scene

/-- What the process itself does on signals: commands in parentheses are other processes. -/
def Shell.dispositions (s : Shell) : List (Signal × Option String) :=
  match s.chores.reverse.findSome? Scene.frameOf? with
  | some frame => frame.traps
  | none => s.traps

end Overseer
