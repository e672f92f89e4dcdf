import Overseer.Error
import Overseer.Keyed
import Overseer.Spec

/-!
# Entries

An entry is the configuration of one process, as a file or a command line gives it.

* `Entry.new` -- the entry with a name and a command and nothing else set;
* `Entry.validate` -- what has to hold before anything is launched;
* `Entry.toSpec` -- the launch specification.  Its variables are in ascending order;
* `Entry.toCommission` -- the same without a sink.
-/

namespace Overseer

/-- The configuration of one process. -/
structure Entry where
  name : String
  command : String
  args : List String
  /-- Variables on top of the inherited environment. -/
  env : Variables
  /-- The directory to start in; without one, the supervisor's own. -/
  cwd : Option String
  /-- Whether the process leads a process group of its own. -/
  detach : Bool
  restarts : Budget
  /-- Milliseconds between two ticks of the watchdog. -/
  pollInterval : UInt64
  stdout : OutputTarget
  stderr : OutputTarget
  /-- Whether the process is deleted once nobody holds a handle to it. -/
  autoTerminate : Bool

namespace Entry

/-- An entry with nothing but a name and a command. -/
def new (name command : String) : Entry where
  name
  command
  args := []
  env := .empty
  cwd := none
  detach := false
  restarts := .never
  pollInterval := defaultPollInterval
  stdout := .null
  stderr := .null
  autoTerminate := false

/-- Whether the directory to start in, if one is set, is a directory. -/
def checkDirectory (isDirectory : String → Bool) : Option String → Except Error Unit
  | none => .ok ()
  | some cwd =>
    if isDirectory cwd then .ok ()
    else
      .error (.validation s!"Working directory does not exist or is not a directory: {cwd}")

/-- What has to hold before anything is launched: a name, a command, ticks, and a directory to
start in. -/
def validate (isDirectory : String → Bool) (e : Entry) : Except Error Unit :=
  if e.name = "" then .error (.missingField "name")
  else if e.command = "" then .error (.missingField "command")
  else if e.pollInterval = 0 then .error (.validation "poll_interval_ms must be at least 1")
  else checkDirectory isDirectory e.cwd

/-- The launch specification of an entry. -/
def toSpec (e : Entry) : Spec where
  name := e.name
  command := e.command
  args := e.args
  env := e.env.entries
  cwd := e.cwd
  detach := e.detach
  budget := e.restarts
  pollInterval := e.pollInterval
  stdout := e.stdout
  stderr := e.stderr
  autoTerminate := e.autoTerminate

/-- What an entry hands to a supervisor.  The sink is left to whoever launches the process. -/
def toCommission (e : Entry) : Commission where
  spec := e.toSpec
  sink := none

end Entry

end Overseer
