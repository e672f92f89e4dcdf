import Overseer.Entry.Basic
import Overseer.Status
import Overseer.Timestamp

/-!
# What is printed

The lines of the command line's output.  With colours on, names are cyan, good news is bold green,
and a run state has the colour of how much it should worry; with colours off the same text stands
plain.

* `Paint.apply` -- one painted text;
* `Report.started`, `Report.statusLine`, `Report.deleted` -- the life of one process;
* `Report.entries` -- the entries of a configuration file.
-/

namespace Overseer

/-- How a text is painted: the parameters of a terminal's escape sequence. -/
structure Paint where
  parameters : String
  deriving DecidableEq, Repr

namespace Paint

/-- Bold. -/
def bold : Paint := ⟨"1"⟩
/-- Dimmed. -/
def dimmed : Paint := ⟨"2"⟩
/-- Red. -/
def red : Paint := ⟨"31"⟩
/-- Green. -/
def green : Paint := ⟨"32"⟩
/-- Yellow. -/
def yellow : Paint := ⟨"33"⟩
/-- Cyan. -/
def cyan : Paint := ⟨"36"⟩
/-- Bold and green. -/
def boldGreen : Paint := ⟨"1;32"⟩
/-- Bold and red. -/
def boldRed : Paint := ⟨"1;31"⟩

/-- Ends all painting. -/
def reset : String := "\x1b[0m"

/-- Paints a text.  Where the text itself ends all painting, the painting is taken up again. -/
def apply (paint : Paint) (colours : Bool) (text : String) : String :=
  if colours then
    let start := s!"\x1b[{paint.parameters}m"
    start ++ text.replace reset (reset ++ start) ++ reset
  else text

end Paint

namespace Report

variable (colours : Bool)

/-- The colour of a run state. -/
def paintOf : Status → Paint
  | .running | .sleeping | .idle => .green
  | .diskSleep | .stopped | .tracing => .yellow
  | .zombie | .dead | .terminated => .red
  | .unavailable => .dimmed

/-- One labelled line of a started process. -/
def labelled (label text : String) : String :=
  s!"  {Paint.bold.apply colours label}: {text}\n"

/-- The first lines about a started process. -/
def started (name command : String) : String :=
  Paint.boldGreen.apply colours "✓ Process started" ++ "\n" ++
    labelled colours "Name" (Paint.cyan.apply colours name) ++
    labelled colours "Command" command

/-- The line with the process identifier. -/
def pid (pid : Pid) : String := labelled colours "PID" (toString pid)

/-- The line with the start time. -/
def startTime (time : Timestamp) : String := labelled colours "Started" time.text

/-- A name and a run state, as they follow the time of day. -/
def nameAndStatus (name : String) (status : Status) : String :=
  s!"{Paint.cyan.apply colours name} {(paintOf status).apply colours status.text}\n"

/-- One change of the run state. -/
def statusLine (time : Timestamp) (name : String) (status : Status) : String :=
  s!"[{time.clock}] {nameAndStatus colours name status}"

/-- The process is deleted. -/
def deleted (name : String) : String :=
  Paint.boldGreen.apply colours s!"✓ Process {name} deleted successfully" ++ "\n"

/-- Something failed. -/
def failure (message : String) : String :=
  Paint.boldRed.apply colours "✗ Error:" ++ s!" {message}\n"

/-- One entry. -/
def entry (e : Entry) : String :=
  let detached := if e.detach then ", detached" else ""
  let settings := s!"(restarts: {e.restarts.text}, interval: {e.pollInterval}ms{detached})"
  let args := " ".intercalate e.args
  s!"  {Paint.cyan.apply colours e.name} {e.command} {args} {settings}\n"

/-- All entries, and how many they are. -/
def entries (es : List Entry) : String :=
  Paint.boldGreen.apply colours s!"✓ {es.length} process(es) configured" ++ "\n" ++
    String.join (es.map (entry colours))

end Report

end Overseer
