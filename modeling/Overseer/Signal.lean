/-!
# Signals

`Signal.table` holds the number and the name of every signal the host knows.  A signal is its
number; `Signal.name` and `Signal.ofName?` go between the two.
-/

namespace Overseer

/-- A signal that can be sent to a process. -/
structure Signal where
  number : Nat
  deriving DecidableEq, Repr

namespace Signal

/-- Number and name of every signal, ascending. -/
def table : List (Nat × String) := [
  (1, "SIGHUP"), (2, "SIGINT"), (3, "SIGQUIT"), (4, "SIGILL"), (5, "SIGTRAP"), (6, "SIGABRT"),
  (7, "SIGBUS"), (8, "SIGFPE"), (9, "SIGKILL"), (10, "SIGUSR1"), (11, "SIGSEGV"),
  (12, "SIGUSR2"), (13, "SIGPIPE"), (14, "SIGALRM"), (15, "SIGTERM"), (16, "SIGSTKFLT"),
  (17, "SIGCHLD"), (18, "SIGCONT"), (19, "SIGSTOP"), (20, "SIGTSTP"), (21, "SIGTTIN"),
  (22, "SIGTTOU"), (23, "SIGURG"), (24, "SIGXCPU"), (25, "SIGXFSZ"), (26, "SIGVTALRM"),
  (27, "SIGPROF"), (28, "SIGWINCH"), (29, "SIGIO"), (30, "SIGPWR"), (31, "SIGSYS")]

/-- Asks a process to end. -/
def term : Signal := ⟨15⟩

/-- Ends a process without asking. -/
def kill : Signal := ⟨9⟩

/-- The name of a signal. -/
def name (s : Signal) : String :=
  match table.find? (·.1 == s.number) with
  | some (_, name) => name
  | none => s!"SIG{s.number}"

/-- The signal with a name. -/
def ofName? (name : String) : Option Signal :=
  (table.find? (·.2 == name)).map (⟨·.1⟩)

end Signal

end Overseer
