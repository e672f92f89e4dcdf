import Overseer.CommandLine.Parse
import Overseer.Config

/-!
# The entry to launch

* `parseVariable` -- a variable from one text, at its first equals sign;
* `RunOptions.entry` -- the entry that the options ask for: one of a file, by name or the first, or
  one put together from the options.
-/

namespace Overseer

/-- A variable, given as its name, an equals sign and its value. -/
def parseVariable (text : String) : Except Error (String × String) :=
  match splitAtEquals text.toList with
  | (name, some value) => .ok (String.ofList name, String.ofList value)
  | (_, none) =>
    .error (.config s!"Invalid environment variable format: '{text}'. Expected KEY=VALUE")

/-- Variables, each given as one text; of two with one name the last counts. -/
def parseVariables (texts : List String) : Except Error Variables :=
  (texts.mapM parseVariable).map .ofPairs

namespace RunOptions

/-- The entry of a file with a name, or the first one. -/
def entryOfFile (w : Surroundings) (path : String) (name : Option String) :
    Except Error Entry := do
  let entries ← Config.load w path
  match name with
  | some name =>
    match entries.find? (·.name == name) with
    | some e => pure e
    | none => .error (.config s!"No process named '{name}' in {path}")
  | none =>
    match entries with
    | e :: _ => pure e
    | [] => .error (.invalidConfig "No process configuration found")

/-- The name of an entry for which none is given: the file name of its command. -/
def nameOf (program : String) : String := (Path.fileName? program).getD program

/-- The entry put together from the options. -/
def entryOfOptions (w : Surroundings) (o : RunOptions) : Except Error Entry :=
  match o.command with
  | [] => .error (.missingField "command")
  | program :: args => do
    let env ← parseVariables o.env
    let restarts ← Budget.ofCount o.restarts
    let output : OutputTarget := if o.inheritOutput then .inherit else .null
    let e : Entry := {
      Entry.new (o.name.getD (nameOf program)) program with
      args, env, restarts
      detach := o.detach
      pollInterval := o.interval
      stdout := output
      stderr := output }
    e.validate w.isDirectory
    pure e

/-- The entry that the options ask for. -/
def entry (w : Surroundings) (o : RunOptions) : Except Error Entry :=
  match o.config with
  | some path => entryOfFile w path o.name
  | none => o.entryOfOptions w

end RunOptions

end Overseer
