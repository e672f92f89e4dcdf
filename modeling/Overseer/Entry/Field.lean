import Overseer.Decode.Setting
import Overseer.Entry.Basic

/-!
# The fields of an entry

An entry has eleven fields, in the order in which they are written without their names.

* `Field.key` -- the name of a field in files; `Field.ofKey?` finds the field;
* `Field.Content` -- what a field holds;
* `Field.ofValue`, `Field.toValue` -- reading and writing one field;
* `Field.fallback` -- what a field holds when it is absent; the name and the command have to be
  there.
-/

namespace Overseer

/-- A field of an entry. -/
inductive Field where
  | name
  | command
  | args
  | env
  | cwd
  | detach
  | restarts
  | pollInterval
  | stdout
  | stderr
  | autoTerminate
  deriving DecidableEq, Repr

namespace Field

/-- Every field, in order. -/
def all : List Field :=
  [name, command, args, env, cwd, detach, restarts, pollInterval, stdout, stderr, autoTerminate]

/-- How many fields have to be there. -/
def required : Nat := 2

/-- The name of a field in files. -/
def key : Field → String
  | name => "name"
  | command => "command"
  | args => "args"
  | env => "env"
  | cwd => "cwd"
  | detach => "detach"
  | restarts => "restarts"
  | pollInterval => "poll_interval_ms"
  | stdout => "stdout"
  | stderr => "stderr"
  | autoTerminate => "auto_terminate"

/-- The field with a name. -/
def ofKey? (key : String) : Option Field := all.find? (·.key == key)

/-- What a field holds. -/
abbrev Content : Field → Type
  | name | command => String
  | args => List String
  | env => Variables
  | cwd => Option String
  | detach | autoTerminate => Bool
  | restarts => Budget
  | pollInterval => UInt64
  | stdout | stderr => OutputTarget

/-- Reads one field. -/
def ofValue (format : Format) : (f : Field) → Value → Decoded f.Content
  | name, v => v.asText
  | command, v => v.asPath
  | args, v => v.asTexts
  | env, v => v.asVariables
  | cwd, .null => .ok none
  | cwd, v => v.asPath.map some
  | detach, v | autoTerminate, v => v.asBoolean
  | restarts, v => Budget.ofValue v
  | pollInterval, v => v.asUnsigned
  | stdout, v | stderr, v => OutputTarget.ofValue format v

/-- Writes one field. -/
def toValue : (f : Field) → f.Content → Value
  | name, text | command, text => .text text
  | args, texts => .sequence (texts.map .text)
  | env, settings =>
    .table (settings.entries.map fun (key, value) => (key, .text value))
  | cwd, none => .null
  | cwd, some path => .text path
  | detach, b | autoTerminate, b => .boolean b
  | restarts, budget => budget.toValue
  | pollInterval, interval => .integer interval.toNat
  | stdout, target | stderr, target => target.toValue

/-- What a field holds when it is absent. -/
def fallback : (f : Field) → Option f.Content
  | name | command => none
  | args => some []
  | env => some .empty
  | cwd => some none
  | detach | autoTerminate => some false
  | restarts => some .never
  | pollInterval => some defaultPollInterval
  | stdout | stderr => some .null

/-- What an entry holds in a field. -/
def get (e : Entry) : (f : Field) → f.Content
  | name => e.name
  | command => e.command
  | args => e.args
  | env => e.env
  | cwd => e.cwd
  | detach => e.detach
  | restarts => e.restarts
  | pollInterval => e.pollInterval
  | stdout => e.stdout
  | stderr => e.stderr
  | autoTerminate => e.autoTerminate

end Field

end Overseer
