import Overseer.Decode.Basic
import Overseer.Spec
import Overseer.Status

/-!
# Settings in files

How the settings that are not plain texts and numbers are read from a value and written as one.

* `Status.ofValue`, `Status.toValue` -- a run state, by name;
* `Budget.ofValue`, `Budget.toValue` -- a restart budget, in its integer form;
* `OutputTarget.ofValue`, `OutputTarget.toValue` -- an output target: the names `null` and
  `inherit`, or a table that gives the path under `file`.
-/

namespace Overseer

namespace Status

/-- Reads a run state. -/
def ofValue (format : Format) (v : Value) : Decoded Status := do
  let (name, payload) ← v.asChoice format
  match ofName? name with
  | none => .error (Fault.unknownChoice name (all.map Status.name))
  | some status => do
    noPayload format payload
    pure status

/-- Writes a run state. -/
def toValue (s : Status) : Value := .text s.name

end Status

namespace Budget

/-- Reads a restart budget. -/
def ofValue (v : Value) : Decoded Budget := do
  let count ← v.asSigned
  match ofCount count with
  | .ok budget => .ok budget
  | .error e => .error (Fault.refused e)

/-- Writes a restart budget. -/
def toValue (b : Budget) : Value := .integer b.toCount

end Budget

namespace OutputTarget

/-- The name of the choice to discard the output. -/
def nullName : String := "null"

/-- The name of the choice to share the supervisor's own output. -/
def inheritName : String := "inherit"

/-- The name of the choice to append the output to a file. -/
def fileName : String := "file"

/-- Reads an output target. -/
def ofValue (format : Format) (v : Value) : Decoded OutputTarget := do
  let (name, payload) ← v.asChoice format
  if name = nullName then do
    noPayload format payload
    pure null
  else if name = inheritName then do
    noPayload format payload
    pure inherit
  else if name = fileName then file <$> withPayload Value.asPath payload
  else .error (Fault.unknownChoice name [nullName, inheritName, fileName])

/-- Writes an output target. -/
def toValue : OutputTarget → Value
  | null => .text nullName
  | inherit => .text inheritName
  | file path => .table [(fileName, .text path)]

end OutputTarget

end Overseer
