import Overseer.Decode.Fault
import Overseer.Keyed

/-!
# Reading values

Each reader here takes a value for one kind of content, or tells the fault.

* `Value.asText`, `Value.asPath`, `Value.asBoolean`, `Value.asSigned`, `Value.asUnsigned` -- values
  without parts.  A moment is a text;
* `Value.asTexts`, `Value.asVariables` -- a sequence of texts, a table of texts;
* `Value.asChoice` -- a choice by name, with the value that it brings, if any; a text is a bare
  name, a table with one entry brings a value.  The formats differ in what they call wrong.
-/

namespace Overseer

/-- The greatest signed whole number. -/
def maxSigned : Int := 9223372036854775807

/-- The greatest unsigned whole number. -/
def maxUnsigned : Int := 18446744073709551615

namespace Value

/-- What a value is to somebody who wanted something else. -/
def found : Value → Found
  | null => .null
  | boolean b => .boolean b
  | integer n => .integer n
  | float x => .float x
  | text s => .text s
  | dateTime t => .text t.text
  | sequence _ => .sequence
  | table _ => .map

/-- The kind of a value. -/
def kind : Value → String
  | null => "null"
  | boolean _ => "boolean"
  | integer _ => "integer"
  | float _ => "float"
  | text _ => "string"
  | dateTime _ => "datetime"
  | sequence _ => "array"
  | table _ => "table"

/-- The text that a value holds. -/
def text? : Value → Option String
  | text s => some s
  | dateTime t => some t.text
  | _ => none

/-- A text. -/
def asText (v : Value) : Decoded String :=
  match v.text? with
  | some s => .ok s
  | none => .error (Fault.wrongType v.found .text)

/-- A path. -/
def asPath (v : Value) : Decoded String :=
  match v.text? with
  | some s => .ok s
  | none => .error (Fault.wrongType v.found .path)

/-- A truth value. -/
def asBoolean : Value → Decoded Bool
  | boolean b => .ok b
  | v => .error (Fault.wrongType v.found .boolean)

/-- A whole number of 64 bits with a sign. -/
def asSigned : Value → Decoded Int
  | integer n =>
    if -maxSigned - 1 ≤ n ∧ n ≤ maxSigned then .ok n
    else .error (Fault.wrongValue (.integer n) .signed)
  | v => .error (Fault.wrongType v.found .signed)

/-- A whole number of 64 bits without a sign. -/
def asUnsigned : Value → Decoded UInt64
  | integer n =>
    if 0 ≤ n ∧ n ≤ maxUnsigned then .ok (.ofNat n.toNat)
    else .error (Fault.wrongValue (.integer n) .unsigned)
  | v => .error (Fault.wrongType v.found .unsigned)

/-- A sequence of texts. -/
def asTexts : Value → Decoded (List String)
  | sequence items => items.mapM asText
  | v => .error (Fault.wrongType v.found .sequence)

/-- One entry of a table of texts. -/
def asVariable (entry : String × Value) : Decoded (String × String) :=
  Decoded.under entry.1 (entry.2.asText.map fun value => (entry.1, value))

/-- A table of texts. -/
def asVariables : Value → Decoded Variables
  | table entries => (entries.mapM asVariable).map .ofPairs
  | v => .error (Fault.wrongType v.found .map)

/-- A choice by name, and the value that it brings. -/
def asChoice : Format → Value → Decoded (String × Option Value)
  | _, text name => .ok (name, none)
  | _, table [(name, payload)] => .ok (name, some payload)
  | .json, table _ => .error (Fault.wrongValue .map .singleKey)
  | .json, v => .error (Fault.wrongType v.found .textOrMap)
  | .toml, table [] => .error Fault.noChoice
  | .toml, table _ => .error Fault.manyChoices
  | .toml, _ => .error (Fault.wrongType .bareName .textOnly)

/-- Nothing, as it is written for a choice that brings nothing with it. -/
def asNothing : Format → Value → Decoded Unit
  | .json, null => .ok ()
  | .json, v => .error (Fault.wrongType v.found .nothing)
  | .toml, sequence [] => .ok ()
  | .toml, sequence _ => .error Fault.payloadElements
  | .toml, table [] => .ok ()
  | .toml, table _ => .error Fault.payloadEntries
  | .toml, v => .error (Fault.payloadKind v.kind)

end Value

/-- A choice that brings nothing with it. -/
def noPayload (format : Format) : Option Value → Decoded Unit
  | none => .ok ()
  | some v => v.asNothing format

/-- A choice that brings a value with it. -/
def withPayload {α : Type} (read : Value → Decoded α) : Option Value → Decoded α
  | none => .error (Fault.wrongType .bareName .payload)
  | some v => read v

end Overseer
