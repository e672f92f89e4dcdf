import Overseer.Error
import Overseer.Text.Quoted
import Overseer.Value

/-!
# What is wrong with a value

A value that cannot be read as what it should be has a fault, at a path of keys inside the value.

* `Found`, `Wanted` -- what was met, and what should have been there;
* `Fault` -- the causes; `Fault.message` is the wording;
* `Misfit` -- a fault and where it is; `Misfit.message` is the wording in a format.

The two formats word a misfit alike, but only one of them tells the path.
-/

namespace Overseer

/-- A format of configuration files. -/
inductive Format where
  | json
  | toml
  deriving DecidableEq, Repr

/-- What was met in place of what should have been there. -/
inductive Found where
  | null
  | boolean (value : Bool)
  | integer (value : Int)
  | float (value : Binary64)
  | text (value : String)
  | sequence
  | map
  /-- A choice that is named and brings nothing with it. -/
  | bareName
  deriving DecidableEq, Repr

/-- What should have been there. -/
inductive Wanted where
  | text
  | path
  | boolean
  | signed
  | unsigned
  | sequence
  | map
  | entry
  /-- A choice, in the format whose messages name both of its shapes. -/
  | textOrMap
  /-- A choice, in the format whose messages name one of its shapes. -/
  | textOnly
  /-- A table with one entry. -/
  | singleKey
  /-- Nothing. -/
  | nothing
  /-- A choice that brings a value with it. -/
  | payload
  deriving DecidableEq, Repr

/-- Why a value cannot be read. -/
inductive Fault where
  | wrongType (found : Found) (wanted : Wanted)
  | wrongValue (found : Found) (wanted : Wanted)
  /-- A sequence that stands for an entry ends before the required settings. -/
  | tooShort (length : Nat)
  /-- A sequence that stands for an entry goes on after the last setting. -/
  | tooLong (length : Nat)
  /-- A required setting is absent. -/
  | missing (key : String)
  /-- The name of no choice. -/
  | unknownChoice (name : String) (known : List String)
  /-- A table that stands for a choice is empty. -/
  | noChoice
  /-- A table that stands for a choice has several entries. -/
  | manyChoices
  /-- A choice that brings nothing with it was given a sequence with elements. -/
  | payloadElements
  /-- A choice that brings nothing with it was given a table with entries. -/
  | payloadEntries
  /-- A choice that brings nothing with it was given a value of some kind. -/
  | payloadKind (kind : String)
  /-- The setting itself refuses the value. -/
  | refused (error : Error)
  deriving DecidableEq, Repr

/-- A fault and the keys that lead to it. -/
structure Misfit where
  path : List String
  fault : Fault
  deriving DecidableEq, Repr

/-- A fault at the value itself. -/
instance : Coe Fault Misfit := ⟨fun fault => ⟨[], fault⟩⟩

/-- What reading a value yields. -/
abbrev Decoded (α : Type) := Except Misfit α

/-- The result of reading the value under a key. -/
def Decoded.under {α : Type} (key : String) : Decoded α → Decoded α
  | .ok a => .ok a
  | .error m => .error { m with path := key :: m.path }

/-- How messages quote what was written. -/
def ticked (text : String) : String := "`" ++ text ++ "`"

/-- The wording of a number that is not whole: one format writes great and small ones with an
exponent. -/
def Format.floatText : Format → Binary64 → String
  | .json, x => x.compactText
  | .toml, x => x.text

/-- The wording of what was met. -/
def Found.describe (format : Format) : Found → String
  | null => "null"
  | boolean b => "boolean " ++ ticked (if b then "true" else "false")
  | integer n => "integer " ++ ticked (toString n)
  | float x => "floating point " ++ ticked (format.floatText x)
  | text s => "string " ++ Text.quoted s
  | sequence => "sequence"
  | map => "map"
  | bareName => "unit variant"

/-- The wording of what should have been there. -/
def Wanted.describe : Wanted → String
  | text => "a string"
  | path => "path string"
  | boolean => "a boolean"
  | signed => "i64"
  | unsigned => "u64"
  | sequence => "a sequence"
  | map => "a map"
  | entry => "struct ProcessConfig"
  | textOrMap => "string or map"
  | textOnly => "string only"
  | singleKey => "map with a single key"
  | nothing => "unit"
  | payload => "newtype variant"

/-- The wording of a fault. -/
def Fault.message (format : Format) : Fault → String
  | wrongType found wanted =>
    s!"invalid type: {found.describe format}, expected {wanted.describe}"
  | wrongValue found wanted =>
    s!"invalid value: {found.describe format}, expected {wanted.describe}"
  | tooShort length =>
    s!"invalid length {length}, expected struct ProcessConfig with 11 elements"
  | tooLong length => s!"invalid length {length}, expected fewer elements in array"
  | missing key => "missing field " ++ ticked key
  | unknownChoice name known =>
    "unknown variant " ++ ticked name ++ ", expected one of " ++
      ", ".intercalate (known.map ticked)
  | noChoice => "wanted exactly 1 element, found 0 elements"
  | manyChoices => "wanted exactly 1 element, more than 1 element"
  | payloadElements => "expected empty array"
  | payloadEntries => "expected empty table"
  | payloadKind kind => s!"expected table, found {kind}"
  | refused error => error.message

/-- The wording of a misfit. -/
def Misfit.message (m : Misfit) : Format → String
  | .json => m.fault.message .json
  | .toml =>
    m.fault.message .toml ++ "\n" ++
      if m.path.isEmpty then "" else "in " ++ ticked (".".intercalate m.path) ++ "\n"

end Overseer
