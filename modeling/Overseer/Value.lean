import Overseer.Binary64
import Overseer.Keyed

/-!
# Values of configuration files

`Value` is the tree that a file of either format holds.  A table lists its entries in ascending
order of their names.  `DateTime` is a moment as written in a file; to whoever reads the value it is
a text, `DateTime.text`.
-/

namespace Overseer

/-- A date. -/
structure Date where
  year : Nat
  month : Nat
  day : Nat
  deriving DecidableEq, Repr

/-- A time of day. -/
structure TimeOfDay where
  hour : Nat
  minute : Nat
  second : Nat
  nanosecond : Nat
  deriving DecidableEq, Repr

/-- The distance of a time of day from the universal time. -/
inductive Offset where
  | universal
  /-- The distance in minutes. -/
  | minutes (minutes : Int)
  deriving DecidableEq, Repr

/-- A date, a time of day, or both, with or without an offset. -/
structure DateTime where
  date : Option Date
  time : Option TimeOfDay
  offset : Option Offset
  deriving DecidableEq, Repr

/-- A number with at least the given count of digits. -/
def paddedDigits (width n : Nat) : String :=
  let digits := Nat.toDigits 10 n
  String.ofList (List.replicate (width - digits.length) '0' ++ digits)

/-- A date as it is written. -/
def Date.text (d : Date) : String :=
  s!"{paddedDigits 4 d.year}-{paddedDigits 2 d.month}-{paddedDigits 2 d.day}"

/-- A time of day as it is written, with as many places of the second as are needed. -/
def TimeOfDay.text (t : TimeOfDay) : String :=
  let clock := s!"{paddedDigits 2 t.hour}:{paddedDigits 2 t.minute}:{paddedDigits 2 t.second}"
  if t.nanosecond = 0 then clock
  else
    let places := (paddedDigits 9 t.nanosecond).toList.reverse.dropWhile (· == '0')
    clock ++ "." ++ String.ofList places.reverse

/-- An offset as it is written. -/
def Offset.text : Offset → String
  | universal => "Z"
  | minutes m =>
    let sign := if m < 0 then "-" else "+"
    s!"{sign}{paddedDigits 2 (m.natAbs / 60)}:{paddedDigits 2 (m.natAbs % 60)}"

/-- A moment as it is written. -/
def DateTime.text (t : DateTime) : String :=
  let date := (t.date.map Date.text).getD ""
  let between := if t.date.isSome && t.time.isSome then "T" else ""
  let time := (t.time.map TimeOfDay.text).getD ""
  date ++ between ++ time ++ (t.offset.map Offset.text).getD ""

/-- A value of a configuration file. -/
inductive Value where
  | null
  | boolean (value : Bool)
  | integer (value : Int)
  | float (value : Binary64)
  | text (value : String)
  | dateTime (value : DateTime)
  | sequence (items : List Value)
  /-- Entries in ascending order of their names. -/
  | table (entries : List (String × Value))
  deriving Repr

instance : Inhabited Value := ⟨.null⟩

end Overseer
