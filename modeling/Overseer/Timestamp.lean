/-!
# Moments of the calendar

A timestamp counts seconds from the beginning of the year 1970.  `Timestamp.date` finds the year,
month and day of the proleptic Gregorian calendar, `Timestamp.text` writes a date and a time of
day.
-/

namespace Overseer

/-- A count of seconds from the beginning of 1970. -/
structure Timestamp where
  seconds : Nat
  deriving DecidableEq, Repr

namespace Timestamp

/-- Year, month and day.  Years are counted from March, so that the day that comes and goes is the
last of its year; an era is the four hundred years after which the calendar repeats. -/
def date (t : Timestamp) : Nat × Nat × Nat :=
  let days := t.seconds / 86400 + 719468
  let era := days / 146097
  let dayOfEra := days % 146097
  let yearOfEra := (dayOfEra - dayOfEra / 1460 + dayOfEra / 36524 - dayOfEra / 146096) / 365
  let dayOfYear := dayOfEra - (365 * yearOfEra + yearOfEra / 4 - yearOfEra / 100)
  let monthFromMarch := (5 * dayOfYear + 2) / 153
  let day := dayOfYear - (153 * monthFromMarch + 2) / 5 + 1
  let month := if monthFromMarch < 10 then monthFromMarch + 3 else monthFromMarch - 9
  let year := yearOfEra + era * 400 + if month ≤ 2 then 1 else 0
  (year, month, day)

/-- A number with at least the given count of digits. -/
def padded (width n : Nat) : String :=
  let digits := toString n
  String.ofList (List.replicate (width - digits.length) '0') ++ digits

/-- The time of day. -/
def clock (t : Timestamp) : String :=
  let s := t.seconds % 86400
  s!"{padded 2 (s / 3600)}:{padded 2 (s / 60 % 60)}:{padded 2 (s % 60)}"

/-- Date and time of day. -/
def text (t : Timestamp) : String :=
  let (year, month, day) := t.date
  s!"{padded 4 year}-{padded 2 month}-{padded 2 day} {t.clock}"

end Timestamp

end Overseer
