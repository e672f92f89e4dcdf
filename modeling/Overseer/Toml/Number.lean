import Overseer.Reader
import Overseer.Value

/-!
# TOML: numbers, dates and times

`Toml.number` reads whatever begins with a digit or a sign: a date or a time, a floating-point
number, or a whole number in base ten, two, eight or sixteen.  Whole numbers have 64 bits with a
sign.  A floating-point number beyond the greatest is an error if it is positive.
`Toml.momentOf?` reads a date or a time that is given as a text.
-/

namespace Overseer.Toml

open Reader

/-- A digit and more digits, between any two of which an underscore may stand. -/
def grouped (p : Char → Bool) : Reader (List Char) := do
  let first ← one p
  iterate (fun sofar => do
    if ← skip? ['_'] then
      let c ← one p
      pure (.again (c :: sofar))
    else
      match ← attempt (one p) with
      | some c => pure (.again (c :: sofar))
      | none => pure (.done sofar.reverse)) [first]

/-- A sign, if there is one; tells whether it is a minus. -/
def sign : Reader Bool := do
  if ← skip? ['-'] then pure true
  else
    let _ ← skip? ['+']
    pure false

/-- The digits of a decimal number: a nought stands alone. -/
def decimalDigits : Reader (List Char) := do
  if ← skip? ['0'] then pure ['0'] else grouped isDigit

/-- A whole number in 64 bits with a sign. -/
def inRange (n : Int) : Reader Value :=
  if Int64.minValue.toInt ≤ n && n ≤ Int64.maxValue.toInt then pure (.integer n) else failure

/-- A whole number in a base that is a power of two. -/
def based (mark : Char) (base : Nat) (p : Char → Bool) : Reader Value := do
  literal ['0', mark]
  let digits ← grouped p
  inRange (digitsValue base digits)

/-- A whole number. -/
def whole : Reader Value :=
  based 'x' 16 isHexDigit <|>
  based 'o' 8 (fun c => '0' ≤ c && c ≤ '7') <|>
  based 'b' 2 (fun c => c == '0' || c == '1') <|> do
    let negative ← sign
    let n := digitsValue 10 (← decimalDigits)
    inRange (if negative then -n else n)

/-- The exponent of a floating-point number. -/
def exponent : Reader Int := do
  let _ ← one fun c => c == 'e' || c == 'E'
  let negative ← sign
  let n := digitsValue 10 (← grouped isDigit)
  pure (if negative then -n else n)

/-- A floating-point number in digits. -/
def floating : Reader Value := do
  let negative ← sign
  let digits ← decimalDigits
  let places ← if ← skip? ['.'] then grouped isDigit else pure []
  let e ← if places.isEmpty then some <$> exponent else attempt exponent
  let x := Binary64.ofDecimal negative (digitsValue 10 (digits ++ places))
    (e.getD 0 - places.length)
  if x = .infinite false then failure else pure (.float x)

/-- Infinity, or no number at all. -/
def special : Reader Value := do
  let negative ← sign
  if ← skip? ['i', 'n', 'f'] then pure (.float (.infinite negative))
  else
    literal ['n', 'a', 'n']
    pure (.float .nan)

/-- A number of so many digits between two bounds. -/
def bounded (digits low high : Nat) : Reader Nat := do
  let n := digitsValue 10 (← exactly isDigit digits)
  if low ≤ n && n ≤ high then pure n else failure

/-- The days of a month. -/
def daysIn (year month : Nat) : Nat :=
  match month with
  | 2 => if year % 4 = 0 && (year % 100 != 0 || year % 400 = 0) then 29 else 28
  | 4 | 6 | 9 | 11 => 30
  | _ => 31

/-- A date. -/
def date : Reader Date := do
  let year ← bounded 4 0 9999
  literal ['-']
  let month ← bounded 2 1 12
  literal ['-']
  let day ← bounded 2 1 31
  if day ≤ daysIn year month then pure ⟨year, month, day⟩ else failure

/-- The places of a second, of which nine count. -/
def places : Reader Nat := do
  literal ['.']
  let digits ← span1 isDigit
  let counted := digits.take 9
  pure (digitsValue 10 counted * Nat.pow 10 (9 - counted.length))

/-- A time of day up to some hour.  A minute may have a sixty-first second. -/
def timeOfDay (lastHour : Nat) : Reader TimeOfDay := do
  let hour ← bounded 2 0 lastHour
  literal [':']
  let minute ← bounded 2 0 59
  literal [':']
  let second ← bounded 2 0 60
  let nanosecond := (← attempt places).getD 0
  pure ⟨hour, minute, second, nanosecond⟩

/-- An offset from the universal time. -/
def offset : Reader Offset := do
  match ← next with
  | 'Z' | 'z' => pure .universal
  | '+' => minutes 1
  | '-' => minutes (-1)
  | _ => failure
where
  minutes (direction : Int) : Reader Offset := do
    let hour ← bounded 2 0 23
    literal [':']
    let minute ← bounded 2 0 59
    pure (.minutes (direction * (hour * 60 + minute)))

/-- The time of day after a date, and its offset. -/
def timeAfterDate : Reader (TimeOfDay × Option Offset) := do
  let _ ← one fun c => c == 'T' || c == 't' || c == ' '
  let time ← timeOfDay 23
  let offset ← attempt offset
  pure (time, offset)

/-- A date, a date and a time of day, or a time of day. -/
def dateTime : Reader Value :=
  (do
    let date ← date
    let time ← attempt timeAfterDate
    pure (.dateTime ⟨some date, time.map (·.1), time.bind (·.2)⟩)) <|>
  (do
    let time ← timeOfDay 23
    pure (.dateTime ⟨none, some time, none⟩))

/-- An offset of at most a day, in hours and any minutes of two digits. -/
def wideOffset : Reader Offset := do
  match ← next with
  | 'Z' | 'z' => pure .universal
  | '+' => minutes 1
  | '-' => minutes (-1)
  | _ => failure
where
  minutes (direction : Int) : Reader Offset := do
    let hour ← bounded 2 0 99
    literal [':']
    let minute ← bounded 2 0 99
    let total := hour * 60 + minute
    if total ≤ 24 * 60 then pure (.minutes (direction * total)) else failure

/-- A moment that is given as a text.  It is told as in a file, but that an hour may be the
twenty-fourth and an offset a whole day. -/
def moment : Reader DateTime :=
  (do
    let date ← date
    match ← attempt (one fun c => c == 'T' || c == 't' || c == ' ') with
    | none => pure ⟨some date, none, none⟩
    | some _ => do
      let time ← timeOfDay 24
      let offset ← if ← finished then pure none else some <$> wideOffset
      pure ⟨some date, some time, offset⟩) <|>
  (do
    let time ← timeOfDay 24
    pure ⟨none, some time, none⟩)

/-- The moment that a text tells. -/
def momentOf? (text : String) : Option DateTime := all moment text.toList

/-- Whatever begins with a digit or a sign. -/
def number : Reader Value := dateTime <|> floating <|> special <|> whole

end Overseer.Toml
