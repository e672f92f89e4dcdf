import Overseer.Reader
import Overseer.Value

/-!
# JSON

`Json.read` reads a JSON text.  Of two entries of an object with one name the last counts.
Containers nest at most `Json.maxDepth` deep.  A number is whole if it is written without a point
and an exponent and fits in 64 bits, signed or unsigned; minus nought is not whole.  Any other
number is the nearest one of its significant digits, multiplied or divided by the nearest one of a
power of ten (`Json.scale`); a number beyond the greatest is an error.
-/

namespace Overseer.Json

open Reader

/-- How deep containers nest. -/
def maxDepth : Nat := 127

/-- The greatest unsigned whole number. -/
def maxWhole : Nat := 18446744073709551615

/-- The greatest power of ten that is multiplied or divided by at once. -/
def maxPower : Nat := 308

/-- The greatest exponent that is taken as written. -/
def maxExponent : Nat := 2147483647

/-- Blanks between the parts. -/
def isBlank (c : Char) : Bool := c == ' ' || c == '\n' || c == '\t' || c == '\r'

/-- Skips blanks. -/
def blanks : Reader Unit := do
  let _ ← span isBlank
  pure ()

/-- A UTF-16 unit in four hexadecimal digits. -/
def unit : Reader Nat := do
  let digits ← exactly isHexDigit 4
  pure (digitsValue 16 digits)

/-- The character after `\u`: one unit, or a leading and a trailing surrogate. -/
def unicodeEscape : Reader Char := do
  let first ← unit
  if 0xd800 ≤ first && first < 0xdc00 then
    literal ['\\', 'u']
    let second ← unit
    if 0xdc00 ≤ second && second < 0xe000 then
      pure (Char.ofNat (0x10000 + (first - 0xd800) * 0x400 + (second - 0xdc00)))
    else failure
  else
    match charOfCode? first with
    | some c => pure c
    | none => failure

/-- The character after a backslash. -/
def escape : Reader Char := do
  match ← next with
  | '"' => pure '"'
  | '\\' => pure '\\'
  | '/' => pure '/'
  | 'b' => pure '\x08'
  | 'f' => pure '\x0c'
  | 'n' => pure '\n'
  | 'r' => pure '\r'
  | 't' => pure '\t'
  | 'u' => unicodeEscape
  | _ => failure

/-- One character of a string, or its end.  The characters so far are kept in reverse. -/
def stringStep (sofar : List Char) : Reader (Loop (List Char) String) := do
  let c ← next
  if c == '"' then pure (.done (String.ofList sofar.reverse))
  else if c == '\\' then
    let c ← escape
    pure (.again (c :: sofar))
  else if c.toNat < 0x20 then failure
  else pure (.again (c :: sofar))

/-- A string after its opening quote. -/
def stringRest : Reader String := iterate stringStep []

/-- Divides by the greatest power of ten until the exponent is in reach; then scales once. -/
def scaleWithin : Nat → Binary64 → Int → Option Binary64
  | 0, x, _ => some x
  | bound + 1, x, exponent =>
    if exponent.natAbs ≤ maxPower then
      if 0 ≤ exponent then
        let scaled := x.mul (.powerOfTen exponent.natAbs)
        if scaled.isInfinite then none else some scaled
      else some (x.div (.powerOfTen exponent.natAbs))
    else if x.isZero then some x
    else if 0 ≤ exponent then none
    else scaleWithin bound (x.div (.powerOfTen maxPower)) (exponent + maxPower)

/-- The number of some significant digits and a power of ten. -/
def scale (significand : Nat) (exponent : Int) : Option Binary64 :=
  scaleWithin 4 (.ofNat significand) exponent

/-- Digits are significant while the number they make is at most `maxWhole`. -/
def accumulate (significand : Nat) : List Char → Nat × List Char
  | [] => (significand, [])
  | c :: rest =>
    let more := 10 * significand + digitValue c
    if maxWhole < more then (significand, c :: rest) else accumulate more rest

/-- A number that is not whole, from its digits before and after the point and its exponent. -/
def fractional (negative : Bool) (whole places : List Char) (exponent : Option (Bool × Nat)) :
    Option Binary64 :=
  let (significand, ignored) := accumulate 0 whole
  let (significand, rest) := accumulate significand places
  let written : Int := ignored.length - (places.length - rest.length : Nat)
  let result :=
    match exponent with
    | none => scale significand written
    | some (down, e) =>
      if maxExponent < e then
        if significand != 0 && !down then none else some (.ofNat 0)
      else scale significand (if down then written - e else written + e)
  result.map fun x => if negative then x.neg else x

/-- A number without point and exponent. -/
def whole (negative : Bool) (digits : List Char) : Option Value :=
  let n := digitsValue 10 digits
  if !negative && n ≤ maxWhole then some (.integer n)
  else if negative && n != 0 && Int64.minValue.toInt ≤ -n then some (.integer (-n))
  else (fractional negative digits [] none).map .float

/-- The digits before the point: a nought stands alone. -/
def wholeDigits : Reader (List Char) := do
  let c ← one isDigit
  if c == '0' then
    match ← peek? with
    | some d => if isDigit d then failure else pure ['0']
    | none => pure ['0']
  else
    let rest ← span isDigit
    pure (c :: rest)

/-- The exponent after its letter: whether it is negative, and its digits. -/
def exponentRest : Reader (Bool × Nat) := do
  let down ← skip? ['-']
  if !down then
    let _ ← skip? ['+']
  let digits ← span1 isDigit
  pure (down, digitsValue 10 digits)

/-- A number. -/
def number : Reader Value := do
  let negative ← skip? ['-']
  let digits ← wholeDigits
  let point ← skip? ['.']
  let places ← if point then span1 isDigit else pure []
  let marked ← attempt (one fun c => c == 'e' || c == 'E')
  let exponent ← if marked.isSome then some <$> exponentRest else pure none
  let value :=
    if point || exponent.isSome then (fractional negative digits places exponent).map .float
    else whole negative digits
  match value with
  | some value => pure value
  | none => failure

/-- One element of an array and what follows it: a comma or the end. -/
def arrayStep (item : Reader Value) (sofar : List Value) : Reader (Loop (List Value) Value) := do
  let value ← item
  blanks
  match ← next with
  | ',' => pure (.again (value :: sofar))
  | ']' => pure (.done (.sequence (value :: sofar).reverse))
  | _ => failure

/-- An array after its opening bracket. -/
def arrayRest (item : Reader Value) : Reader Value := do
  blanks
  if ← skip? [']'] then pure (.sequence [])
  else iterate (arrayStep item) []

/-- One entry of an object and what follows it: a comma or the end. -/
def objectStep (item : Reader Value) (sofar : List (String × Value)) :
    Reader (Loop (List (String × Value)) Value) := do
  blanks
  literal ['"']
  let name ← stringRest
  blanks
  literal [':']
  let value ← item
  blanks
  let entries := Keyed.put name value sofar
  match ← next with
  | ',' => pure (.again entries)
  | '\x7d' => pure (.done (.table entries))
  | _ => failure

/-- An object after its opening brace. -/
def objectRest (item : Reader Value) : Reader Value := do
  blanks
  if ← skip? ['\x7d'] then pure (.table [])
  else iterate (objectStep item) []

/-- A value that is no container. -/
def scalar : Reader Value := do
  match ← peek? with
  | some '"' => do
    let _ ← next
    .text <$> stringRest
  | some 't' => do
    literal ['t', 'r', 'u', 'e']
    pure (.boolean true)
  | some 'f' => do
    literal ['f', 'a', 'l', 's', 'e']
    pure (.boolean false)
  | some 'n' => do
    literal ['n', 'u', 'l', 'l']
    pure .null
  | _ => number

/-- A value whose containers nest at most so deep. -/
def value : Nat → Reader Value
  | 0 => do
    blanks
    scalar
  | depth + 1 => do
    blanks
    match ← peek? with
    | some '[' => do
      let _ ← next
      arrayRest (value depth)
    | some '\x7b' => do
      let _ ← next
      objectRest (value depth)
    | _ => scalar

/-- A whole text: one value between blanks. -/
def document : Reader Value := do
  let v ← value maxDepth
  blanks
  pure v

/-- Reads a JSON text. -/
def read (text : String) : Option Value := all document text.toList

end Overseer.Json
