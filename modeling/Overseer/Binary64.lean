/-!
# Binary floating-point numbers

The numbers of the 64-bit binary format, as exact values, with the operations that reading and
writing them needs.  No machine arithmetic is involved.

* `Binary64.round` -- the nearest number to a quotient times a power of two, ties going to the even
  neighbour;
* `Binary64.ofDecimal` -- the nearest number to a decimal;
* `Binary64.mul`, `Binary64.div` -- rounded product and quotient;
* `Binary64.shortest` -- the fewest digits that read back, and of these the nearest;
* `Binary64.text` -- those digits in positional notation, always with a decimal point.
-/

namespace Overseer

/-- A number of the 64-bit binary format. -/
inductive Binary64 where
  /-- The significand times two to the exponent. -/
  | finite (negative : Bool) (significand : Nat) (exponent : Int)
  | infinite (negative : Bool)
  | nan
  deriving DecidableEq, Repr

namespace Binary64

/-- The exponent of the least positive number. -/
def minExponent : Int := -1074

/-- The exponent of the greatest finite number. -/
def maxExponent : Int := 971

/-- Significands are below this. -/
def significandLimit : Nat := Nat.pow 2 53

/-- The nearest whole number to a quotient; of two, the even one. -/
def nearestEven (num den : Nat) : Nat :=
  let q := num / den
  let r := num % den
  if 2 * r < den then q
  else if 2 * r = den then q + q % 2
  else q + 1

/-- A quotient divided by a power of two, as numerator and denominator. -/
def scaled (num den : Nat) (exponent : Int) : Nat × Nat :=
  (num * Nat.pow 2 (-exponent).toNat, den * Nat.pow 2 exponent.toNat)

/-- The number nearest to `num / den * 2 ^ exponent`; `den` is positive. -/
def round (negative : Bool) (num den : Nat) (exponent : Int) : Binary64 :=
  if num = 0 then finite negative 0 minExponent
  else
    let (num, den) := scaled num den (-exponent)
    let guess := max ((num.log2 : Int) - den.log2 - 53) minExponent
    let (n, d) := scaled num den guess
    let e := if significandLimit ≤ n / d then guess + 1 else guess
    let (n, d) := scaled num den e
    let m := nearestEven n d
    let (m, e) := if m = significandLimit then (m / 2, e + 1) else (m, e)
    if maxExponent < e then infinite negative else finite negative m e

/-- The number nearest to a whole number. -/
def ofNat (n : Nat) : Binary64 := round false n 1 0

/-- Decimals of more than this many places before the point are infinite, and decimals with more
noughts than this after the point are zero. -/
def decimalRange : Nat := 400

/-- The number nearest to `significand * 10 ^ exponent`. -/
def ofDecimal (negative : Bool) (significand : Nat) (exponent : Int) : Binary64 :=
  let places := ((Nat.toDigits 10 significand).length : Int) + exponent
  if significand = 0 then finite negative 0 minExponent
  else if decimalRange < places then infinite negative
  else if places < -decimalRange then finite negative 0 minExponent
  else
    round negative (significand * Nat.pow 10 exponent.toNat) (Nat.pow 10 (-exponent).toNat) 0

/-- The number nearest to a power of ten. -/
def powerOfTen (k : Nat) : Binary64 := round false (Nat.pow 10 k) 1 0

/-- The number of the other sign. -/
def neg : Binary64 → Binary64
  | finite negative m e => finite (!negative) m e
  | infinite negative => infinite (!negative)
  | nan => nan

/-- The product of two finite numbers, rounded. -/
def mul : Binary64 → Binary64 → Binary64
  | finite s m e, finite s' m' e' => round (s != s') (m * m') 1 (e + e')
  | _, _ => nan

/-- The quotient of two finite numbers, rounded. -/
def div : Binary64 → Binary64 → Binary64
  | finite s m e, finite s' m' e' =>
    if m' = 0 then nan else round (s != s') m m' (e - e')
  | _, _ => nan

/-- Whether a number is zero, of either sign. -/
def isZero : Binary64 → Bool
  | finite _ 0 _ => true
  | _ => false

/-- Whether a number is infinite, of either sign. -/
def isInfinite : Binary64 → Bool
  | infinite _ => true
  | _ => false

/-- The multiples of `10 ^ k` next to a number, if they read back as that number; the nearer of
two.  The number and the ends of the interval that rounds to it are given in quarters of its last
binary place. -/
def onGrid (m : Nat) (e : Int) (k : Int) : Option Nat :=
  let below := if 2 * m = significandLimit && minExponent < e then 1 else 2
  let scale := Nat.pow 2 (e - 2).toNat * Nat.pow 10 (-k).toNat
  let unit := Nat.pow 2 (2 - e).toNat * Nat.pow 10 k.toNat
  let low := (4 * m - below) * scale
  let high := (4 * m + 2) * scale
  let value := 4 * m * scale
  let inside := fun c : Nat =>
    if m % 2 = 0 then low ≤ c * unit && c * unit ≤ high else low < c * unit && c * unit < high
  let floor := value / unit
  match inside floor && floor != 0, inside (floor + 1) with
  | true, true => if 2 * (value - floor * unit) < unit then some floor else some (floor + 1)
  | true, false => some floor
  | false, true => some (floor + 1)
  | false, false => none

/-- Tries finer and finer grids. -/
def firstGrid (m : Nat) (e : Int) : Nat → Int → Nat × Int
  | 0, k => (0, k)
  | tries + 1, k =>
    match onGrid m e k with
    | some digits => (digits, k)
    | none => firstGrid m e tries (k - 1)

/-- The fewest digits that read back as `m * 2 ^ e`, and the power of ten of the last one. -/
def shortest (m : Nat) (e : Int) : Nat × Int :=
  firstGrid m e 25 (((m.log2 : Int) + e) * 30103 / 100000 + 2)

/-- Digits and a power of ten in positional notation, with at least one digit on either side of the
point. -/
def positional (digits : Nat) (exponent : Int) : String :=
  let text := Nat.toDigits 10 digits
  if 0 ≤ exponent then
    String.ofList (text ++ List.replicate exponent.toNat '0' ++ ['.', '0'])
  else
    let places := (-exponent).toNat
    let padded := List.replicate (places + 1 - text.length) '0' ++ text
    let whole := padded.length - places
    String.ofList (padded.take whole ++ '.' :: padded.drop whole)

/-- A number in positional notation. -/
def text : Binary64 → String
  | nan => "NaN"
  | infinite negative => if negative then "-inf" else "inf"
  | finite negative m e =>
    let (digits, k) := if m = 0 then (0, 0) else shortest m e
    (if negative then "-" else "") ++ positional digits k

/-- Digits and a power of ten with one digit before the point and an exponent with its sign. -/
def scientific (digits : Nat) (exponent : Int) : String :=
  match Nat.toDigits 10 digits with
  | [] => ""
  | first :: rest =>
    let places := if rest.isEmpty then [] else '.' :: rest
    let power := exponent + rest.length
    String.ofList (first :: places) ++ (if power < 0 then s!"e{power}" else s!"e+{power}")

/-- A number in positional notation if it is neither great nor small, and with an exponent
otherwise: positional numbers are below `10 ^ 16` and not below `10 ^ (-5)`. -/
def compactText : Binary64 → String
  | nan => "NaN"
  | infinite negative => if negative then "-inf" else "inf"
  | finite negative m e =>
    let (digits, k) := if m = 0 then (0, 0) else shortest m e
    let point := (Nat.toDigits 10 digits).length + k
    (if negative then "-" else "") ++
      if -5 < point && point ≤ 16 then positional digits k else scientific digits k

end Binary64

end Overseer
