import Overseer.Reader

/-!
# Sums

`Sum.value?` works out an expression over whole numbers, with variables, parentheses and the usual
operators; the whole expression may set a variable.  Numbers have sixty-four bits, truth is one and
falsehood zero.
-/

namespace Overseer.Sum

open Reader

/-- A number in the range that numbers have. -/
def wrap (n : Int) : Int := (Int64.ofInt n).toInt

/-- The number that tells whether something holds. -/
def truth (b : Bool) : Int := if b then 1 else 0

/-- The bits of a number, from the result of an operation on bits. -/
def onBits (f : UInt64 → UInt64 → UInt64) (a b : Int) : Int :=
  (f (Int64.ofInt a).toUInt64 (Int64.ofInt b).toUInt64).toInt64.toInt

/-- What an operator makes of two numbers; there is no quotient by zero. -/
def apply (op : String) (a b : Int) : Option Int :=
  match op with
  | "||" => some (truth (a != 0 || b != 0))
  | "&&" => some (truth (a != 0 && b != 0))
  | "|" => some (onBits (· ||| ·) a b)
  | "^" => some (onBits (· ^^^ ·) a b)
  | "&" => some (onBits (· &&& ·) a b)
  | "==" => some (truth (a == b))
  | "!=" => some (truth (a != b))
  | "<=" => some (truth (a ≤ b))
  | ">=" => some (truth (b ≤ a))
  | "<" => some (truth (a < b))
  | ">" => some (truth (b < a))
  | "<<" => some (onBits (· <<< ·) a b)
  | ">>" => some ((Int64.ofInt a >>> Int64.ofInt b).toInt)
  | "+" => some (wrap (a + b))
  | "-" => some (wrap (a - b))
  | "*" => some (wrap (a * b))
  | "/" => if b = 0 then none else some (wrap (Int.tdiv a b))
  | "%" => if b = 0 then none else some (wrap (Int.tmod a b))
  | _ => none

/-- The operators, from the loosest to the tightest; where one begins with another, it comes
first. -/
def levels : List (List String) := [
  ["||"], ["&&"], ["|"], ["^"], ["&"], ["==", "!="], ["<=", ">=", "<", ">"], ["<<", ">>"],
  ["+", "-"], ["*", "/", "%"]]

/-- Operators that only look like the beginning of another one. -/
def lookalikes : List (String × Char) := [("|", '|'), ("&", '&'), ("<", '<'), (">", '>')]

/-- Skips blanks. -/
def blanks : Reader Unit := do
  let _ ← span fun c => c == ' ' || c == '\t' || c == '\n'
  pure ()

/-- One of some operators. -/
def operator : List String → Reader String
  | [] => failure
  | op :: rest => do
    let found ← attempt do
      literal op.toList
      let following ← peek?
      if following.any fun c => lookalikes.contains (op, c) then failure
    match found with
    | some _ => pure op
    | none => operator rest

/-- A number in base ten, eight or sixteen. -/
def number : Reader Int := do
  if (← skip? ['0', 'x']) || (← skip? ['0', 'X']) then
    let digits ← span1 isHexDigit
    pure (wrap (digitsValue 16 digits))
  else
    match ← peek? with
    | some '0' => do
      let digits ← span1 fun c => '0' ≤ c && c ≤ '7'
      pure (wrap (digitsValue 8 digits))
    | _ => do
      let digits ← span1 isDigit
      pure (wrap (digitsValue 10 digits))

/-- A number with its sign, and nothing else but blanks. -/
def constant : Reader Int := do
  blanks
  let negative ← skip? ['-']
  let n ← number
  blanks
  pure (if negative then -n else n)

/-- The value of a variable; one that is empty counts as zero. -/
def variableValue (lookup : String → String) (name : String) : Option Int :=
  match lookup name with
  | "" => some 0
  | text => all constant text.toList

/-- The name of a variable. -/
def name : Reader String := do
  let isLetter (c : Char) : Bool := c.isAlpha || c == '_'
  let c ← one isLetter
  let rest ← span fun c => isLetter c || isDigit c
  pure (String.ofList (c :: rest))

mutual

/-- An expression that nests at most so deep, with operators of the given levels. -/
def expression (lookup : String → String) : Nat → List (List String) → Reader Int
  | 0, _ => failure
  | depth + 1, [] => operand lookup depth
  | depth + 1, ops :: tighter => do
    let first ← expression lookup depth tighter
    iterate (fun sofar => do
      blanks
      match ← attempt (operator ops) with
      | none => pure (.done sofar)
      | some op => do
        let second ← expression lookup depth tighter
        match apply op sofar second with
        | some n => pure (.again n)
        | none => failure) first

/-- A choice, or an expression without one. -/
def choice (lookup : String → String) : Nat → Reader Int
  | 0 => failure
  | depth + 1 => do
    let condition ← expression lookup depth levels
    blanks
    if ← skip? ['?'] then do
      let a ← choice lookup depth
      blanks
      literal [':']
      let b ← choice lookup depth
      pure (if condition != 0 then a else b)
    else pure condition

/-- A number, a variable, something in parentheses, or a sign before one of these. -/
def operand (lookup : String → String) : Nat → Reader Int
  | 0 => failure
  | depth + 1 => do
    blanks
    if ← skip? ['('] then do
      let n ← choice lookup depth
      blanks
      literal [')']
      pure n
    else if ← skip? ['-'] then do
      let n ← operand lookup depth
      pure (wrap (-n))
    else if ← skip? ['+'] then operand lookup depth
    else if ← skip? ['!'] then do
      let n ← operand lookup depth
      pure (truth (n == 0))
    else if ← skip? ['~'] then do
      let n ← operand lookup depth
      pure (wrap (-n - 1))
    else
      match ← attempt name with
      | none => number
      | some variableName =>
        match variableValue lookup variableName with
        | some n => pure n
        | none => failure

end

/-- How deep expressions nest. -/
def maxDepth : Nat := 200

/-- The operators that assign, with the operator each of them applies first. -/
def assigners : List (String × Option String) := [("=", none), ("+=", some "+"), ("-=", some "-"),
  ("*=", some "*"), ("/=", some "/"), ("%=", some "%"), ("<<=", some "<<"), (">>=", some ">>"),
  ("&=", some "&"), ("^=", some "^"), ("|=", some "|")]

/-- One of the operators that assign. -/
def assigner : List (String × Option String) → Reader (Option String)
  | [] => failure
  | (text, op) :: rest => do
    if ← skip? text.toList then
      match ← peek? with
      | some '=' => failure
      | _ => pure op
    else assigner rest

/-- The value of an expression, and the variable that is set to it if it is an assignment; nothing
at all counts as zero. -/
def value? (lookup : String → String) (text : List Char) : Option (Int × Option String) :=
  all (do
    blanks
    if ← finished then pure (0, none)
    else do
      let target ← attempt (do
        let target ← name
        blanks
        let op ← assigner assigners
        pure (target, op))
      let n ← choice lookup maxDepth
      blanks
      match target with
      | none => pure (n, none)
      | some (target, none) => pure (n, some target)
      | some (target, some op) =>
        match (variableValue lookup target).bind fun old => apply op old n with
        | some result => pure (result, some target)
        | none => failure) text

end Overseer.Sum
