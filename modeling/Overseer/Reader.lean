/-!
# Readers

A reader takes what it understands off the front of a list of characters, or fails.

* `Reader.next`, `Reader.peek?`, `Reader.literal`, `Reader.span` -- the small readers;
* `Reader.iterate` -- a loop that ends when its step says so; every further step takes at least one
  character, so the number of characters bounds the loop;
* `Reader.all` -- a reader that has to understand the whole text.
-/

namespace Overseer

/-- Reads a value off the front of a list of characters. -/
abbrev Reader := StateT (List Char) Option

/-- What one step of a loop says. -/
inductive Loop (α β : Type) where
  | again (state : α)
  | done (result : β)

namespace Reader

variable {α β : Type}

/-- The next character. -/
def next : Reader Char
  | [] => none
  | c :: rest => some (c, rest)

/-- The next character, which stays. -/
def peek? : Reader (Option Char) := fun cs => some (cs.head?, cs)

/-- Nothing is left. -/
def finished : Reader Bool := fun cs => some (cs.isEmpty, cs)

/-- The given characters. -/
def literal (expected : List Char) : Reader Unit := fun cs =>
  if expected.isPrefixOf cs then some ((), cs.drop expected.length) else none

/-- The given characters, if they are next; tells whether they were. -/
def skip? (expected : List Char) : Reader Bool := fun cs =>
  if expected.isPrefixOf cs then some (true, cs.drop expected.length) else some (false, cs)

/-- As many characters of a class as there are. -/
def span (p : Char → Bool) : Reader (List Char) := fun cs => some (cs.span p)

/-- One character of a class. -/
def one (p : Char → Bool) : Reader Char := do
  let c ← next
  if p c then pure c else failure

/-- At least one character of a class. -/
def span1 (p : Char → Bool) : Reader (List Char) := do
  let c ← one p
  let rest ← span p
  pure (c :: rest)

/-- Exactly so many characters of a class. -/
def exactly (p : Char → Bool) : Nat → Reader (List Char)
  | 0 => pure []
  | n + 1 => do
    let c ← one p
    let rest ← exactly p n
    pure (c :: rest)

/-- What a reader reads, if it succeeds; otherwise nothing is taken. -/
def attempt (reader : Reader α) : Reader (Option α) := fun cs =>
  match reader cs with
  | some (a, rest) => some (some a, rest)
  | none => some (none, cs)

/-- At most `bound` steps of a loop. -/
def iterateWithin (step : α → Reader (Loop α β)) : Nat → α → Reader β
  | 0, _ => failure
  | bound + 1, state => do
    match ← step state with
    | .again state => iterateWithin step bound state
    | .done result => pure result

/-- A loop whose every step but the last takes at least one character. -/
def iterate (step : α → Reader (Loop α β)) (state : α) : Reader β := fun cs =>
  iterateWithin step (cs.length + 1) state cs

/-- Reads a whole text. -/
def all (reader : Reader α) (text : List Char) : Option α :=
  match reader text with
  | some (a, []) => some a
  | _ => none

end Reader

/-- A decimal digit. -/
def isDigit (c : Char) : Bool := '0' ≤ c && c ≤ '9'

/-- A hexadecimal digit of either case. -/
def isHexDigit (c : Char) : Bool :=
  isDigit c || ('a' ≤ c && c ≤ 'f') || ('A' ≤ c && c ≤ 'F')

/-- The value of a digit in any base up to sixteen. -/
def digitValue (c : Char) : Nat :=
  if isDigit c then c.toNat - '0'.toNat
  else if 'a' ≤ c then c.toNat - 'a'.toNat + 10
  else c.toNat - 'A'.toNat + 10

/-- The number that digits write in a base. -/
def digitsValue (base : Nat) (digits : List Char) : Nat :=
  digits.foldl (fun n c => base * n + digitValue c) 0

/-- The character with a code point, if there is one. -/
def charOfCode? (code : Nat) : Option Char :=
  if code.isValidChar then some (Char.ofNat code) else none

end Overseer
