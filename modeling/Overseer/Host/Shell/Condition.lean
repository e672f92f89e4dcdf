import Overseer.Host.FileSystem
import Overseer.Reader

/-!
# Conditions

`Condition.holds` works out the conditions that `test` understands: questions about words, about
files and about numbers, and what is made of them with negation, `-a`, `-o` and parentheses.  Words
that make no condition are an error, which is told.
-/

namespace Overseer.Condition

/-- A decimal number, possibly with a sign. -/
def number? (text : String) : Option Int :=
  let isBlank (c : Char) : Bool := c == ' ' || c == '\t' || c == '\n'
  let trimmed := ((text.toList.dropWhile isBlank).reverse.dropWhile isBlank).reverse
  let magnitude (digits : List Char) : Option Nat :=
    if digits.isEmpty || !digits.all isDigit then none else some (digitsValue 10 digits)
  match trimmed with
  | '-' :: digits => (magnitude digits).map fun n => -n
  | '+' :: digits => (magnitude digits).map fun n => n
  | digits => (magnitude digits).map fun n => n

/-- The questions about one word. -/
def unary : List String := ["-n", "-z", "-e", "-d", "-f", "-r", "-w", "-x", "-s", "-L", "-h", "-b",
  "-c", "-p", "-S", "-t", "-O", "-G", "-g", "-k", "-u"]

/-- The questions about two words. -/
def binary : List String := ["=", "!=", "<", ">", "-eq", "-ne", "-lt", "-le", "-gt", "-ge", "-nt",
  "-ot", "-ef"]

/-- What is asked about one word. -/
def asks (files : FileSystem) (directory : Place) (op word : String) : Bool :=
  match op, files.nodeAt? directory word with
  | "-n", _ => word != ""
  | "-z", _ => word == ""
  | "-e", some _ | "-r", some _ | "-w", some _ | "-O", some _ | "-G", some _ => true
  | "-d", some .directory => true
  | "-f", some (.file _) | "-f", some .program => true
  | "-s", some (.file content) => !content.isEmpty
  | "-s", some .directory | "-s", some .program => true
  | "-x", some .directory | "-x", some .program => true
  | "-c", some .device => true
  | _, _ => false

/-- A number, or the complaint that it is none. -/
def numberOf (text : String) : Except String Int :=
  match number? text with
  | some n => .ok n
  | none => .error s!"Illegal number: {text}"

/-- What is asked about two words. -/
def compares (op a b : String) : Except String Bool :=
  let numbers (f : Int → Int → Bool) : Except String Bool := do
    let m ← numberOf a
    let n ← numberOf b
    pure (f m n)
  match op with
  | "=" => .ok (a == b)
  | "!=" => .ok (a != b)
  | "<" => .ok (a < b)
  | ">" => .ok (b < a)
  | "-eq" => numbers fun m n => m == n
  | "-ne" => numbers fun m n => m != n
  | "-lt" => numbers fun m n => m < n
  | "-le" => numbers fun m n => m ≤ n
  | "-gt" => numbers fun m n => n < m
  | "-ge" => numbers fun m n => n ≤ m
  | _ => .ok false

mutual

/-- Conditions of which one has to hold, and the words that are left. -/
def anyOf (files : FileSystem) (directory : Place) : Nat → List String →
    Except String (Bool × List String)
  | 0, _ => .error "too many conditions"
  | bound + 1, words => do
    let (first, rest) ← allOf files directory bound words
    match rest with
    | "-o" :: rest => do
      let (second, rest) ← anyOf files directory bound rest
      pure (first || second, rest)
    | rest => pure (first, rest)

/-- Conditions that all have to hold. -/
def allOf (files : FileSystem) (directory : Place) : Nat → List String →
    Except String (Bool × List String)
  | 0, _ => .error "too many conditions"
  | bound + 1, words => do
    let (first, rest) ← one files directory bound words
    match rest with
    | "-a" :: rest => do
      let (second, rest) ← allOf files directory bound rest
      pure (first && second, rest)
    | rest => pure (first, rest)

/-- One condition. -/
def one (files : FileSystem) (directory : Place) : Nat → List String →
    Except String (Bool × List String)
  | 0, _ => .error "too many conditions"
  | bound + 1, words =>
    match words with
    | [] => .error "argument expected"
    | a :: op :: b :: rest =>
      if binary.contains op then (compares op a b).map (·, rest)
      else if a = "!" then (one files directory bound (op :: b :: rest)).map fun (x, r) => (!x, r)
      else if a = "(" then
        match anyOf files directory bound (op :: b :: rest) with
        | .ok (x, ")" :: rest) => .ok (x, rest)
        | .ok _ => .error "closing paren expected"
        | .error e => .error e
      else if unary.contains a then .ok (asks files directory a op, b :: rest)
      else .ok (a != "", op :: b :: rest)
    | [a, b] =>
      if a = "!" then (one files directory bound [b]).map fun (x, r) => (!x, r)
      else if unary.contains a then .ok (asks files directory a b, [])
      else if binary.contains b then .error s!"{b}: argument expected"
      else .ok (a != "", [b])
    | [a] => .ok (a != "", [])

end

/-- Whether the condition that words make holds; no words make one that does not hold. -/
def holds (files : FileSystem) (directory : Place) (words : List String) : Except String Bool :=
  match words with
  | [] => .ok false
  | words =>
    match anyOf files directory (4 * words.length + 4) words with
    | .ok (x, []) => .ok x
    | .ok (_, left) =>
      let last := (words.take (words.length - left.length)).getLastD ""
      .error s!"{last}: unexpected operator"
    | .error e => .error e

end Overseer.Condition
