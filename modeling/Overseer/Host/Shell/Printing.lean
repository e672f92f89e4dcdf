import Overseer.Reader

/-!
# What commands print

* `Printing.unescape` -- a text whose backslashes are worked out;
* `Printing.echoed` -- the text that the command `echo` of a shell prints;
* `Printing.echoedByProgram` -- the text that the program `echo` prints;
* `Printing.printed` -- the text that `printf` makes of a format and values.
-/

namespace Overseer.Printing

/-- The character with a code in base eight. -/
def ofOctal (digits : List Char) : Char := Char.ofNat (digitsValue 8 digits % 256)

/-- The characters that single letters stand for after a backslash. -/
def letters : List (Char × Char) := [('\\', '\\'), ('a', '\x07'), ('b', '\x08'), ('e', '\x1b'),
  ('f', '\x0c'), ('n', '\n'), ('r', '\r'), ('t', '\t'), ('v', '\x0b')]

/-- Whether a character is a digit in base eight. -/
def isOctal (c : Char) : Bool := '0' ≤ c && c ≤ '7'

/-- Which codes follow a backslash. -/
inductive Style where
  /-- Codes in base eight after a zero. -/
  | command
  /-- Codes in base eight after a zero or without one, and codes in base sixteen after an `x`. -/
  | program
  /-- Codes in base eight without a zero. -/
  | format
  deriving DecidableEq

/-- The code after a backslash: how many characters it takes, and the character. -/
def coded? (style : Style) (text : List Char) : Option (Nat × Char) :=
  let octal (skipped : Nat) : Option (Nat × Char) :=
    let digits := ((text.drop skipped).take 3).takeWhile isOctal
    if skipped = 0 && digits.isEmpty then none else some (skipped + digits.length, ofOctal digits)
  match style, text.head? with
  | .format, _ => octal 0
  | _, some '0' => octal 1
  | .program, some 'x' =>
    let digits := ((text.drop 1).take 2).takeWhile isHexDigit
    if digits.isEmpty then none
    else some (1 + digits.length, Char.ofNat (digitsValue 16 digits))
  | .program, _ => octal 0
  | .command, _ => none

/-- Puts in the characters that a backslash stands for; tells whether the text ends early.  So many
characters are skipped. -/
def unescape (style : Style) : Nat → List Char → List Char × Bool
  | _, [] => ([], false)
  | skipped + 1, _ :: rest => unescape style skipped rest
  | 0, '\\' :: rest =>
    let take (n : Nat) (c : Char) :=
      let (text, ended) := unescape style n rest
      (c :: text, ended)
    match rest.head?.bind fun c => letters.lookup c with
    | some c => take 1 c
    | none =>
      if rest.head? = some 'c' && style ≠ .format then ([], true)
      else
        match coded? style rest with
        | some (n, c) => take n c
        | none => take 0 '\\'
  | 0, c :: rest =>
    let (text, ended) := unescape style 0 rest
    (c :: text, ended)

/-- The text that the command `echo` of a shell prints. -/
def echoed (args : List String) : String :=
  let (newline, args) :=
    match args with
    | "-n" :: rest => (false, rest)
    | all => (true, all)
  let (text, ended) := unescape .command 0 (" ".intercalate args).toList
  String.ofList text ++ (if newline && !ended then "\n" else "")

/-- Whether an argument of the program `echo` is an option. -/
def isEchoOption (arg : String) : Bool :=
  match arg.toList with
  | '-' :: rest => !rest.isEmpty && rest.all fun c => c == 'n' || c == 'e' || c == 'E'
  | _ => false

/-- The text that the program `echo` prints: it understands backslashes only when asked to. -/
def echoedByProgram (args : List String) : String :=
  let options := (args.takeWhile isEchoOption).flatMap String.toList
  let newline := !options.contains 'n'
  let escapes := (options.filter fun c => c == 'e' || c == 'E').getLast?.elim false (· == 'e')
  let text := (" ".intercalate (args.dropWhile isEchoOption)).toList
  let (text, ended) := if escapes then unescape .program 0 text else (text, false)
  String.ofList text ++ (if newline && !ended then "\n" else "")

/-- A place in a format that a value is put into. -/
structure Slot where
  flags : List Char
  width : Nat
  precision : Option Nat
  conversion : Char

/-- A part of a format. -/
inductive Part where
  | text (text : List Char)
  | slot (slot : Slot)

open Reader

/-- A place for a value, after its percent sign. -/
def readSlot : Reader Slot := do
  let flags ← span fun c => c == '-' || c == '+' || c == ' ' || c == '0' || c == '#'
  let width ← span isDigit
  let precision ←
    if ← skip? ['.'] then do
      let digits ← span isDigit
      pure (some (digitsValue 10 digits))
    else pure none
  let conversion ← next
  pure ⟨flags, digitsValue 10 width, precision, conversion⟩

/-- The parts of a format. -/
def readFormat : Reader (List Part) :=
  iterate (fun sofar => do
    if ← finished then pure (.done sofar.reverse)
    else if ← skip? ['%', '%'] then pure (.again (.text ['%'] :: sofar))
    else if ← skip? ['%'] then do
      let slot ← readSlot
      pure (.again (.slot slot :: sofar))
    else do
      let c ← next
      pure (.again (.text [c] :: sofar))) []

/-- A number in base ten, eight or sixteen, or the code of a character after a quote. -/
def number? (text : String) : Option Int :=
  let magnitude : List Char → Option Int
    | '0' :: 'x' :: digits | '0' :: 'X' :: digits =>
      if !digits.isEmpty && digits.all isHexDigit then some (digitsValue 16 digits : Nat) else none
    | '0' :: digits => if digits.all isOctal then some (digitsValue 8 digits : Nat) else none
    | digits =>
      if !digits.isEmpty && digits.all isDigit then some (digitsValue 10 digits : Nat) else none
  match text.toList with
  | [] => some 0
  | '\'' :: c :: _ | '"' :: c :: _ => some (c.toNat : Nat)
  | '-' :: digits => (magnitude digits).map (- ·)
  | '+' :: digits => magnitude digits
  | digits => magnitude digits

/-- A text on at least so many places. -/
def pad (slot : Slot) (zeros : Bool) (sign text : List Char) : List Char :=
  let missing := slot.width - (sign.length + text.length)
  if slot.flags.contains '-' then sign ++ text ++ List.replicate missing ' '
  else if zeros && slot.flags.contains '0' && slot.precision.isNone then
    sign ++ List.replicate missing '0' ++ text
  else List.replicate missing ' ' ++ sign ++ text

/-- Digits, at least as many as the precision tells. -/
def precise (slot : Slot) (digits : List Char) : List Char :=
  List.replicate (slot.precision.getD 1 - digits.length) '0' ++ digits

/-- A number in a slot. -/
def putNumber (slot : Slot) (n : Int) : List Char :=
  let magnitude (base : Nat) : List Char := Nat.toDigits base n.toNat
  match slot.conversion with
  | 'x' => pad slot true [] (precise slot (magnitude 16))
  | 'X' => pad slot true [] (precise slot ((magnitude 16).map Char.toUpper))
  | 'o' => pad slot true [] (precise slot (magnitude 8))
  | _ =>
    let sign :=
      if n < 0 then ['-'] else if slot.flags.contains '+' then ['+']
      else if slot.flags.contains ' ' then [' '] else []
    pad slot true sign (precise slot (Nat.toDigits 10 n.natAbs))

/-- A value in a slot, and the values that do not fit it. -/
def put (slot : Slot) (value : String) : List Char × List String :=
  let text := value.toList
  match slot.conversion with
  | 's' => (pad slot false [] ((slot.precision.elim text (text.take ·))), [])
  | 'b' => (pad slot false [] (unescape .command 0 text).1, [])
  | 'c' => (pad slot false [] (text.take 1), [])
  | _ =>
    match number? value with
    | some n => (putNumber slot n, [])
    | none => (putNumber slot 0, [value])

/-- Uses a format once: the text, the values that are left, and the values that do not fit. -/
def pass : List Part → List String → List Char × List String × List String
  | [], values => ([], values, [])
  | .text text :: parts, values =>
    let (more, left, misfits) := pass parts values
    (text ++ more, left, misfits)
  | .slot slot :: parts, values =>
    let (text, wrong) := put slot (values.headD "")
    let (more, left, misfits) := pass parts values.tail
    (text ++ more, left, wrong ++ misfits)

/-- Uses a format as long as it takes values that are there. -/
def passes (parts : List Part) : Nat → List String → List Char × List String
  | 0, _ => ([], [])
  | bound + 1, values =>
    let (text, left, misfits) := pass parts values
    if left.isEmpty || left.length = values.length then (text, misfits)
    else
      let (more, others) := passes parts bound left
      (text ++ more, misfits ++ others)

/-- The text that `printf` makes of a format and values, and the values that do not fit. -/
def printed (format : String) (values : List String) : String × List String :=
  match Reader.all readFormat (unescape .format 0 format.toList).1 with
  | some parts =>
    let (text, misfits) := passes parts (values.length + 1) values
    (String.ofList text, misfits)
  | none => ("", [format])

end Overseer.Printing
