import Overseer.Reader

/-!
# TOML: blanks, strings and keys

* `Toml.gap`, `Toml.lineEnd` -- what stands between the parts of a line, and what ends a line;
* `Toml.string` -- a string of any of the four kinds;
* `Toml.key` -- a key, which may be several names joined by dots.
-/

namespace Overseer.Toml

open Reader

/-- A blank within a line. -/
def isBlank (c : Char) : Bool := c == ' ' || c == '\t'

/-- A character that may stand in a comment. -/
def isCommentChar (c : Char) : Bool :=
  c == '\t' || (0x20 ≤ c.toNat && c.toNat ≤ 0x7e) || 0x80 ≤ c.toNat

/-- Skips blanks within a line. -/
def blanks : Reader Unit := do
  let _ ← span isBlank
  pure ()

/-- A line break, if one is next. -/
def newline? : Reader Bool := do
  if ← skip? ['\n'] then pure true else skip? ['\r', '\n']

/-- A comment, if one is next. -/
def comment? : Reader Bool := do
  if ← skip? ['#'] then
    let _ ← span isCommentChar
    pure true
  else pure false

/-- One blank, comment or line break, while there is one. -/
def gapStep (_ : Unit) : Reader (Loop Unit Unit) := do
  let passed ← span isBlank
  if ← comment? then pure (.again ())
  else if ← newline? then pure (.again ())
  else if passed.isEmpty then pure (.done ())
  else pure (.again ())

/-- Skips blanks, comments and line breaks. -/
def gap : Reader Unit := iterate gapStep ()

/-- A line break, or the end of the text. -/
def lineBreak : Reader Unit := do
  if ← newline? then pure ()
  else if ← finished then pure ()
  else failure

/-- The rest of a line on which nothing more may stand than a comment. -/
def lineEnd : Reader Unit := do
  blanks
  let _ ← comment?
  lineBreak

/-- A character that stands for itself in a string with escapes. -/
def isBasicChar (c : Char) : Bool := isCommentChar c && c != '"' && c != '\\'

/-- A character of a string without escapes. -/
def isLiteralChar (c : Char) : Bool := isCommentChar c && c != '\''

/-- The character of so many hexadecimal digits. -/
def codePoint (digits : Nat) : Reader Char := do
  let digits ← exactly isHexDigit digits
  match charOfCode? (digitsValue 16 digits) with
  | some c => pure c
  | none => failure

/-- The character after a backslash. -/
def escape : Reader Char := do
  match ← next with
  | 'b' => pure '\x08'
  | 't' => pure '\t'
  | 'n' => pure '\n'
  | 'f' => pure '\x0c'
  | 'r' => pure '\r'
  | '"' => pure '"'
  | '\\' => pure '\\'
  | 'u' => codePoint 4
  | 'U' => codePoint 8
  | _ => failure

/-- One character of a one-line string, or its end.  The characters so far are in reverse. -/
def basicStep (sofar : List Char) : Reader (Loop (List Char) String) := do
  let c ← next
  if c == '"' then pure (.done (String.ofList sofar.reverse))
  else if c == '\\' then
    let c ← escape
    pure (.again (c :: sofar))
  else if isBasicChar c then pure (.again (c :: sofar))
  else failure

/-- A one-line string with escapes, after its opening quote. -/
def basicRest : Reader String := iterate basicStep []

/-- A one-line string without escapes, after its opening quote. -/
def literalRest : Reader String := do
  let chars ← span isLiteralChar
  literal ['\'']
  pure (String.ofList chars)

/-- A run of quotes inside a many-line string.  Three of them end it; of the first five the last
three do, so that a string may end with one or two quotes. -/
def quoteRun (quote : Char) (sofar : List Char) : Reader (Loop (List Char) String) := fun cs =>
  let count := (cs.takeWhile (· == quote)).length
  if count < 3 then
    some (.again (List.replicate count quote ++ sofar), cs.drop count)
  else
    let taken := min count 5
    let chars := List.replicate (taken - 3) quote ++ sofar
    some (.done (String.ofList chars.reverse), cs.drop taken)

/-- A backslash that hides the line break after it, and all blanks and line breaks after that. -/
def hiddenBreak : Reader Unit := do
  blanks
  if ← newline? then
    iterate (fun _ => do
      let passed ← span isBlank
      if ← newline? then pure (.again ())
      else if passed.isEmpty then pure (.done ())
      else pure (.again ())) ()
  else failure

/-- One piece of a many-line string with escapes. -/
def longBasicStep (sofar : List Char) : Reader (Loop (List Char) String) := do
  if ← newline? then pure (.again ('\n' :: sofar))
  else
    match ← peek? with
    | some '"' => quoteRun '"' sofar
    | some '\\' => do
      let _ ← next
      if (← attempt hiddenBreak).isSome then pure (.again sofar)
      else
        let c ← escape
        pure (.again (c :: sofar))
    | _ => do
      let c ← one isBasicChar
      pure (.again (c :: sofar))

/-- One piece of a many-line string without escapes. -/
def longLiteralStep (sofar : List Char) : Reader (Loop (List Char) String) := do
  if ← newline? then pure (.again ('\n' :: sofar))
  else
    match ← peek? with
    | some '\'' => quoteRun '\'' sofar
    | _ => do
      let c ← one isLiteralChar
      pure (.again (c :: sofar))

/-- A many-line string after its opening quotes.  A line break right there does not count. -/
def longRest (step : List Char → Reader (Loop (List Char) String)) : Reader String := do
  let _ ← newline?
  iterate step []

/-- A string of any kind. -/
def string : Reader String := do
  if ← skip? ['"', '"', '"'] then longRest longBasicStep
  else if ← skip? ['\'', '\'', '\''] then longRest longLiteralStep
  else if ← skip? ['"'] then basicRest
  else
    literal ['\'']
    literalRest

/-- A character of an unquoted name. -/
def isBareChar (c : Char) : Bool :=
  isDigit c || ('a' ≤ c && c ≤ 'z') || ('A' ≤ c && c ≤ 'Z') || c == '_' || c == '-'

/-- One name of a key. -/
def name : Reader String := do
  if ← skip? ['"'] then basicRest
  else if ← skip? ['\''] then literalRest
  else
    let chars ← span1 isBareChar
    pure (String.ofList chars)

/-- One name of a key and the dot after it, if there is one. -/
def keyStep (sofar : List String) : Reader (Loop (List String) (List String)) := do
  blanks
  let name ← name
  blanks
  if ← skip? ['.'] then pure (.again (name :: sofar))
  else pure (.done (name :: sofar).reverse)

/-- A key has fewer names than this. -/
def maxNames : Nat := 80

/-- A key: names joined by dots, with blanks anywhere between. -/
def key : Reader (List String) := do
  let names ← iterate keyStep []
  if names.length < maxNames then pure names else failure

end Overseer.Toml
