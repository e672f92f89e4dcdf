import Overseer.Host.ShellCommand.Basic
import Overseer.Reader

/-!
# Reading shell scripts

`ShellCommand.read` reads a script line by line, and fails on a line that is not understood.
-/

namespace Overseer.ShellCommand

open Reader

/-- A blank within a line. -/
def isBlank (c : Char) : Bool := c == ' ' || c == '\t'

/-- A character that ends a word. -/
def endsWord (c : Char) : Bool :=
  isBlank c || c == '\n' || c == ';' || c == '&' || c == '|' || c == '<' || c == '>' || c == '(' ||
    c == ')'

/-- A character that begins a name. -/
def beginsName (c : Char) : Bool :=
  ('a' ≤ c && c ≤ 'z') || ('A' ≤ c && c ≤ 'Z') || c == '_'

/-- A character of a name. -/
def inName (c : Char) : Bool := beginsName c || isDigit c

/-- Whether a text is a name. -/
def isName (text : String) : Bool :=
  text.toList.head?.any beginsName && text.toList.all inName

/-- A character that is a parameter of its own. -/
def isSpecial (c : Char) : Bool :=
  isDigit c || c == '$' || c == '?' || c == '#' || c == '@' || c == '*' || c == '!' || c == '-'

/-- Skips blanks, joined lines and a comment. -/
def blanks : Reader Unit := do
  iterate (fun _ => do
    let _ ← span isBlank
    if ← skip? ['\\', '\n'] then pure (.again ()) else pure (.done ())) ()
  match ← peek? with
  | some '#' => do
    let _ ← span (· != '\n')
    pure ()
  | _ => pure ()

/-- Skips blanks, comments and ends of lines. -/
def gap : Reader Unit :=
  iterate (fun _ => do
    blanks
    if ← skip? ['\n'] then pure (.again ()) else pure (.done ())) ()

/-- A name. -/
def name : Reader String := do
  let c ← one beginsName
  let rest ← span inName
  pure (String.ofList (c :: rest))

/-- The name of a parameter in braces. -/
def bracedName : Reader String := do
  match ← attempt name with
  | some n => pure n
  | none => do
    let digits ← span isDigit
    if digits.isEmpty then
      let c ← one isSpecial
      pure c.toString
    else pure (String.ofList digits)

/-- The text up to a closing backquote, without the backslashes before special characters. -/
def backquoted (inner : Reader ShellCommand) (quoted : Bool) : Reader Piece := do
  let text ← iterate (fun sofar => do
    match ← next with
    | '\x60' => pure (.done sofar.reverse)
    | '\\' => do
      let c ← next
      if c == '\x60' || c == '\\' || c == '$' || (quoted && c == '"') then
        pure (.again (c :: sofar))
      else pure (.again (c :: '\\' :: sofar))
    | c => pure (.again (c :: sofar))) []
  match all inner text with
  | some command => pure (.substitution command quoted)
  | none => failure

/-- One character between double quotes, or the closing quote. -/
def quotedStep (inner : Reader ShellCommand) (dollar : Reader Piece) (sofar : List Piece) :
    Reader (Loop (List Piece) (List Piece)) := do
  match ← next with
  | '"' => pure (.done sofar)
  | '\\' => do
    let c ← next
    if c == '$' || c == '"' || c == '\\' || c == '\x60' then
      pure (.again (.text [c] true :: sofar))
    else if c == '\n' then pure (.again sofar)
    else pure (.again (.text ['\\', c] true :: sofar))
  | '$' => do
    let piece ← dollar
    pure (.again (piece :: sofar))
  | '\x60' => do
    let piece ← backquoted inner true
    pure (.again (piece :: sofar))
  | c => pure (.again (.text [c] true :: sofar))

/-- One piece of a word, or its end.  `dollar` reads what follows a dollar sign. -/
def pieceStep (inner : Reader ShellCommand) (dollar : Bool → Reader Piece) (ends : Char → Bool)
    (sofar : List Piece) : Reader (Loop (List Piece) Word) := do
  match ← peek? with
  | none => pure (.done sofar.reverse)
  | some c =>
    if ends c then pure (.done sofar.reverse)
    else do
      let _ ← next
      match c with
      | '\'' => do
        let text ← span (· != '\'')
        literal ['\'']
        pure (.again (.text text true :: sofar))
      | '"' => do
        let pieces ← iterate (quotedStep inner (dollar true)) (.text [] true :: sofar)
        pure (.again pieces)
      | '\\' => do
        let c ← next
        if c == '\n' then pure (.again sofar) else pure (.again (.text [c] true :: sofar))
      | '$' => do
        let piece ← dollar false
        pure (.again (piece :: sofar))
      | '\x60' => do
        let piece ← backquoted inner false
        pure (.again (piece :: sofar))
      | c => pure (.again (.text [c] false :: sofar))

/-- What is made of a parameter, after its name, with the closing brace. -/
def trim (word : Reader Word) : Reader Trim := do
  if ← skip? ['\x7d'] then pure .whole
  else do
    let make : Word → Trim ←
      if ← skip? ['#', '#'] then pure (.without false true)
      else if ← skip? ['#'] then pure (.without false false)
      else if ← skip? ['%', '%'] then pure (.without true true)
      else if ← skip? ['%'] then pure (.without true false)
      else do
        let alsoEmpty ← skip? [':']
        if ← skip? ['-'] then pure (.orElse alsoEmpty)
        else if ← skip? ['='] then pure (.orAssign alsoEmpty)
        else if ← skip? ['?'] then pure (.orFail alsoEmpty)
        else do
          literal ['+']
          pure (.instead alsoEmpty)
    let w ← word
    literal ['\x7d']
    pure (make w)

/-- One piece of an expression, or its end; `open` parentheses are to be closed. -/
def sumStep (dollar : Reader Piece) (state : Nat × List Piece) :
    Reader (Loop (Nat × List Piece) (List Piece)) := do
  let (pending, sofar) := state
  match ← next with
  | '(' => pure (.again (pending + 1, .text ['('] false :: sofar))
  | ')' =>
    match pending with
    | 0 => do
      literal [')']
      pure (.done sofar.reverse)
    | pending + 1 => pure (.again (pending, .text [')'] false :: sofar))
  | '$' => do
    let piece ← dollar
    pure (.again (pending, piece :: sofar))
  | c => pure (.again (pending, .text [c] false :: sofar))

/-- A parameter, a substitution or a sum, after its dollar sign. -/
def dollar (inner : Reader ShellCommand) : Nat → Bool → Reader Piece
  | 0, _ => failure
  | depth + 1, quoted => do
    match ← peek? with
    | some '\x7b' => do
      let _ ← next
      match ← attempt (do literal ['#']; let n ← bracedName; literal ['\x7d']; pure n) with
      | some n => pure (.parameter n .length quoted)
      | none => do
        let n ← bracedName
        let t ← trim (iterate (pieceStep inner (dollar inner depth) (· == '\x7d')) [])
        pure (.parameter n t quoted)
    | some '(' => do
      let step := sumStep (dollar inner depth false)
      match ← attempt (do literal ['(', '(']; iterate step (0, [])) with
      | some expression => pure (.sum expression quoted)
      | none => do
        let _ ← next
        let command ← inner
        literal [')']
        pure (.substitution command quoted)
    | some c =>
      if isSpecial c then do
        let _ ← next
        pure (.parameter c.toString .whole quoted)
      else if beginsName c then do
        let n ← name
        pure (.parameter n .whole quoted)
      else pure (.text ['$'] quoted)
    | none => pure (.text ['$'] quoted)

/-- How deep parameters nest. -/
def maxDollars : Nat := 20

/-- One piece of a word, or its end. -/
def wordStep (inner : Reader ShellCommand) : List Piece → Reader (Loop (List Piece) Word) :=
  pieceStep inner (dollar inner maxDollars) endsWord

/-- A word of at least one piece. -/
def word (inner : Reader ShellCommand) : Reader Word := do
  let w ← iterate (wordStep inner) []
  if w.isEmpty then failure else pure w

/-- An assignment. -/
def assignment (inner : Reader ShellCommand) : Reader (String × Word) := do
  let n ← name
  literal ['=']
  let w ← iterate (wordStep inner) []
  pure (n, w)

/-- A redirection. -/
def redirection (inner : Reader ShellCommand) : Reader Redirection := do
  let digits ← span isDigit
  let descriptor (fallback : Nat) := if digits.isEmpty then fallback else digitsValue 10 digits
  if ← skip? ['<'] then do
    blanks
    .fromFile <$> word inner
  else do
    literal ['>']
    if ← skip? ['&', '-'] then pure (.close (descriptor 1))
    else if ← skip? ['&'] then do
      let source ← span1 isDigit
      pure (.copy (descriptor 1) (digitsValue 10 source))
    else do
      let append ← skip? ['>']
      if !append then
        let _ ← skip? ['|']
      blanks
      .toFile (descriptor 1) append <$> word inner

/-- One more redirection, or the end of them. -/
def redirectionStep (inner : Reader ShellCommand) (sofar : List Redirection) :
    Reader (Loop (List Redirection) (List Redirection)) := do
  blanks
  match ← attempt (redirection inner) with
  | some r => pure (.again (sofar ++ [r]))
  | none => pure (.done sofar)

/-- The words that mean something else where a command begins. -/
def reserved : List (List Char) :=
  ["if", "then", "else", "elif", "fi", "for", "do", "done", "while", "until", "case", "esac",
    "\x7b", "\x7d", "!"].map String.toList

/-- The given reserved word, standing alone. -/
def keyword (expected : String) : Reader Unit := do
  literal expected.toList
  match ← peek? with
  | none => pure ()
  | some c => if endsWord c then pure () else failure

/-- Whether a reserved word is next; it stays. -/
def atReserved : Reader Bool := fun cs =>
  let first := cs.takeWhile fun c => !endsWord c
  some (reserved.contains first, cs)

/-- One part of a simple command, or its end. -/
def simpleStep (inner : Reader ShellCommand)
    (sofar : List (String × Word) × List Word × List Redirection) :
    Reader (Loop (List (String × Word) × List Word × List Redirection) ShellCommand) := do
  let (assignments, words, redirections) := sofar
  blanks
  match ← attempt (redirection inner) with
  | some r => pure (.again (assignments, words, redirections ++ [r]))
  | none =>
    let assigned ← if words.isEmpty then attempt (assignment inner) else pure none
    match assigned with
    | some a => pure (.again (assignments ++ [a], words, redirections))
    | none =>
      match ← attempt (word inner) with
      | some w => pure (.again (assignments, words ++ [w], redirections))
      | none =>
        if assignments.isEmpty && words.isEmpty && redirections.isEmpty then failure
        else pure (.done (.simple assignments words redirections))

/-- A simple command. -/
def simpleCommand (inner : Reader ShellCommand) : Reader ShellCommand := do
  if ← atReserved then failure else iterate (simpleStep inner) ([], [], [])

/-- What ends a command, and what is blank after it; tells whether the command is not waited
for. -/
def separator : Reader Bool := do
  blanks
  if ← skip? [';', ';'] then failure
  else if ← skip? ['&', '&'] then failure
  else if ← skip? ['&'] then do
    gap
    pure true
  else if ← skip? [';'] then do
    gap
    pure false
  else do
    literal ['\n']
    gap
    pure false

/-- One more word of a loop, or the end of its words. -/
def eachStep (inner : Reader ShellCommand) (sofar : List Word) :
    Reader (Loop (List Word) (List Word)) := do
  blanks
  match ← attempt (word inner) with
  | some w => pure (.again (sofar ++ [w]))
  | none => pure (.done sofar)

/-- One more pattern, or the end of the patterns. -/
def armStep (inner : Reader ShellCommand) (sofar : List Word) :
    Reader (Loop (List Word) (List Word)) := do
  blanks
  let w ← word inner
  blanks
  if ← skip? ['|'] then pure (.again (sofar ++ [w]))
  else do
    literal [')']
    pure (.done (sofar ++ [w]))

mutual

/-- A command whose parts nest at most so deep. -/
def command : Nat → Reader ShellCommand
  | 0 => failure
  | depth + 1 => do
    blanks
    let compound : Option ShellCommand ← attempt (compoundCommand depth)
    match compound with
    | some c => do
      match ← iterate (redirectionStep (list depth)) [] with
      | [] => pure c
      | redirections => pure (.redirected c redirections)
    | none => do
      match ← attempt (do let n ← name; blanks; literal ['(', ')']; gap; pure n) with
      | some n => .define n <$> command depth
      | none => simpleCommand (list depth)

/-- A command that begins with a word or a mark of its own. -/
def compoundCommand : Nat → Reader ShellCommand
  | 0 => failure
  | depth + 1 => do
    if ← skip? ['('] then do
      let body ← block depth
      literal [')']
      pure (.subshell body)
    else do
      match ← attempt (keyword "if") with
      | some _ => conditional depth
      | none =>
        match ← attempt (keyword "while") with
        | some _ => repetition depth true
        | none =>
          match ← attempt (keyword "until") with
          | some _ => repetition depth false
          | none =>
            match ← attempt (keyword "for") with
            | some _ => iteration depth
            | none =>
              match ← attempt (keyword "case") with
              | some _ => choice depth
              | none => do
                keyword "\x7b"
                let body ← block depth
                keyword "\x7d"
                pure body

/-- Commands of which each reads what the one before it writes. -/
def piped : Nat → Reader ShellCommand
  | 0 => failure
  | depth + 1 => do
    blanks
    let negated := (← attempt (keyword "!")).isSome
    let first ← command depth
    let all ← iterate (fun sofar => do
      blanks
      if ← skip? ['|', '|'] then failure
      else if ← skip? ['|'] then do
        gap
        let second ← command depth
        pure (.again (.pipeline sofar second))
      else pure (.done sofar)) first <|> pure first
    pure (if negated then .negated all else all)

/-- Commands joined by conditions. -/
def conjunction : Nat → Reader ShellCommand
  | 0 => failure
  | depth + 1 => do
    let first ← piped depth
    iterate (fun sofar => do
      blanks
      if ← skip? ['&', '&'] then
        gap
        let second ← piped depth
        pure (.again (.chain true sofar second))
      else if ← skip? ['|', '|'] then
        gap
        let second ← piped depth
        pure (.again (.chain false sofar second))
      else pure (.done sofar)) first

/-- Commands one after the other. -/
def list : Nat → Reader ShellCommand
  | 0 => failure
  | depth + 1 => do
    gap
    iterate (fun sofar => do
      match ← attempt (conjunction depth) with
      | none => pure (.done sofar)
      | some script => do
        match ← attempt separator with
        | some true => pure (.again (.sequence sofar (.background script)))
        | some false => pure (.again (.sequence sofar script))
        | none => do
          blanks
          pure (.done (.sequence sofar script))) .nothing

/-- Commands one after the other, at least one. -/
def block : Nat → Reader ShellCommand
  | 0 => failure
  | depth + 1 => do
    match ← list depth with
    | .nothing => failure
    | commands => pure commands

/-- A condition after its first word. -/
def conditional : Nat → Reader ShellCommand
  | 0 => failure
  | depth + 1 => do
    let condition ← block depth
    keyword "then"
    let thenPart ← block depth
    match ← attempt (keyword "elif") with
    | some _ => .branch condition thenPart <$> conditional depth
    | none =>
      match ← attempt (keyword "else") with
      | some _ => do
        let elsePart ← block depth
        keyword "fi"
        pure (.branch condition thenPart elsePart)
      | none => do
        keyword "fi"
        pure (.branch condition thenPart .nothing)

/-- A loop with a condition, after its first word. -/
def repetition : Nat → Bool → Reader ShellCommand
  | 0, _ => failure
  | depth + 1, whileSuccess => do
    let condition ← block depth
    keyword "do"
    let body ← block depth
    keyword "done"
    pure (.loop whileSuccess condition body)

/-- A loop over words, after its first word. -/
def iteration : Nat → Reader ShellCommand
  | 0 => failure
  | depth + 1 => do
    blanks
    let n ← name
    gap
    let words ←
      match ← attempt (keyword "in") with
      | some _ => some <$> iterate (eachStep (list depth)) []
      | none => pure none
    let _ ← attempt separator
    gap
    keyword "do"
    let body ← block depth
    keyword "done"
    pure (.each n words body)

/-- A choice by a word, after its first word. -/
def choice : Nat → Reader ShellCommand
  | 0 => failure
  | depth + 1 => do
    blanks
    let w ← word (list depth)
    gap
    keyword "in"
    gap
    let arms ← iterate (fun sofar => do
      gap
      match ← attempt (keyword "esac") with
      | some _ => pure (.done sofar)
      | none => do
        let _ ← skip? ['(']
        let patterns ← iterate (armStep (list depth)) []
        let body ← list depth
        gap
        let _ ← skip? [';', ';']
        pure (.again (sofar ++ [(patterns, body)]))) []
    pure (.cases w arms)

end

/-- How deep the parts of a script nest. -/
def maxDepth : Nat := 60

/-- One line of a script, with all further lines that belong to its last command. -/
def line : Reader ShellCommand :=
  iterate (fun sofar => do
    blanks
    if (← skip? ['\n']) || (← finished) then pure (.done sofar)
    else do
      let script ← conjunction maxDepth
      blanks
      if ← skip? [';', ';'] then failure
      else if ← skip? [';'] then pure (.again (.sequence sofar script))
      else if ← skip? ['&'] then pure (.again (.sequence sofar (.background script)))
      else if (← skip? ['\n']) || (← finished) then pure (.done (.sequence sofar script))
      else failure) .nothing

/-- Reads the first line of a script; what is left are the other lines. -/
def read (script : List Char) : Option (ShellCommand × List Char) := line script

end Overseer.ShellCommand
