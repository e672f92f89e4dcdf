/-!
# Commands of the shell

* `Piece`, `Word` -- words with quotes, parameters, substitutions and sums;
* `Redirection` -- what a command reads and where it writes;
* `ShellCommand` -- commands and all that is made of them.
-/

namespace Overseer

mutual

/-- What is made of the value of a parameter. -/
inductive Trim where
  | whole
  /-- Without the part at the beginning, or at the end, that matches a pattern. -/
  | without (atEnd longest : Bool) (pattern : List Piece)
  /-- Something else if it is not set, or not set to anything. -/
  | orElse (alsoEmpty : Bool) (fallback : List Piece)
  /-- As `orElse`, and the parameter is set to it. -/
  | orAssign (alsoEmpty : Bool) (fallback : List Piece)
  /-- A complaint if it is not set, or not set to anything. -/
  | orFail (alsoEmpty : Bool) (complaint : List Piece)
  /-- Something else if it is set, or set to anything. -/
  | instead (alsoEmpty : Bool) (replacement : List Piece)
  /-- The number of its bytes. -/
  | length

/-- A piece of a word. -/
inductive Piece where
  | text (text : List Char) (quoted : Bool)
  | parameter (name : String) (trim : Trim) (quoted : Bool)
  /-- What a command writes. -/
  | substitution (command : ShellCommand) (quoted : Bool)
  /-- What a command has written. -/
  | written (text : List Char) (quoted : Bool)
  /-- The value of an expression over whole numbers. -/
  | sum (expression : List Piece) (quoted : Bool)

/-- Where a stream of a command comes from or goes to. -/
inductive Redirection where
  | toFile (descriptor : Nat) (append : Bool) (path : List Piece)
  /-- Where another output goes. -/
  | copy (descriptor source : Nat)
  | close (descriptor : Nat)
  | fromFile (path : List Piece)

/-- A command of the shell. -/
inductive ShellCommand where
  | nothing
  | simple (assignments : List (String × List Piece)) (words : List (List Piece))
      (redirections : List Redirection)
  | sequence (first second : ShellCommand)
  /-- The second one if the first one succeeds, or only if it fails. -/
  | chain (onSuccess : Bool) (first second : ShellCommand)
  | negated (command : ShellCommand)
  | branch (condition thenPart elsePart : ShellCommand)
  /-- Goes round while the condition succeeds, or until it does. -/
  | loop (whileSuccess : Bool) (condition body : ShellCommand)
  /-- Once for each word; without words, for each argument. -/
  | each (name : String) (words : Option (List (List Piece))) (body : ShellCommand)
  /-- The first command of several whose patterns match a word. -/
  | cases (word : List Piece) (arms : List (List (List Piece) × ShellCommand))
  /-- A command with redirections of its own. -/
  | redirected (command : ShellCommand) (redirections : List Redirection)
  /-- A command whose assignments are lost. -/
  | subshell (command : ShellCommand)
  /-- The second command reads what the first one writes. -/
  | pipeline (first second : ShellCommand)
  /-- A command that is not waited for. -/
  | background (command : ShellCommand)
  /-- Gives a name to a command. -/
  | define (name : String) (body : ShellCommand)

end

/-- A word. -/
abbrev Word := List Piece

end Overseer
