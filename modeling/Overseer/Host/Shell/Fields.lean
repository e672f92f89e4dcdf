import Overseer.Host.Pattern
import Overseer.Host.Shell.Basic
import Overseer.Host.ShellCommand.Read
import Overseer.Host.Sum

/-!
# The fields of a command

The words of a command become fields: parameters are replaced by their values, values outside
quotes are divided at blanks, and patterns outside quotes are replaced by the paths that match.

* `Scene.fieldsOf` -- the fields of words;
* `Scene.textOf` -- a word that makes one text;
* `Scene.pending?` -- the first command whose output a word needs, and the word once it is there.
-/

namespace Overseer

/-- Characters, with whether each of them is quoted. -/
abbrev Marked := List (Char × Bool)

/-- The fields of a word so far. -/
structure Fields where
  /-- The fields that have ended, the last one first. -/
  ended : List Marked
  /-- The field that has begun, its last character first. -/
  current : Option Marked
  /-- A blank has ended the last field, so that a divider may still follow. -/
  loose : Bool
  /-- What is wrong with the word. -/
  failure : Option String

namespace Fields

/-- No fields. -/
def empty : Fields := ⟨[], none, false, none⟩

/-- Adds to the field that has begun. -/
def extend (f : Fields) (quoted : Bool) (text : List Char) : Fields :=
  let current := text.foldl (fun field c => (c, quoted) :: field) (f.current.getD [])
  { f with current := some current, loose := false }

/-- Ends the field that has begun. -/
def cut (f : Fields) : Fields :=
  match f.current with
  | some field => { f with ended := field.reverse :: f.ended, current := none, loose := true }
  | none => f

/-- Adds one character that may divide fields. -/
def divide (dividers : List Char) (f : Fields) (c : Char) : Fields :=
  if !dividers.contains c then f.extend false [c]
  else if c == ' ' || c == '\t' || c == '\n' then f.cut
  else
    match f.current with
    | some _ => { f.cut with loose := false }
    | none =>
      if f.loose then { f with loose := false }
      else { f with ended := [] :: f.ended }

/-- Adds a text that is divided. -/
def split (dividers : List Char) (f : Fields) (text : List Char) : Fields :=
  text.foldl (divide dividers) f

/-- Tells what is wrong. -/
def fail (f : Fields) (reason : String) : Fields := { f with failure := f.failure.or (some reason) }

/-- All fields. -/
def all (f : Fields) : List Marked := f.cut.ended.reverse

end Fields

/-- A text without marks. -/
def Marked.text (m : Marked) : String := String.ofList (m.map (·.1))

/-- What of a word is divided. -/
inductive Division where
  | nothing
  | values
  | everything
  deriving DecidableEq

namespace Scene

/-- The characters that divide fields. -/
def dividers (c : Scene) : List Char :=
  match c.settings.lookup "IFS" with
  | none => [' ', '\t', '\n']
  | some text => text.toList

/-- Adds a value. -/
def addValue (c : Scene) (division : Division) (quoted : Bool) (f : Fields) (text : List Char) :
    Fields :=
  if quoted || division = .nothing then f.extend quoted text else f.split c.dividers text

/-- Adds each argument as a field of its own. -/
def addArgs (c : Scene) (division : Division) (quoted : Bool) (f : Fields) : Fields :=
  match c.args with
  | [] =>
    match f.current with
    | some [] => { f with current := none }
    | _ => f
  | first :: rest =>
    rest.foldl (fun f arg => c.addValue division quoted f.cut arg.toList)
      (c.addValue division quoted f first.toList)

/-- Whether a parameter has a value that counts. -/
def isGiven (c : Scene) (name : String) (alsoEmpty : Bool) : Bool :=
  match c.value? name with
  | none => false
  | some text => !(alsoEmpty && text = "")

/-- Adds the value of a parameter. -/
def addParameter (c : Scene) (division : Division) (quoted : Bool) (f : Fields) (name : String) :
    Fields :=
  if division ≠ .nothing && (name = "@" || (name = "*" && !quoted)) then
    c.addArgs division quoted f
  else
    match c.value? name with
    | some text => c.addValue division quoted f text.toList
    | none =>
      if c.stopsOnUnset && name != "@" && name != "*" then
        f.fail s!"{name}: parameter not set"
      else c.addValue division quoted f []

mutual

/-- Adds one piece of a word. -/
def addPiece (c : Scene) (division : Division) (allQuoted : Bool) (f : Fields) :
    Piece → Fields × Scene
  | .text text quoted =>
    if quoted || allQuoted then (f.extend true text, c)
    else if division = .everything then (f.split c.dividers text, c)
    else (f.extend false text, c)
  | .substitution _ _ => (f, c)
  | .written text quoted => (c.addValue division (quoted || allQuoted) f text, c)
  | .sum expression quoted =>
    let (inner, c) := addPieces c .nothing true .empty expression
    let text := (inner.all.flatten).map (·.1)
    match Sum.value? (fun name => (c.settings.lookup name).getD "") text with
    | some (n, target) =>
      let c := target.elim c fun name => c.assign name (toString n)
      (c.addValue division (quoted || allQuoted) f (toString n).toList, c)
    | none => (f.fail "arithmetic expression", c)
  | .parameter name trim quoted => addTrimmed c division (quoted || allQuoted) f name trim

/-- Adds what is made of the value of a parameter. -/
def addTrimmed (c : Scene) (division : Division) (quoted : Bool) (f : Fields) (name : String) :
    Trim → Fields × Scene
  | .whole => (c.addParameter division quoted f name, c)
  | .length =>
    (c.addValue division quoted f (toString ((c.value? name).getD "").utf8ByteSize).toList, c)
  | .without atEnd longest pattern =>
    let (inner, c) := addPieces c .nothing false .empty pattern
    let marks := Pattern.read 0 inner.all.flatten
    let text := ((c.value? name).getD "").toList
    let left :=
      if atEnd then Pattern.trimEnd longest marks text else Pattern.trimStart longest marks text
    (c.addValue division quoted f left, c)
  | .orElse alsoEmpty fallback =>
    if c.isGiven name alsoEmpty then (c.addParameter division quoted f name, c)
    else addPieces c (if division = .nothing then .nothing else .everything) quoted f fallback
  | .orAssign alsoEmpty fallback =>
    if c.isGiven name alsoEmpty then (c.addParameter division quoted f name, c)
    else
      let (inner, c) := addPieces c .nothing true .empty fallback
      let text := (inner.all.flatten).map (·.1)
      let c := c.assign name (String.ofList text)
      (c.addValue division quoted f text, c)
  | .orFail alsoEmpty complaint =>
    if c.isGiven name alsoEmpty then (c.addParameter division quoted f name, c)
    else
      let (inner, c) := addPieces c .nothing true .empty complaint
      let text := Marked.text inner.all.flatten
      let text := if text = "" then
        (if alsoEmpty then "parameter not set or null" else "parameter not set") else text
      (f.fail s!"{name}: {text}", c)
  | .instead alsoEmpty replacement =>
    if c.isGiven name alsoEmpty then
      addPieces c (if division = .nothing then .nothing else .everything) quoted f replacement
    else (c.addValue division quoted f [], c)

/-- Adds the pieces of a word. -/
def addPieces (c : Scene) (division : Division) (allQuoted : Bool) (f : Fields) :
    List Piece → Fields × Scene
  | [] => (f, c)
  | piece :: rest =>
    let (f, c) := addPiece c division allQuoted f piece
    addPieces c division allQuoted f rest

end

/-- A word whose leading tilde is replaced by the home directory. -/
def atHome (c : Scene) (word : Word) : Word :=
  match word, c.settings.lookup "HOME" with
  | .text ['~'] false :: rest, some home =>
    match rest with
    | [] | .text ['/'] _ :: _ => .text home.toList true :: rest
    | _ => word
  | _, _ => word

/-- Whether a mark stands for more than itself. -/
def isWild : Char × Bool → Bool
  | (c, quoted) => !quoted && (c == '*' || c == '?' || c == '[')

/-- The parts of a path, between its slashes. -/
def partsOf (m : Marked) : List Marked := m.splitOnP (·.1 == '/')

/-- The paths that match the remaining parts of a pattern, below what was matched so far. -/
def matchParts (c : Scene) (sofar : String) : List Marked → List String
  | [] => [sofar]
  | part :: rest =>
    let join (name : String) : String := if rest.isEmpty then name else name ++ "/"
    if part.any isWild then
      let base := if sofar = "" then "." else sofar
      let names := match c.site.files.locate c.directory base with
        | .ok place => c.site.files.namesIn place
        | .error _ => []
      let marks := Pattern.read 0 part
      let fitting := names.filter fun name =>
        Pattern.fits marks name.toList &&
          (!name.startsWith "." || (part.head?.map (·.1)) == some '.')
      fitting.flatMap fun name => matchParts c (sofar ++ join name) rest
    else
      let name := Marked.text part
      if name = "" || !rest.isEmpty then matchParts c (sofar ++ join name) rest
      else if (c.site.files.nodeAt? c.directory (sofar ++ name)).isSome then [sofar ++ name]
      else []

/-- The paths that match a field, or the field itself. -/
def pathsOf (c : Scene) (m : Marked) : List String :=
  if m.any isWild then
    match matchParts c "" (partsOf m) with
    | [] => [Marked.text m]
    | paths => paths.mergeSort fun a b => a ≤ b
  else [Marked.text m]

/-- The fields of words, or what is wrong with them. -/
def fieldsOf (c : Scene) : List Word → Except String (List String) × Scene
  | [] => (.ok [], c)
  | word :: rest =>
    let (f, c) := c.addPieces .values false .empty (c.atHome word)
    match f.failure with
    | some reason => (.error reason, c)
    | none =>
      let paths := f.all.flatMap c.pathsOf
      let (others, c) := fieldsOf c rest
      (others.map (paths ++ ·), c)

/-- A word as one text, with the marks of its characters. -/
def markedOf (c : Scene) (word : Word) : Except String Marked × Scene :=
  let (f, c) := c.addPieces .nothing false .empty (c.atHome word)
  match f.failure with
  | some reason => (.error reason, c)
  | none => (.ok f.all.flatten, c)

/-- A word that makes one text. -/
def textOf (c : Scene) (word : Word) : Except String String × Scene :=
  let (m, c) := c.markedOf word
  (m.map Marked.text, c)

mutual

/-- The first command whose output a piece needs, and the piece once it is there. -/
def pendingPiece? (c : Scene) : Piece → Option (ShellCommand × (List Char → Piece))
  | .text _ _ | .written _ _ => none
  | .substitution command quoted => some (command, (.written · quoted))
  | .sum expression quoted =>
    (pending? c expression).map fun (command, fill) =>
      (command, fun text => .sum (fill text) quoted)
  | .parameter name trim quoted =>
    (pendingTrim? c name trim).map fun (command, fill) =>
      (command, fun text => .parameter name (fill text) quoted)

/-- The same for what is made of the value of a parameter. -/
def pendingTrim? (c : Scene) (name : String) :
    Trim → Option (ShellCommand × (List Char → Trim))
  | .whole | .length => none
  | .without atEnd longest pattern =>
    (pending? c pattern).map fun (command, fill) =>
      (command, fun text => .without atEnd longest (fill text))
  | .orElse alsoEmpty fallback =>
    if c.isGiven name alsoEmpty then none
    else (pending? c fallback).map fun (command, fill) =>
      (command, fun text => .orElse alsoEmpty (fill text))
  | .orAssign alsoEmpty fallback =>
    if c.isGiven name alsoEmpty then none
    else (pending? c fallback).map fun (command, fill) =>
      (command, fun text => .orAssign alsoEmpty (fill text))
  | .orFail alsoEmpty complaint =>
    if c.isGiven name alsoEmpty then none
    else (pending? c complaint).map fun (command, fill) =>
      (command, fun text => .orFail alsoEmpty (fill text))
  | .instead alsoEmpty replacement =>
    if c.isGiven name alsoEmpty then
      (pending? c replacement).map fun (command, fill) =>
        (command, fun text => .instead alsoEmpty (fill text))
    else none

/-- The first command whose output a word needs, and the word once it is there. -/
def pending? (c : Scene) : List Piece → Option (ShellCommand × (List Char → List Piece))
  | [] => none
  | piece :: rest =>
    match pendingPiece? c piece with
    | some (command, fill) => some (command, fun text => fill text :: rest)
    | none => (pending? c rest).map fun (command, fill) => (command, fun text => piece :: fill text)

end

/-- The same for several words. -/
def pendingWords? (c : Scene) : List Word → Option (ShellCommand × (List Char → List Word))
  | [] => none
  | word :: rest =>
    match c.pending? word with
    | some (command, fill) => some (command, fun text => fill text :: rest)
    | none =>
      (pendingWords? c rest).map fun (command, fill) => (command, fun text => word :: fill text)

/-- The same for assignments. -/
def pendingAssignments? (c : Scene) :
    List (String × Word) → Option (ShellCommand × (List Char → List (String × Word)))
  | [] => none
  | (name, word) :: rest =>
    match c.pending? word with
    | some (command, fill) => some (command, fun text => (name, fill text) :: rest)
    | none =>
      (pendingAssignments? c rest).map fun (command, fill) =>
        (command, fun text => (name, word) :: fill text)

/-- The same for the path of a redirection. -/
def pendingRedirection? (c : Scene) :
    Redirection → Option (ShellCommand × (List Char → Redirection))
  | .copy _ _ | .close _ => none
  | .toFile descriptor append path =>
    (c.pending? path).map fun (command, fill) =>
      (command, fun text => .toFile descriptor append (fill text))
  | .fromFile path =>
    (c.pending? path).map fun (command, fill) => (command, fun text => .fromFile (fill text))

/-- The same for redirections. -/
def pendingRedirections? (c : Scene) :
    List Redirection → Option (ShellCommand × (List Char → List Redirection))
  | [] => none
  | r :: rest =>
    match c.pendingRedirection? r with
    | some (command, fill) => some (command, fun text => fill text :: rest)
    | none =>
      (pendingRedirections? c rest).map fun (command, fill) =>
        (command, fun text => r :: fill text)

/-- The first command whose output a command needs before it begins, and the command once it is
there. -/
def pendingCommand? (c : Scene) :
    ShellCommand → Option (ShellCommand × (List Char → ShellCommand))
  | .simple assignments words redirections =>
    match c.pendingWords? words with
    | some (command, fill) =>
      some (command, fun text => .simple assignments (fill text) redirections)
    | none =>
      match c.pendingRedirections? redirections with
      | some (command, fill) =>
        some (command, fun text => .simple assignments words (fill text))
      | none =>
        (c.pendingAssignments? assignments).map fun (command, fill) =>
          (command, fun text => .simple (fill text) words redirections)
  | .each name (some words) body =>
    (c.pendingWords? words).map fun (command, fill) =>
      (command, fun text => .each name (some (fill text)) body)
  | .cases word arms =>
    (c.pending? word).map fun (command, fill) => (command, fun text => .cases (fill text) arms)
  | .redirected inner redirections =>
    (c.pendingRedirections? redirections).map fun (command, fill) =>
      (command, fun text => .redirected inner (fill text))
  | _ => none

end Scene

end Overseer
