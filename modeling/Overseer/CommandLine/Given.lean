import Overseer.CommandLine.Flag
import Overseer.Reader

/-!
# What a command line gives

`Given` collects the options and the words of a command line.  An option that is given twice is a
conflict, unless its values add up; a value has to be of the kind that its option takes.

* `Given.raise` -- an option without a value;
* `Given.accept` -- an option with its value;
* `signedOfText?`, `unsignedOfText?` -- whole numbers of 64 bits, with an optional sign.
-/

namespace Overseer

/-- The number that decimal digits write, at least one. -/
def naturalOfDigits? (digits : List Char) : Option Nat :=
  if digits.isEmpty || !digits.all isDigit then none else some (digitsValue 10 digits)

/-- A whole number of 64 bits with a sign. -/
def signedOfText? (text : String) : Option Int :=
  let number : Option Int :=
    match text.toList with
    | '-' :: digits => (naturalOfDigits? digits).map fun n => -(n : Int)
    | '+' :: digits => (naturalOfDigits? digits).map fun n => (n : Int)
    | digits => (naturalOfDigits? digits).map fun n => (n : Int)
  number.filter fun n => Int64.minValue.toInt ≤ n && n ≤ Int64.maxValue.toInt

/-- A whole number of 64 bits without a sign. -/
def unsignedOfText? (text : String) : Option UInt64 :=
  let number :=
    match text.toList with
    | '+' :: digits => naturalOfDigits? digits
    | digits => naturalOfDigits? digits
  (number.filter fun n => n < UInt64.size).map UInt64.ofNat

/-- The options and words of a command line. -/
structure Given where
  logLevel : Option String := none
  name : Option String := none
  config : Option String := none
  detach : Bool := false
  restarts : Option Int := none
  interval : Option UInt64 := none
  inheritOutput : Bool := false
  env : List String := []
  /-- The command to launch and its arguments. -/
  command : List String := []
  /-- The file to check. -/
  file : Option String := none

namespace Given

/-- Takes note of an option without a value. -/
def raise (g : Given) : Flag → Except UsageError Given
  | .detach => if g.detach then .error .conflict else .ok { g with detach := true }
  | .inheritOutput =>
    if g.inheritOutput then .error .conflict else .ok { g with inheritOutput := true }
  | .help => .error .helpRequested
  | .version => .error .versionRequested
  | _ => .error .invalidValue

/-- A value that may be anything. -/
def anyText (text : String) : Except UsageError String := .ok text

/-- A path, which is not empty. -/
def path (text : String) : Except UsageError String :=
  if text = "" then .error .invalidValue else .ok text

/-- A value of a kind. -/
def ofKind {α : Type} (read? : String → Option α) (text : String) : Except UsageError α :=
  match read? text with
  | some a => .ok a
  | none => .error .malformedValue

/-- The value of an option that is given once. -/
def once {α : Type} (old : Option α) (read : String → Except UsageError α) (text : String) :
    Except UsageError (Option α) :=
  if old.isSome then .error .conflict else (read text).map some

/-- Takes note of an option and its value. -/
def accept (g : Given) (flag : Flag) (value : String) : Except UsageError Given :=
  match flag with
  | .logLevel => do
    let logLevel ← once g.logLevel anyText value
    pure { g with logLevel }
  | .name => do
    let name ← once g.name anyText value
    pure { g with name }
  | .config => do
    let config ← once g.config path value
    pure { g with config }
  | .restarts => do
    let restarts ← once g.restarts (ofKind signedOfText?) value
    pure { g with restarts }
  | .interval => do
    let interval ← once g.interval (ofKind unsignedOfText?) value
    pure { g with interval }
  | .env => .ok { g with env := g.env ++ [value] }
  | .detach | .inheritOutput | .help | .version => .error .unneededValue

/-- Takes note of the words after the options. -/
def acceptWords (g : Given) (scope : Scope) (words : List String) : Except UsageError Given :=
  match scope, words with
  | .check, word :: _ => do
    let file ← path word
    pure { g with file := some file }
  | _, _ => .ok { g with command := g.command ++ words }

end Given

end Overseer
