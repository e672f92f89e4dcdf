import Overseer.CommandLine.Given

/-!
# Reading a command line

A command line is read word by word.  An option whose value stands apart, and words that are no
options, are pending until the next one of another kind comes or the line ends; only then they are
looked at.

* `Parse` -- how far the reading has come; `Parse.word` reads one more word;
* `Scope.parse` -- reads what follows the name of a command;
* `CommandLine.parse` -- reads a whole command line into an `Invocation`.
-/

namespace Overseer

/-- What has been read and not looked at. -/
inductive Pending where
  | nothing
  /-- An option that waits for its value, or has it. -/
  | flag (flag : Flag) (value : Option String)
  | words (words : List String)

/-- How far the reading has come. -/
structure Parse where
  given : Given
  pending : Pending
  /-- Only words follow, whatever they look like. -/
  onlyWords : Bool
  /-- How many words there were that are no options. -/
  count : Nat

/-- Whether a text looks like a number without its sign: digits, with at most one point and at most
one exponent, neither of them first and the exponent not last. -/
def looksNumeric (text : List Char) : Bool :=
  let whole := text.dropWhile isDigit
  let exponent (rest : List Char) :=
    match rest with
    | [] => true
    | 'e' :: digits => !digits.isEmpty && digits.all isDigit
    | _ => false
  match whole with
  | '.' :: rest => whole.length < text.length && exponent (rest.dropWhile isDigit)
  | rest => rest.isEmpty || (rest.length < text.length && exponent rest)

/-- A text divided at its first equals sign. -/
def splitAtEquals (text : List Char) : List Char × Option (List Char) :=
  (text.takeWhile (· != '='),
    match text.dropWhile (· != '=') with
    | [] => none
    | _ :: value => some value)

namespace Parse

/-- Nothing has been read. -/
def start : Parse := ⟨{}, .nothing, false, 0⟩

/-- The option that waits for its value. -/
def awaiting? (p : Parse) : Option Flag :=
  match p.pending with
  | .flag f none => some f
  | _ => none

/-- Looks at what is pending. -/
def resolve (scope : Scope) (p : Parse) : Except UsageError Parse :=
  match p.pending with
  | .nothing => .ok p
  | .flag _ none => .error .invalidValue
  | .flag f (some value) => do
    let given ← p.given.accept f value
    pure { p with given, pending := .nothing }
  | .words words => do
    let given ← p.given.acceptWords scope words
    pure { p with given, pending := .nothing }

/-- An option without a value. -/
def raise (scope : Scope) (p : Parse) (flag : Flag) : Except UsageError Parse := do
  let p ← p.resolve scope
  let given ← p.given.raise flag
  pure { p with given }

/-- An option and the value attached to it, if there is one. -/
def option (scope : Scope) (p : Parse) (flag : Flag) (attached : Option (List Char)) :
    Except UsageError Parse := do
  let p ← p.resolve scope
  match attached with
  | some value => do
    let given ← p.given.accept flag (String.ofList value)
    pure { p with given }
  | none => pure { p with pending := .flag flag none }

/-- A word that begins with two dashes, without them. -/
def longOption (scope : Scope) (p : Parse) (text : List Char) : Except UsageError Parse :=
  let (name, attached) := splitAtEquals text
  match scope.long? (String.ofList name) with
  | none => .error .unknownArgument
  | some flag =>
    if flag.takesValue then p.option scope flag attached
    else if attached.isSome then .error .unneededValue
    else p.raise scope flag

/-- A word that begins with one dash, without it: options without values, of which the last may
take one. -/
def shortOptions (scope : Scope) (p : Parse) : List Char → Except UsageError Parse
  | [] => .ok p
  | c :: rest =>
    match scope.short? c with
    | none => .error .unknownArgument
    | some flag =>
      if flag.takesValue then
        match rest with
        | [] => p.option scope flag none
        | '=' :: value => p.option scope flag (some value)
        | value => p.option scope flag (some value)
      else do
        let p ← p.raise scope flag
        shortOptions scope p rest

/-- A word that is no option. -/
def plainWord (scope : Scope) (p : Parse) (text : String) : Except UsageError Parse :=
  match scope with
  | .program =>
    if p.onlyWords && (text = "help" || (Scope.command? text).isSome) then .error .unknownArgument
    else .error .unknownCommand
  | .run =>
    if !p.onlyWords then .error .unknownArgument
    else
      match p.pending with
      | .words words => .ok { p with pending := .words (words ++ [text]), count := p.count + 1 }
      | _ => do
        let p ← p.resolve scope
        pure { p with pending := .words [text], count := p.count + 1 }
  | .check =>
    if 0 < p.count then .error .unknownArgument
    else do
      let p ← p.resolve scope
      pure { p with pending := .words [text], count := p.count + 1 }

/-- A word that does not look like an option: a value that is waited for, or a plain word. -/
def valueOrWord (scope : Scope) (p : Parse) (text : String) : Except UsageError Parse :=
  match p.awaiting? with
  | some flag => .ok { p with pending := .flag flag (some text) }
  | none => p.plainWord scope text

/-- Reads one word. -/
def word (scope : Scope) (p : Parse) (text : String) : Except UsageError Parse :=
  if p.onlyWords then p.plainWord scope text
  else
    match text.toList with
    | ['-', '-'] => .ok { p with onlyWords := true }
    | '-' :: '-' :: long => p.longOption scope long
    | ['-'] => p.valueOrWord scope text
    | '-' :: short =>
      if p.awaiting?.any Flag.takesNegative && looksNumeric short then p.valueOrWord scope text
      else p.shortOptions scope short
    | _ => p.valueOrWord scope text

end Parse

/-- What has to hold of all that is given to a command. -/
def Given.complete (g : Given) : Scope → Except UsageError Given
  | .run => if g.config.isSome && !g.command.isEmpty then .error .conflict else .ok g
  | .check => if g.file.isNone then .error .missingArgument else .ok g
  | .program => .ok g

/-- Reads what follows the name of a command. -/
def Scope.parse (scope : Scope) (words : List String) : Except UsageError Given := do
  let p ← words.foldlM (Parse.word scope) .start
  let p ← p.resolve scope
  p.given.complete scope

/-- What is asked of the command that launches a process. -/
structure RunOptions where
  name : Option String
  /-- The file to take the entry from, in place of the options. -/
  config : Option String
  detach : Bool
  restarts : Int
  interval : UInt64
  inheritOutput : Bool
  /-- Variables, each as one text. -/
  env : List String
  /-- The command to launch and its arguments. -/
  command : List String

/-- What the program is asked to do. -/
inductive Task where
  | run (options : RunOptions)
  | check (file : String)

/-- A command line that was understood. -/
structure Invocation where
  logLevel : String
  task : Task

/-- Ticks come every second when nothing else is asked for. -/
def defaultInterval : UInt64 := 1000

/-- The task that is given. -/
def Given.task (g : Given) : Scope → Except UsageError Task
  | .program => .error .missingCommand
  | .check =>
    match g.file with
    | some file => .ok (.check file)
    | none => .error .missingArgument
  | .run =>
    .ok <| .run {
      name := g.name
      config := g.config
      detach := g.detach
      restarts := g.restarts.getD 0
      interval := g.interval.getD defaultInterval
      inheritOutput := g.inheritOutput
      env := g.env
      command := g.command }

namespace CommandLine

/-- How much is logged when nothing else is asked for. -/
def defaultLogLevel : String := "info"

/-- The help on commands: one command has to be known, and none has commands of its own. -/
def help : List String → UsageError
  | [] => .helpRequested
  | [name] =>
    if name = "help" || (Scope.command? name).isSome then .helpRequested else .unknownCommand
  | _ => .unknownCommand

/-- Reads the options before the name of a command, and all that follows it. -/
def parseFrom (p : Parse) : List String → Except UsageError (Parse × Option (Scope × Given))
  | [] => .ok (p, none)
  | text :: rest =>
    let name := if p.onlyWords || p.awaiting?.isSome then none else some text
    if name = some "help" then .error (help rest)
    else
      match name.bind Scope.command? with
      | some scope => do
        let given ← scope.parse rest
        pure (p, some (scope, given))
      | none => do
        let p ← p.word .program text
        parseFrom p rest

/-- Reads a command line, whose first word names the program.  The log level may be given before and
after the name of the command; the latter counts. -/
def parse (argv : List String) : Except UsageError Invocation := do
  let (p, command) ← parseFrom .start argv.tail
  let p ← p.resolve .program
  match command with
  | none => .error (if p.given.logLevel.isSome then .missingCommand else .nothingGiven)
  | some (scope, given) => do
    let task ← given.task scope
    pure ⟨(given.logLevel.or p.given.logLevel).getD defaultLogLevel, task⟩

end CommandLine

end Overseer
