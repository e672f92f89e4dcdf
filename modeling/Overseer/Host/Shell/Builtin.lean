import Overseer.Host.Shell.Fields
import Overseer.Host.Shell.Program

/-!
# Commands that are part of the shell

* `Scene.isSpecial` -- the commands that no function can replace;
* `Scene.builtin?` -- runs a command that is part of the shell.
-/

namespace Overseer.Scene

/-- The commands that no function can replace, and whose assignments last. -/
def specialNames : List String := [":", ".", "break", "continue", "eval", "exec", "exit", "export",
  "readonly", "return", "set", "shift", "times", "trap", "unset"]

/-- The other commands that are part of the shell. -/
def usualNames : List String := ["[", "alias", "bg", "cd", "command", "echo", "false", "fg",
  "getopts", "hash", "jobs", "kill", "local", "printf", "pwd", "read", "test", "true", "type",
  "ulimit", "umask", "unalias", "wait"]

/-- Whether no function can replace a command. -/
def isSpecial (name : String) : Bool := specialNames.contains name

/-- A number without a sign. -/
def count? (text : String) : Option Nat :=
  if text.isEmpty || !text.toList.all isDigit then none else some (digitsValue 10 text.toList)

/-- The signal with a number or with a name, whose first three letters are left out. -/
def signal? (name : String) : Option Signal :=
  match count? name with
  | some n => if n ≤ 64 then some ⟨n⟩ else none
  | none =>
    let upper := String.ofList (name.toList.map Char.toUpper)
    if upper = "EXIT" then some .exit else Signal.ofName? ("SIG" ++ upper)

/-- What stands before the first equals sign, and what stands after it. -/
def divided (text : String) : String × Option String :=
  let name := text.toList.takeWhile (· != '=')
  match text.toList.dropWhile (· != '=') with
  | [] => (text, none)
  | _ :: value => (String.ofList name, some (String.ofList value))

/-- Changes the directory. -/
def changeDirectory (c : Scene) (args : List String) : Scene :=
  let back := args.head? = some "-"
  let path :=
    match args.head? with
    | none => (c.settings.lookup "HOME").getD ""
    | some path => if back then (c.settings.lookup "OLDPWD").getD "" else path
  match c.site.files.locate c.directory path with
  | .ok place =>
    match c.site.files.node? place with
    | some .directory =>
      let old := (c.settings.lookup "PWD").getD ""
      let new := FileSystem.pathOf place
      let c := { c with directory := place }
      let c := ((c.assign "PWD" new).exportName "PWD").assign "OLDPWD" old
      let c := (c.exportName "OLDPWD").ended 0
      if back then c.say (new ++ "\n") else c
    | _ => c.complain 2 s!"cd: can't cd to {path}"
  | .error _ => if path = "" then c.ended 0 else c.complain 2 s!"cd: can't cd to {path}"

/-- Sets what is done on a signal. -/
def setTrap (c : Scene) (action : Option (Option String)) (name : String) : Scene :=
  match signal? name with
  | none => (c.write c.errors s!"trap: {name}: bad trap\n").ended 1
  | some signal =>
    let others := c.traps.filter (·.1 ≠ signal)
    match action with
    | none => { c with traps := others }
    | some action => { c with traps := (signal, action) :: others }

/-- A text in single quotes. -/
def quoted (text : String) : String :=
  "'" ++ "'\"'\"'".intercalate (text.splitOn "'") ++ "'"

/-- Runs `trap`. -/
def runTrap (c : Scene) (args : List String) : Scene :=
  let c := c.ended 0
  match args with
  | [] =>
    let sorted := c.traps.mergeSort fun a b => a.1.number ≤ b.1.number
    sorted.foldl (fun c (signal, action) =>
      let name := if signal = .exit then "EXIT" else String.ofList (signal.name.toList.drop 3)
      let script := quoted (action.getD "")
      c.say s!"trap -- {script} {name}\n") c
  | "--" :: [] => c
  | [name] => c.setTrap none name
  | action :: names =>
    let (action, names) := if action = "--" then (names.headD "", names.tail) else (action, names)
    if (count? action).isSome then (action :: names).foldl (setTrap · none) c
    else
      let what :=
        if action = "-" then none else if action = "" then some none else some (some action)
      names.foldl (setTrap · what) c

/-- The line that tells of the death of a command by a signal; some signals are passed over. -/
def deathNotice (s : Signal) : String :=
  let texts : List (Nat × String) := [(1, "Hangup"), (3, "Quit"), (4, "Illegal instruction"),
    (5, "Trace/breakpoint trap"), (6, "Aborted"), (7, "Bus error"), (8, "Floating point exception"),
    (9, "Killed"), (10, "User defined signal 1"), (11, "Segmentation fault"),
    (12, "User defined signal 2"), (14, "Alarm clock"), (15, "Terminated")]
  match texts.lookup s.number with
  | some text => text ++ "\n"
  | none => ""

/-- Runs `kill` on the arguments after the signal.  A shell that shares its process with another one
only ends itself. -/
def sendTo (c : Scene) (signal : Option Signal) (targets : List String) : Outcome × Scene :=
  match targets.mapM count? with
  | none =>
    if targets.any (·.startsWith "%") then (.goOn, c.complain 1 "kill: No such process\n")
    else
      let wrong := (targets.find? fun t => (count? t).isNone).getD ""
      (.goOn, c.complain 2 s!"kill: Illegal number: {wrong}")
  | some [] => (.goOn, c.complain 2 "kill: Usage: kill [-s sigspec | -signum | -sigspec] [pid]...")
  | some pids =>
    let outermost := (c.chores.reverse.findSome? frameOf?).elim c.self (·.self)
    match signal with
    | some s =>
      if pids = [c.self] && c.self ≠ outermost then
        match c.traps.lookup s with
        | some none => (.goOn, c.ended 0)
        | some (some text) => (.goOn, (c.ended 0).first [.script text.toList, .status 0])
        | none =>
          let c := { c with traps := c.traps.filter (·.1 ≠ Signal.exit) }.leave (128 + s.number)
          (.goOn, c.write c.errors (deathNotice s))
      else (.send signal pids, c)
    | none =>
      if pids = [c.self] then (.goOn, c.ended 0) else (.send none pids, c)

/-- Runs `kill`. -/
def runKill (c : Scene) (args : List String) : Outcome × Scene :=
  let illegal (text : String) : Outcome × Scene := (.goOn, c.complain 2 s!"kill: {text}")
  let send (name : String) (targets : List String) : Outcome × Scene :=
    match signal? name with
    | some s => c.sendTo (if s.number = 0 then none else some s) targets
    | none => illegal s!"invalid signal number or name: {name}"
  match args with
  | "-l" :: numbers =>
    match numbers.head?.bind count? with
    | some n =>
      let signal : Signal := ⟨if 128 < n then n - 128 else n⟩
      (.goOn, (c.say (String.ofList (signal.name.toList.drop 3) ++ "\n")).ended 0)
    | none => (.goOn, c.ended 0)
  | "-s" :: name :: targets => send name targets
  | "--" :: targets => c.sendTo (some .term) targets
  | first :: rest =>
    match first.toList with
    | '-' :: name =>
      match signal? (String.ofList name) with
      | some _ => send (String.ofList name) rest
      | none => illegal ("Illegal option -" ++ String.ofList (name.take 1))
    | _ => c.sendTo (some .term) (first :: rest)
  | [] => c.sendTo (some .term) []

/-- Runs `wait`. -/
def runWait (c : Scene) (args : List String) : Outcome × Scene :=
  match args with
  | [] => (.await c.jobs true, c.ended 0)
  | args =>
    let oldest (arg : String) : Option Nat :=
      match arg.toList with
      | '%' :: digits => (count? (String.ofList digits)).bind fun n => c.jobs.reverse[n - 1]?
      | _ => count? arg
    match args.mapM oldest with
    | some pids => (.await pids false, c.ended 0)
    | none => (.goOn, c.complain 2 ("wait: Illegal number: " ++ args.headD ""))

/-- Sets options and arguments. -/
def setOptions (c : Scene) : List String → Scene
  | [] => c
  | "--" :: args => { c with args }
  | "-o" :: name :: rest => setOptions (setLong c true name) rest
  | "+o" :: name :: rest => setOptions (setLong c false name) rest
  | arg :: rest =>
    match arg.toList with
    | '-' :: letters => setOptions (setLetters c true letters) rest
    | '+' :: letters => setOptions (setLetters c false letters) rest
    | _ => { c with args := arg :: rest }
where
  /-- Sets an option that has a name. -/
  setLong (c : Scene) (on : Bool) (name : String) : Scene :=
    if name = "errexit" then { c with stopsOnFailure := on }
    else if name = "nounset" then { c with stopsOnUnset := on } else c
  /-- Sets options that are letters. -/
  setLetters (c : Scene) (on : Bool) (letters : List Char) : Scene :=
    { c with
      stopsOnFailure := if letters.contains 'e' then on else c.stopsOnFailure
      stopsOnUnset := if letters.contains 'u' then on else c.stopsOnUnset }

/-- Divides a line into as many fields as there are names; the last one takes the rest. -/
def lineFields (dividers : List Char) : Nat → List Char → List String
  | 0, _ => []
  | 1, line =>
    let isBlank (d : Char) : Bool := dividers.contains d && (d == ' ' || d == '\t')
    [String.ofList ((line.dropWhile isBlank).reverse.dropWhile isBlank).reverse]
  | n + 2, line =>
    let isBlank (d : Char) : Bool := dividers.contains d && (d == ' ' || d == '\t')
    let line := line.dropWhile isBlank
    let field := line.takeWhile (!dividers.contains ·)
    let rest := (line.drop field.length).dropWhile isBlank
    let rest := match rest with
      | d :: more => if dividers.contains d then more else rest
      | [] => []
    String.ofList field :: lineFields dividers (n + 1) rest

/-- Takes the backslashes out of what was read, which join a line to the next one: the line, and
what is left; tells whether the line had an end. -/
def joinedLine : List Char → List Char × Bool × List Char
  | [] => ([], false, [])
  | '\n' :: rest => ([], true, rest)
  | '\\' :: '\n' :: rest => joinedLine rest
  | '\\' :: d :: rest =>
    let (line, found, left) := joinedLine rest
    (d :: line, found, left)
  | d :: rest =>
    let (line, found, left) := joinedLine rest
    (d :: line, found, left)

/-- Runs `read`. -/
def runRead (c : Scene) (args : List String) : Scene :=
  let raw := args.contains "-r"
  let names := args.filter fun a => !a.startsWith "-"
  let (line, found, left) :=
    if raw then
      let line := c.input.takeWhile (· != '\n')
      (line, decide (line.length < c.input.length), c.input.drop (line.length + 1))
    else joinedLine c.input
  let c := { c with input := left }
  let fields := lineFields c.dividers names.length line
  let c := (names.zip fields).foldl (fun c (name, value) => c.assign name value) c
  c.ended (if found then 0 else 1)

/-- Sets variables, or only marks them. -/
def runAssign (c : Scene) (mark : Scene → String → Scene) (args : List String) : Scene :=
  args.foldl (fun c text =>
    match divided text with
    | (name, some value) => mark (c.assign name value) name
    | (name, none) => mark c name) (c.ended 0)

/-- Makes a variable the function's own. -/
def localize (c : Scene) (text : String) : Scene :=
  let (name, value) := divided text
  let c := { c with localized := c.saved name :: c.localized }
  match value with
  | some value => c.assign name value
  | none => c

/-- Whether a chore is the end of a function. -/
def isReturn : Chore → Bool
  | .returned .. => true
  | _ => false

/-- Runs `exec`. -/
def replace (c : Scene) (name : String) (args : List String) : Scene :=
  match c.find name with
  | .ok program =>
    { c with
      traps := inherited c.traps
      chores := .program program name args :: c.chores.dropWhile (!isBoundary ·) }
  | .error e =>
    if e == .eacces then (c.complain 126 s!"exec: {name}: Permission denied").leave 126
    else (c.complain 127 s!"exec: {name}: not found").leave 127

/-- Runs `.`. -/
def runFile (c : Scene) (path : String) : Scene :=
  match c.textAt path with
  | .ok text => (c.ended 0).first [.script text.toList, .sourced]
  | .error _ => c.abort s!".: cannot open {path}: No such file"

/-- The number that an argument names, if there is one and it is one. -/
def numberOr (fallback : Nat) (args : List String) : Option Nat :=
  match args with
  | [] => some fallback
  | text :: _ => count? text

/-- Runs `test`. -/
def runTest (c : Scene) (name : String) (args : List String) : Scene :=
  match Condition.holds c.site.files c.directory args with
  | .ok holds => c.ended (if holds then 0 else 1)
  | .error reason => c.complain 2 s!"{name}: {reason}"

/-- Tells where commands are. -/
def locateCommands (c : Scene) (names : List String) : Scene :=
  names.foldl (fun c name =>
    if isSpecial name || usualNames.contains name || (c.functions.lookup name).isSome then
      c.say (name ++ "\n")
    else
      let directories := Search.directoriesOf ((c.settings.lookup "PATH").getD "")
      match directories.find? fun d =>
          (Search.programAt c.site.files c.directory (Search.join d name)).isOk with
      | some d => c.say (Search.join d name ++ "\n")
      | none => c.ended 127) (c.ended 0)

/-- Runs a command that is part of the shell. -/
def builtin? (c : Scene) (name : String) (args : List String) : Option (Outcome × Scene) :=
  let goOn (c : Scene) : Option (Outcome × Scene) := some (.goOn, c)
  let numbered (fallback : Nat) (f : Nat → Scene) : Option (Outcome × Scene) :=
    match numberOr fallback args with
    | some n => goOn (f n)
    | none => goOn (c.abort (name ++ ": Illegal number: " ++ args.headD ""))
  match name with
  | "umask" => goOn ((if args.isEmpty then c.say "0022\n" else c).ended 0)
  | ":" | "true" | "ulimit" | "hash" | "alias" | "unalias" | "times" | "jobs" | "fg"
  | "bg" => goOn (c.ended 0)
  | "false" | "getopts" => goOn (c.ended 1)
  | "exit" => numbered c.status fun n => c.leave (n % 256)
  | "return" => numbered c.status fun n => c.leaveFunction (n % 256)
  | "break" => numbered 1 fun n => c.leaveLoop false n
  | "continue" => numbered 1 fun n => c.leaveLoop true n
  | "shift" => numbered 1 fun n =>
    if n ≤ c.args.length then { c with args := c.args.drop n }.ended 0
    else c.abort "shift: can't shift that many"
  | "echo" => goOn ((c.say (Printing.echoed args)).ended 0)
  | "printf" =>
    match if args.head? = some "--" then args.tail else args with
    | [] => goOn (c.complain 2 "printf: usage: printf format [arg ...]")
    | format :: values =>
      let (text, misfits) := Printing.printed format values
      let c := misfits.foldl (fun c value =>
        c.complain 1 s!"printf: {value}: expected numeric value") (c.ended 0)
      goOn (c.say text)
  | "pwd" => goOn ((c.say (FileSystem.pathOf c.directory ++ "\n")).ended 0)
  | "cd" => goOn (c.changeDirectory args)
  | "export" => goOn (c.runAssign exportName (args.filter (· != "-p")))
  | "readonly" => goOn (c.runAssign (fun c _ => c) args)
  | "local" =>
    if c.chores.any isReturn then goOn (args.foldl localize (c.ended 0))
    else goOn (c.abort "local: not in a function")
  | "unset" =>
    goOn ((args.foldl (fun c name =>
      { c.unset name with functions := c.functions.filter (·.1 != name) }) c).ended 0)
  | "set" => goOn ((c.setOptions args).ended 0)
  | "trap" => goOn (c.runTrap args)
  | "kill" => some (c.runKill args)
  | "wait" => some (c.runWait args)
  | "read" => goOn (c.runRead args)
  | "test" => goOn (c.runTest name args)
  | "[" =>
    if args.getLast? = some "]" then goOn (c.runTest name args.dropLast)
    else goOn (c.complain 2 "[: missing ]")
  | "eval" => goOn ((c.ended 0).first [.script (" ".intercalate args).toList])
  | "." => goOn (c.runFile (args.headD ""))
  | "exec" =>
    match args with
    | [] => goOn (c.ended 0)
    | name :: args => goOn (c.replace name args)
  | "type" => goOn (c.locateCommands args)
  | "command" =>
    match args with
    | "-v" :: names => goOn (c.locateCommands (names.take 1))
    | _ => none
  | _ => none

end Overseer.Scene
