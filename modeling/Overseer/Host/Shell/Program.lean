import Overseer.Environment
import Overseer.Host.Search
import Overseer.Host.Shell.Basic
import Overseer.Host.Shell.Condition
import Overseer.Host.Shell.Printing
import Overseer.Host.ShellCommand.Read

/-!
# Programs

The programs that are no part of the shell, and the shell as a program.

* `Scene.launch` -- searches for a program and runs it;
* `Scene.runProgram` -- runs a program that was found;
* `Shell.ofProgram` -- a program at the beginning of its run.
-/

namespace Overseer

namespace Scene

/-- Where a shell searches for programs when nothing else is said. -/
def defaultSearch : String := "/usr/local/sbin:/usr/local/bin:/usr/sbin:/usr/bin:/sbin:/bin"

/-- Searches for a program. -/
def find (c : Scene) (name : String) : Except Errno String :=
  if name.contains '/' then Search.programAt c.site.files c.directory name
  else
    Search.along c.site.files c.directory (fun _ => true) name false .enoent
      (Search.directoriesOf ((c.settings.lookup "PATH").getD ""))

/-- The variables that other programs get. -/
def exportedSettings (c : Scene) : List (String × String) :=
  c.settings.filter fun v => c.exported.contains v.1

/-- The milliseconds that a duration of `sleep` names. -/
def milliseconds? (text : String) : Option Nat :=
  let digits := text.toList
  let whole := digits.takeWhile isDigit
  let rest := digits.dropWhile isDigit
  let (places, rest) :=
    match rest with
    | '.' :: rest => (rest.takeWhile isDigit, rest.dropWhile isDigit)
    | rest => ([], rest)
  let factor : Option Nat :=
    match rest with
    | [] | ['s'] => some 1
    | ['m'] => some 60
    | ['h'] => some 3600
    | ['d'] => some 86400
    | _ => none
  if text = "infinity" || text = "inf" then some 1000000000000
  else if whole.isEmpty && places.isEmpty then none
  else
    factor.map fun factor =>
      let thousandths := (places ++ ['0', '0', '0']).take 3
      factor * (1000 * digitsValue 10 whole + digitsValue 10 thousandths)

/-- Runs `sleep`. -/
def runSleep (c : Scene) (zero : String) (args : List String) : Outcome × Scene :=
  let complain (text : String) : Outcome × Scene :=
    (.goOn, (c.write c.errors
      s!"{zero}: {text}\nTry '{zero} --help' for more information.\n").ended 1)
  match args.find? fun a => (milliseconds? a).isNone with
  | some wrong => complain s!"invalid time interval '{wrong}'"
  | none =>
    if args.isEmpty then complain "missing operand"
    else (.sleep ((args.filterMap milliseconds?).foldl (· + ·) 0), c.ended 0)

/-- The text of a file, or why there is none. -/
def textAt (c : Scene) (path : String) : Except String String :=
  match c.site.files.contents c.directory path with
  | .ok bytes => .ok ((String.fromUTF8? bytes).getD "")
  | .error e => .error (((e.message).splitOn " (os error").headD "")

/-- Runs `cat`. -/
def runCat (c : Scene) (zero : String) (args : List String) : Scene :=
  let showInput (c : Scene) : Scene := { c.say (String.ofList c.input) with input := [] }
  if args.isEmpty then (showInput c).ended 0
  else args.foldl (fun c path =>
    if path = "-" then showInput c
    else match c.textAt path with
      | .ok text => c.say text
      | .error reason => (c.write c.errors s!"{zero}: {path}: {reason}\n").ended 1) (c.ended 0)

/-- Runs `touch`. -/
def runTouch (c : Scene) (args : List String) : Scene :=
  args.foldl (fun c path =>
    match c.site.files.openForAppending c.directory path with
    | .ok (_, files) => { c with site := { c.site with files } }
    | .error _ => c.ended 1) (c.ended 0)

/-- Runs `mkdir`. -/
def runMakeDirectory (c : Scene) (args : List String) : Scene :=
  args.foldl (fun c path =>
    match c.site.files.locate c.directory path with
    | .ok place =>
      if (c.site.files.node? place).isSome then c.ended 1
      else { c with site := { c.site with files := c.site.files.put place .directory } }
    | .error _ => c.ended 1) (c.ended 0)

/-- Runs `ls` on a directory or on files. -/
def runList (c : Scene) (args : List String) : Scene :=
  let shown (names : List String) : String :=
    String.join ((names.mergeSort fun a b => a ≤ b).map (· ++ "\n"))
  let paths := args.filter fun a => !a.startsWith "-"
  (if paths.isEmpty then ["."] else paths).foldl (fun c path =>
    match c.site.files.locate c.directory path with
    | .error _ => c.ended 2
    | .ok place =>
      match c.site.files.node? place with
      | none => c.ended 2
      | some .directory =>
        c.say (shown ((c.site.files.namesIn place).filter fun name => !name.startsWith "."))
      | some _ => c.say (path ++ "\n")) (c.ended 0)

/-- Runs `rm` on files. -/
def runRemove (c : Scene) (args : List String) : Scene :=
  let forced := args.contains "-f"
  (args.filter (· != "-f")).foldl (fun c path =>
    match c.site.files.locate c.directory path with
    | .ok place =>
      match c.site.files.node? place with
      | some .directory => c.ended 1
      | some _ => { c with site := { c.site with files := c.site.files.remove place } }
      | none => if forced then c else c.ended 1
    | .error _ => if forced then c else c.ended 1) (c.ended 0)

/-- The variables as they are listed, one a line. -/
def listing (settings : List (String × String)) : String :=
  String.join ((settings.mergeSort fun a b => a.1 ≤ b.1).map fun (name, value) =>
    s!"{name}={value}\n")

/-- The options before the arguments of a shell, letter by letter, and the arguments. -/
def optionsOf : List String → List Char × List String
  | [] => ([], [])
  | arg :: rest =>
    match arg.toList with
    | ['-'] | ['-', '-'] => ([], rest)
    | '-' :: letters =>
      let (more, args) := optionsOf rest
      (letters ++ more, args)
    | _ => ([], arg :: rest)

/-- Runs a shell in this place.  `zero` is what it goes by unless it is told another name. -/
def runShell (c : Scene) (zero : String) (args : List String) : Scene :=
  let (letters, args) := optionsOf args
  let c := { c with
    zero, functions := [], localized := [], args := []
    stopsOnFailure := letters.contains 'e'
    stopsOnUnset := letters.contains 'u' }
  if letters.contains 'c' then
    match args with
    | [] => refuse c "-c requires an argument"
    | [text] => c.first [.script text.toList]
    | text :: zero :: args => { c with zero, args }.first [.script text.toList]
  else
    match args with
    | [] => { c with input := [] }.first [.script c.input]
    | path :: args =>
      match c.textAt path with
      | .ok text => { c with zero := path, args }.first [.script text.toList]
      | .error _ => refuse c s!"cannot open {path}: No such file"
where
  /-- Ends a shell that cannot begin. -/
  refuse (c : Scene) (reason : String) : Scene :=
    ((c.write c.errors s!"{c.zero}: 0: {reason}\n").ended 2).leave 2

/-- How far the numbers of processes lie apart that share one. -/
def selfStep : Nat := 100000

/-- Runs a shell as a program of its own, unless nothing else is left to be done. -/
def runInnerShell (c : Scene) (zero : String) (args : List String) : Scene :=
  let inner := { c.enter with settings := c.exportedSettings, exported := c.exported }
  if c.chores.isEmpty then inner.runShell zero args
  else ({ inner with self := c.self + selfStep }.first [.restore c.toFrame]).runShell zero args

/-- Whether a program is a shell. -/
def isShell (name : String) : Bool := name = "sh" || name = "dash" || name = "bash"

/-- Runs `env`: lists the variables, or runs a program with some more of them. -/
def runEnvironment (c : Scene) (args : List String) : Scene :=
  let isSetting (arg : String) : Bool := arg.contains '='
  let added := (args.takeWhile isSetting).map fun arg =>
    (String.ofList (arg.toList.takeWhile (· != '=')),
      String.ofList ((arg.toList.dropWhile (· != '=')).drop 1))
  let extended := added.foldl (fun c (name, value) => (c.assign name value).exportName name) c
  match args.dropWhile isSetting with
  | [] => (c.say (listing extended.exportedSettings)).ended 0
  | name :: args =>
    match extended.find name with
    | .ok program =>
      extended.first [.program program name args, .unassign (added.map fun v => c.saved v.1)]
    | .error _ =>
      (c.write c.errors s!"env: '{name}': No such file or directory\n").ended 127

/-- Runs a program that was found. -/
def runProgram (c : Scene) (name zero : String) (args : List String) : Outcome × Scene :=
  match name with
  | "sleep" => c.runSleep zero args
  | "cat" => (.goOn, c.runCat zero args)
  | "touch" => (.goOn, c.runTouch args)
  | "mkdir" => (.goOn, c.runMakeDirectory (args.filter (· != "-p")))
  | "ls" => (.goOn, c.runList args)
  | "rm" => (.goOn, c.runRemove args)
  | "echo" => (.goOn, (c.say (Printing.echoedByProgram args)).ended 0)
  | "printf" =>
    let (text, misfits) := Printing.printed (args.headD "") args.tail
    (.goOn, (c.say text).ended (if misfits.isEmpty then 0 else 1))
  | "env" => (.goOn, c.runEnvironment args)
  | "false" => (.goOn, c.ended 1)
  | "pwd" => (.goOn, (c.say (FileSystem.pathOf c.directory ++ "\n")).ended 0)
  | "test" =>
    match Condition.holds c.site.files c.directory args with
    | .ok holds => (.goOn, c.ended (if holds then 0 else 1))
    | .error _ => (.goOn, c.ended 2)
  | _ => if isShell name then (.goOn, c.runInnerShell zero args) else (.goOn, c.ended 0)

/-- Searches for a program and runs it. -/
def launch (c : Scene) (name : String) (args : List String) : Outcome × Scene :=
  match c.find name with
  | .ok program => c.runProgram program name args
  | .error e =>
    if e == .eacces then (.goOn, c.complain 126 s!"{name}: Permission denied")
    else (.goOn, c.complain 127 s!"{name}: not found")

end Scene

namespace Shell

/-- The variables that a shell takes over: a line sets what stands before its first equals sign, if
that is a name. -/
def takenOver (env : Environment) : List (String × String) :=
  env.settings.foldl (fun settings (name, value) =>
    let line := name ++ "=" ++ (String.fromUTF8? value).getD ""
    let key := String.ofList (line.toList.takeWhile (· != '='))
    let text := String.ofList ((line.toList.dropWhile (· != '=')).drop 1)
    if ShellCommand.isName key then (key, text) :: settings.filter (·.1 != key) else settings) []

/-- A program at the beginning of its run.  `name` is what it is, `zero` what it goes by. -/
def ofProgram (env : Environment) (directory : Place) (pid : Pid) (name zero : String)
    (args : List String) (out err : Channel) : Shell :=
  let settings :=
    if Scene.isShell name then
      let own := takenOver env
      let own := ("PWD", FileSystem.pathOf directory) :: own.filter (·.1 != "PWD")
      if (own.lookup "PATH").isSome then own else ("PATH", Scene.defaultSearch) :: own
    else env.settings.filterMap fun (k, v) => (String.fromUTF8? v).map (k, ·)
  let given := env.settings.map (·.1)
  { input := [], output := out, errors := err, others := [], self := pid, zero, args, settings
    exported := (settings.map (·.1)).filter fun k => k != "PATH" || given.contains k
    directory, traps := [], functions := [], stopsOnFailure := false, stopsOnUnset := false
    localized := [], chores := [.program name zero args], status := 0, pipes := [], jobs := []
    finished := [], caught := [] }

end Shell

end Overseer
