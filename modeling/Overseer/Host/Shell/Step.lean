import Overseer.Host.Shell.Builtin

/-!
# Steps of a program

`Shell.step` does the next thing that a program has to do, and tells how its run goes on.

* `Scene.redirectAll` -- sets the streams of a command;
* `Scene.simple` -- runs a simple command;
* `Scene.begin` -- begins any command, which leaves chores;
* `Scene.carryOut` -- does one chore.
-/

namespace Overseer

namespace Scene

/-- Why a file could not be opened. -/
def openFailure (creating : Bool) (path : String) (e : IoError) : String :=
  let reason : String := match e with
    | .os ⟨2⟩ | .os ⟨20⟩ => if creating then "Directory nonexistent" else "No such file"
    | e => ((e.message).splitOn " (os error").headD ""
  let attempt := if creating then "create" else "open"
  s!"cannot {attempt} {path}: {reason}"

/-- Carries out one redirection. -/
def redirect (c : Scene) : Redirection → Except String Unit × Scene
  | .copy descriptor source =>
    (.ok (), c.withStreams (c.streams.set descriptor (c.streams.get source)))
  | .close descriptor => (.ok (), c.withStreams (c.streams.set descriptor .nowhere))
  | .fromFile path =>
    match c.textOf path with
    | (.error reason, c) => (.error reason, c)
    | (.ok path, c) =>
      match c.site.files.contents c.directory path with
      | .ok bytes => (.ok (), { c with input := ((String.fromUTF8? bytes).getD "").toList })
      | .error e => (.error (openFailure false path e), c)
  | .toFile descriptor append path =>
    match c.textOf path with
    | (.error reason, c) => (.error reason, c)
    | (.ok path, c) =>
      match c.site.files.openForAppending c.directory path with
      | .error e => (.error (openFailure true path e), c)
      | .ok (place, files) =>
        let files :=
          match append, files.node? place with
          | false, some (.file _) => files.put place (.file .empty)
          | _, _ => files
        (.ok (), { c with site := { c.site with files } }.withStreams
          (c.streams.set descriptor (.file place)))

/-- Carries out redirections. -/
def redirectAll (c : Scene) : List Redirection → Except String Unit × Scene
  | [] => (.ok (), c)
  | r :: rest =>
    match c.redirect r with
    | (.ok (), c) => redirectAll c rest
    | (.error reason, c) => (.error reason, c)

/-- Whether a redirection changes what is read. -/
def readsFile : Redirection → Bool
  | .fromFile _ => true
  | _ => false

/-- What the shell checks after a command that may not fail. -/
def checks (c : Scene) (tested : Bool) : List Chore :=
  if c.stopsOnFailure && !tested then [.check] else []

/-- Sets variables; they are exported when only one command gets them. -/
def assignAll (c : Scene) (exporting : Bool) :
    List (String × Word) → Except String Unit × Scene
  | [] => (.ok (), c)
  | (name, word) :: rest =>
    match c.textOf word with
    | (.error reason, c) => (.error reason, c)
    | (.ok text, c) =>
      let c := c.assign name text
      assignAll (if exporting then c.exportName name else c) exporting rest

/-- Whether a word holds what a command has written. -/
def holdsOutput (word : Word) : Bool :=
  word.any fun
    | .written _ _ => true
    | _ => false

/-- The plain text of a piece outside quotes. -/
def plainText : Piece → List Char
  | .text text false => text
  | _ => []

/-- The words of a command: those that are assignments are not divided after certain commands. -/
def protectAssignments : List Word → List Word
  | [] => []
  | first :: rest =>
    let name := String.ofList (first.flatMap plainText)
    if name = "export" || name = "readonly" || name = "local" then
      first :: rest.map fun word =>
        let plain := (word.takeWhile fun p => !(plainText p).isEmpty).flatMap plainText
        let key := plain.takeWhile (· != '=')
        if ShellCommand.isName (String.ofList key) && key.length < plain.length then
          word.map quotePiece
        else word
    else first :: rest
where
  /-- A piece that is not divided. -/
  quotePiece : Piece → Piece
    | .text text _ => .text text true
    | .parameter name trim _ => .parameter name trim true
    | .substitution command _ => .substitution command true
    | .written text _ => .written text true
    | .sum expression _ => .sum expression true

/-- Calls a function. -/
def call (c : Scene) (body : ShellCommand) (args : List String) (tested : Bool) : Scene :=
  { c with args, localized := [] }.first [.command body tested, .returned c.args c.localized]

/-- Runs a command with its arguments. -/
def run (c : Scene) (tested : Bool) : List String → Outcome × Scene
  | [] => (.goOn, c.ended 0)
  | name :: args =>
    match c.functions.lookup name, isSpecial name with
    | some body, false => (.goOn, c.call body args tested)
    | _, _ =>
      let (name, args) := match name, args with
        | "command", "-v" :: _ => (name, args)
        | "command", inner :: rest => (inner, rest)
        | _, _ => (name, args)
      match c.builtin? name args with
      | some result => result
      | none => c.launch name args

/-- Runs a simple command. -/
def simple (c : Scene) (assignments : List (String × Word)) (words : List Word)
    (redirections : List Redirection) (tested : Bool) : Outcome × Scene :=
  match c.fieldsOf (protectAssignments words) with
  | (.error reason, c) => (.goOn, c.abort reason)
  | (.ok fields, c) =>
    let before := c.streams
    let name := fields.headD ""
    match c.redirectAll redirections with
    | (.error reason, c) =>
      let c := c.withStreams before
      if isSpecial name then (.goOn, c.abort reason)
      else (.goOn, (c.complain 2 reason).first (c.checks tested))
    | (.ok (), c) =>
      if fields.isEmpty then
        match c.assignAll false assignments with
        | (.error reason, c) => (.goOn, (c.withStreams before).abort reason)
        | (.ok (), c) =>
          let kept := words.any holdsOutput || assignments.any fun a => holdsOutput a.2
          let c := c.withStreams before
          (.goOn, (if kept then c else c.ended 0).first (c.checks tested))
      else
        let lasting := isSpecial name
        let saved := if lasting then [] else assignments.map fun a => c.saved a.1
        match c.assignAll (!lasting || name = "exec") assignments with
        | (.error reason, c) => (.goOn, (c.withStreams before).abort reason)
        | (.ok (), c) =>
          let keepsStreams := name = "exec" && fields.length = 1
          let cleanup : List Chore :=
            (if saved.isEmpty then [] else [.unassign saved]) ++
              (if redirections.isEmpty || keepsStreams then []
                else [.redirectBack before (redirections.any readsFile)]) ++
              c.checks tested
          (c.first cleanup).run tested fields

/-- The first of several commands whose patterns match a text. -/
def chosen (c : Scene) (text : List Char) :
    List (List Word × ShellCommand) → Except String ShellCommand × Scene
  | [] => (.ok .nothing, c)
  | (patterns, body) :: rest =>
    match anyFits c patterns with
    | (.error reason, c) => (.error reason, c)
    | (.ok true, c) => (.ok body, c)
    | (.ok false, c) => chosen c text rest
where
  /-- Whether one of some patterns matches. -/
  anyFits (c : Scene) : List Word → Except String Bool × Scene
    | [] => (.ok false, c)
    | pattern :: rest =>
      match c.markedOf pattern with
      | (.error reason, c) => (.error reason, c)
      | (.ok marked, c) =>
        if Pattern.fits (Pattern.read 0 marked) text then (.ok true, c) else anyFits c rest

/-- The signals that a command which is not waited for ignores. -/
def backgroundTraps : List (Signal × Option String) := [(⟨2⟩, none), (⟨3⟩, none)]

/-- A shell that runs a command which is not waited for. -/
def apart (c : Scene) (command : ShellCommand) : Shell :=
  { c.enter.toShell with
    traps := backgroundTraps ++ inherited c.traps
    input := []
    jobs := []
    finished := []
    caught := []
    chores := [.command command false] }

/-- Begins a command that writes to a new pipe; `last` is what is done with the pipe. -/
def piping (c : Scene) (command : ShellCommand) (tested : Bool) (last : List Chore) : Scene :=
  let below := c.pipes.length
  { c.enter with pipes := "" :: c.pipes, output := .pipe below }.first
    (.command command tested :: last)

/-- Begins a command all of whose parts are there. -/
def beginReady (c : Scene) (tested : Bool) : ShellCommand → Outcome × Scene
  | .nothing => (.goOn, c)
  | .simple assignments words redirections => c.simple assignments words redirections tested
  | .sequence a b => (.goOn, c.first [.command a tested, .command b tested])
  | .chain onSuccess a b => (.goOn, c.first [.command a true, .chain onSuccess b tested])
  | .negated a => (.goOn, c.first [.command a true, .negate])
  | .branch condition a b => (.goOn, c.first [.command condition true, .branch a b tested])
  | .loop whileSuccess condition body =>
    (.goOn, c.first [.round false whileSuccess condition body tested])
  | .each name none body => (.goOn, (c.ended 0).first [.each name c.args body tested])
  | .each name (some words) body =>
    match c.fieldsOf words with
    | (.error reason, c) => (.goOn, c.abort reason)
    | (.ok fields, c) => (.goOn, (c.ended 0).first [.each name fields body tested])
  | .cases word arms =>
    match c.textOf word with
    | (.error reason, c) => (.goOn, c.abort reason)
    | (.ok text, c) =>
      match c.chosen text.toList arms with
      | (.error reason, c) => (.goOn, c.abort reason)
      | (.ok body, c) => (.goOn, (c.ended 0).first [.command body tested])
  | .redirected inner redirections =>
    let before := c.streams
    match c.redirectAll redirections with
    | (.error reason, c) =>
      (.goOn, ((c.withStreams before).complain 2 reason).first (c.checks tested))
    | (.ok (), c) =>
      let back := .redirectBack before (redirections.any readsFile)
      (.goOn, c.first [.command inner tested, back])
  | .subshell inner =>
    (.goOn, c.enter.first (.command inner tested :: .restore c.toFrame :: c.checks tested))
  | .pipeline a b =>
    (.goOn, c.piping a tested (.feed c.toFrame b tested :: c.checks tested))
  | .background inner => (.fork (c.apart inner), c.ended 0)
  | .define name body =>
    (.goOn, { c with functions := (name, body) :: c.functions.filter (·.1 != name) }.ended 0)

/-- Begins a command.  What it needs of other commands comes first. -/
def begin (c : Scene) (tested : Bool) (command : ShellCommand) : Outcome × Scene :=
  match c.pendingCommand? command with
  | some (inner, rebuild) => (.goOn, c.piping inner tested [.collect c.toFrame rebuild tested])
  | none => c.beginReady tested command

/-- Takes what was written to the newest pipe. -/
def takePiped (c : Scene) : List Char × Scene :=
  ((c.pipes.headD "").toList, { c with pipes := c.pipes.tail })

/-- A text without the ends of lines at its end. -/
def withoutLineEnds (text : List Char) : List Char :=
  (text.reverse.dropWhile (· == '\n')).reverse

/-- Does one chore, which is not the end of something that keeps its changes for itself. -/
def carryOut (c : Scene) : Chore → Outcome × Scene
  | .command command tested => c.begin tested command
  | .script text =>
    match text, ShellCommand.read text with
    | [], _ => (.goOn, c)
    | _, some (command, rest) => (.goOn, c.first [.command command false, .script rest])
    | _, none => (.goOn, c.abort "Syntax error")
  | .chain onSuccess second tested =>
    if (c.status == 0) == onSuccess then (.goOn, c.first [.command second tested]) else (.goOn, c)
  | .negate => (.goOn, c.ended (if c.status = 0 then 1 else 0))
  | .branch a b tested =>
    let body := if c.status = 0 then a else b
    (.goOn, (c.ended 0).first [.command body tested])
  | .round further whileSuccess condition body tested =>
    let last := if further then c.status else 0
    (.goOn, c.first
      [.command condition true, .verdict whileSuccess condition body tested last])
  | .verdict whileSuccess condition body tested last =>
    if (c.status == 0) == whileSuccess then
      (.goOn, (c.ended 0).first
        [.command body tested, .round true whileSuccess condition body tested])
    else (.goOn, c.ended last)
  | .each _ [] _ _ => (.goOn, c)
  | .each name (value :: values) body tested =>
    (.goOn, (c.assign name value).first [.command body tested, .each name values body tested])
  | .program name zero args => c.runProgram name zero args
  | .restore frame => (.goOn, c.withFrame frame)
  | .collect frame rebuild tested =>
    let (text, c) := c.takePiped
    (.goOn, (c.withFrame frame).first [.command (rebuild (withoutLineEnds text)) tested])
  | .feed frame second tested =>
    let (text, c) := c.takePiped
    let c := (c.withFrame frame).enter
    (.goOn, { c with input := text }.first [.command second tested, .restore frame])
  | .returned args localized =>
    let c := c.localized.foldl putBack c
    (.goOn, { c with args, localized })
  | .sourced => (.goOn, c)
  | .redirectBack streams inputToo =>
    let input := if inputToo then streams.input else c.input
    (.goOn, c.withStreams { streams with input })
  | .unassign saved => (.goOn, saved.foldl putBack c)
  | .status code => (.goOn, c.ended code)
  | .check => if c.status = 0 then (.goOn, c) else (.goOn, c.leave c.status)
  | .leave code =>
    match c.traps.lookup Signal.exit with
    | some (some text) =>
      let c := { c with traps := c.traps.filter (·.1 ≠ Signal.exit) }
      (.goOn, (c.ended code).first [.script text.toList, .leave code])
    | _ => if c.chores.isEmpty then (.exit code, c.ended code) else (.goOn, c.ended code)

/-- Puts the scripts for caught signals before everything else that is to be done. -/
def takeCaught (c : Scene) : Scene :=
  let sorted := c.caught.mergeSort fun a b => a.number ≤ b.number
  let scripts := sorted.filterMap fun s =>
    match c.traps.lookup s with
    | some (some text) => some (Chore.script text.toList)
    | _ => none
  { c with caught := [] }.first (scripts ++ [Chore.status c.status])

/-- Does the next thing. -/
def step (c : Scene) : Outcome × Scene :=
  if !c.caught.isEmpty && !c.chores.any isBoundary then (.goOn, c.takeCaught)
  else
    match c.chores with
    | [] => (.goOn, c.leave c.status)
    | chore :: rest =>
      if isBoundary chore && ((c.traps.lookup Signal.exit).join).isSome then
        (.goOn, c.first [.leave c.status])
      else { c with chores := rest }.carryOut chore

end Scene

end Overseer
