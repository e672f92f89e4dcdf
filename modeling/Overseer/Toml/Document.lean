import Overseer.Toml.Text
import Overseer.Toml.Tree

/-!
# TOML

`Toml.read` reads a TOML text: `Toml.statements` reads its lines, `Node.build` puts together the
tree they define.  A byte order mark at the beginning is skipped.  Arrays and inline tables nest at
most `Toml.maxDepth` deep.
-/

namespace Overseer.Toml

open Reader

/-- How deep arrays and inline tables nest. -/
def maxDepth : Nat := 79

/-- One element of an array and the comma after it, or the end. -/
def arrayStep (item : Reader Node) (sofar : List Node) : Reader (Loop (List Node) Node) := do
  gap
  if ← skip? [']'] then pure (.done (.array sofar.reverse))
  else
    let value ← item
    gap
    if ← skip? [','] then pure (.again (value :: sofar))
    else
      literal [']']
      pure (.done (.array (value :: sofar).reverse))

/-- A key, an equals sign and a value. -/
def assignment (item : Reader Node) : Reader (List String × Node) := do
  let key ← key
  literal ['=']
  blanks
  let value ← item
  pure (key, value)

/-- One entry of an inline table and the comma after it, or the end. -/
def inlineStep (item : Reader Node) (sofar : Node.Entries) :
    Reader (Loop Node.Entries Node) := do
  let (key, value) ← assignment item
  blanks
  match Node.assign key value sofar with
  | none => failure
  | some entries =>
    match ← next with
    | ',' => pure (.again entries)
    | '\x7d' => pure (.done (.closed entries))
    | _ => failure

/-- An inline table after its opening brace. -/
def inlineRest (item : Reader Node) : Reader Node := do
  blanks
  if ← skip? ['\x7d'] then pure (.closed [])
  else iterate (inlineStep item) []

/-- A value that is no container. -/
def scalar : Reader Value := do
  match ← peek? with
  | some '"' | some '\'' => .text <$> string
  | some 't' => do
    literal ['t', 'r', 'u', 'e']
    pure (.boolean true)
  | some 'f' => do
    literal ['f', 'a', 'l', 's', 'e']
    pure (.boolean false)
  | _ => number

/-- A value whose arrays and inline tables nest at most so deep. -/
def value : Nat → Reader Node
  | 0 => .leaf <$> scalar
  | depth + 1 => do
    match ← peek? with
    | some '[' => do
      let _ ← next
      iterate (arrayStep (value depth)) []
    | some '\x7b' => do
      let _ ← next
      inlineRest (value depth)
    | _ => .leaf <$> scalar

/-- The head of a table or of an element of an array of tables. -/
def header : Reader Statement := do
  if ← skip? ['[', '['] then
    let path ← key
    literal [']', ']']
    pure (.element path)
  else
    literal ['[']
    let path ← key
    literal [']']
    pure (.table path)

/-- One line, or the end of the text.  The statements so far are in reverse. -/
def lineStep (sofar : List Statement) : Reader (Loop (List Statement) (List Statement)) := do
  blanks
  match ← peek? with
  | none => pure (.done sofar.reverse)
  | some '#' | some '\n' | some '\r' => do
    let _ ← comment?
    lineBreak
    pure (.again sofar)
  | some '[' => do
    let statement ← header
    lineEnd
    pure (.again (statement :: sofar))
  | some _ => do
    let (key, value) ← assignment (value maxDepth)
    lineEnd
    pure (.again (.assign key value :: sofar))

/-- The lines of a text. -/
def statements : Reader (List Statement) := do
  let _ ← skip? ['\ufeff']
  iterate lineStep []

/-- Reads a TOML text, whose value is always a table. -/
def read (text : String) : Option Value := do
  let statements ← all statements text.toList
  let entries ← Node.build statements
  let values ← Node.entryValues? entries
  some (.table values)

end Overseer.Toml
