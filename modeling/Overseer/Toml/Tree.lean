import Overseer.Toml.Number

/-!
# TOML: which definitions go together

A file is a sequence of statements, each of which opens a table or sets a key of the table that is
open.  A table is opened once, and a key is set once; a table that came into being only because
another one inside it was opened may still be opened itself; a table that was made by a dotted key
may only be added to by further dotted keys and by opening other tables inside it.

* `Node` -- a tree under construction, which remembers how each table came into being and in which
  order its keys did;
* `Node.assign`, `Node.openTable`, `Node.openElement` -- the statements;
* `Node.build` -- all statements of a file; `Node.toValue?` -- the finished tree.

A table whose first key is `momentKey` is no table but the long form of a date or a time, which is
the text under that key, whatever else is in the table.  The table of the whole file is always a
table.
-/

namespace Overseer.Toml

/-- A tree under construction.  The entries of its tables are in the order in which their keys came
into being. -/
inductive Node where
  | leaf (value : Value)
  | array (items : List Node)
  /-- A table in braces, to which nothing can be added. -/
  | closed (entries : List (String × Node))
  /-- A table.  It is implied if it was never opened itself, and dotted if a dotted key made
  it. -/
  | branch (implied dotted : Bool) (entries : List (String × Node))
  /-- The tables of an array, the last one first. -/
  | branches (last : List (String × Node)) (earlier : List (List (String × Node)))

/-- A line of a file. -/
inductive Statement where
  /-- Opens a table. -/
  | table (path : List String)
  /-- Opens a new table at the end of an array. -/
  | element (path : List String)
  /-- Sets a key of the table that is open. -/
  | assign (key : List String) (value : Node)

namespace Node

/-- The entries of a table. -/
abbrev Entries := List (String × Node)

/-- Writes an entry: in the place of an older one with its key, or at the end. -/
def place (name : String) (node : Node) : Entries → Entries
  | [] => [(name, node)]
  | (k, v) :: rest => if k = name then (name, node) :: rest else (k, v) :: place name node rest

/-- Writes an entry at the end, and removes an older one with its key. -/
def placeLast (name : String) (node : Node) (entries : Entries) : Entries :=
  Keyed.without name entries ++ [(name, node)]

/-- Changes the table at the end of a path, and makes the tables on the way that are missing.  Of
an array of tables the last one is meant.  `change` is told whether a dotted key made the table. -/
def descend (dotted : Bool) (change : Bool → Entries → Option Entries) :
    List String → Bool → Entries → Option Entries
  | [], made, entries => change made entries
  | name :: path, _, entries =>
    match Keyed.find? name entries with
    | none => do
      let inner ← descend dotted change path dotted []
      some (place name (.branch true dotted inner) entries)
    | some (.leaf _) | some (.array _) | some (.closed _) => none
    | some (.branches last earlier) => do
      let inner ← descend dotted change path false last
      some (place name (.branches inner earlier) entries)
    | some (.branch implied made inner) =>
      if dotted && !implied then none
      else do
        let inner ← descend dotted change path made inner
        some (place name (.branch implied made inner) entries)

/-- Sets a key.  The last name of a dotted key goes into a table made by dotted keys, and into no
other. -/
def assign (key : List String) (value : Node) (entries : Entries) : Option Entries :=
  match key.getLast? with
  | none => none
  | some name =>
    let path := key.dropLast
    descend true (fun made entries =>
      if made == path.isEmpty || (Keyed.find? name entries).isSome then none
      else some (place name value entries)) path false entries

/-- Opens a table.  One that was implied so far counts as begun only now. -/
def openTable (path : List String) (root : Entries) : Option Entries :=
  match path.getLast? with
  | none => none
  | some name =>
    descend false (fun _ entries =>
      match Keyed.find? name entries with
      | none => some (place name (.branch false false []) entries)
      | some (.branch true false inner) => some (placeLast name (.branch false false inner) entries)
      | some _ => none) path.dropLast false root

/-- Opens a new table at the end of an array. -/
def openElement (path : List String) (root : Entries) : Option Entries :=
  match path.getLast? with
  | none => none
  | some name =>
    descend false (fun _ entries =>
      match Keyed.find? name entries with
      | none => some (place name (.branches [] []) entries)
      | some (.branches last earlier) =>
        some (place name (.branches [] (last :: earlier)) entries)
      | some _ => none) path.dropLast false root

/-- One statement.  The state is the root and the path of the table that is open. -/
def apply (state : Entries × List String) : Statement → Option (Entries × List String)
  | .table path => (openTable path state.1).map (·, path)
  | .element path => (openElement path state.1).map (·, path)
  | .assign key value =>
    (descend false (fun _ entries => assign key value entries) state.2 false state.1).map
      (·, state.2)

/-- All statements of a file. -/
def build (statements : List Statement) : Option Entries :=
  (statements.foldlM apply ([], [])).map (·.1)

/-- The key under which a table holds the long form of a date or a time. -/
def momentKey : String := "$__toml_private_datetime"

/-- The date or the time that is the text of a leaf. -/
def momentOf? : Node → Option Value
  | leaf (.text text) => (Toml.momentOf? text).map .dateTime
  | _ => none

mutual

/-- The finished tree. -/
def toValue? : Node → Option Value
  | leaf value => some value
  | array items => (itemValues? items).map .sequence
  | closed entries => tableValue? entries
  | branch _ _ entries => tableValue? entries
  | branches last earlier => do
    let value ← tableValue? last
    let values ← tableValues? earlier
    some (.sequence (values ++ [value]))

/-- The finished items of an array. -/
def itemValues? : List Node → Option (List Value)
  | [] => some []
  | node :: rest => do
    let value ← toValue? node
    let values ← itemValues? rest
    some (value :: values)

/-- The finished table, or the date or time that it is the long form of. -/
def tableValue? : Entries → Option Value
  | [] => some (.table [])
  | (name, node) :: rest =>
    if name = momentKey then momentOf? node
    else do
      let value ← toValue? node
      let others ← entryValues? rest
      some (.table (Keyed.put name value others))

/-- The finished entries of a table, in ascending order. -/
def entryValues? : Entries → Option (List (String × Value))
  | [] => some []
  | (name, node) :: rest => do
    let value ← toValue? node
    let others ← entryValues? rest
    some (Keyed.put name value others)

/-- The finished tables of an array, the first one first. -/
def tableValues? : List Entries → Option (List Value)
  | [] => some []
  | entries :: earlier => do
    let value ← tableValue? entries
    let values ← tableValues? earlier
    some (values ++ [value])

end

end Node

end Overseer.Toml
