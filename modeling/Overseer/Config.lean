import Overseer.Entry.Decode
import Overseer.Expansion
import Overseer.Json
import Overseer.Text.Path
import Overseer.Toml.Document

/-!
# Configuration files

A configuration file holds one entry at the top level, or a sequence of entries under the key
`processes`.  The extension of its name tells the format.

* `Surroundings` -- what a loader asks of the host: files, directories, variables;
* `Config.entriesOf` -- the entries of a value;
* `Config.ofText` -- the entries of a text, at least one;
* `Config.read` -- the entries of a file, expanded;
* `Config.load` -- the entries of a file, expanded, and each of them valid.
-/

namespace Overseer

/-- What a loader asks of the host. -/
structure Surroundings where
  /-- The bytes of a file. -/
  contents : String → Except IoError ByteArray
  /-- Whether a path leads to a directory. -/
  isDirectory : String → Bool
  /-- The value of a variable that is set to a text. -/
  lookup : String → Option String

namespace Config

/-- The key of the sequence of entries. -/
def listKey : String := "processes"

/-- The format of files with an extension. -/
def formatOf (extension : String) : Except Error Format :=
  if extension = "toml" then .ok .toml
  else if extension = "json" then .ok .json
  else
    .error (.invalidConfig s!"Unsupported file format: {extension}. Use .toml or .json")

/-- The name of a format in messages. -/
def formatName : Format → String
  | .json => "JSON"
  | .toml => "TOML"

/-- The value that a text holds.  What the reader of the format finds wrong with a text is left out
of the message, which ends where it would stand. -/
def valueOf (format : Format) (text : String) : Except Error Value :=
  let value :=
    match format with
    | .json => Json.read text
    | .toml => Toml.read text
  match value with
  | some v => .ok v
  | none => .error (.invalidConfig s!"Failed to parse {formatName format}: ")

/-- The entries of a value. -/
def entriesOf (format : Format) (v : Value) : Decoded (List Entry) :=
  let alone := (Entry.ofValue format v).map ([·])
  match v with
  | .table entries =>
    match Keyed.find? listKey entries with
    | some list => Entry.listOfValue format list
    | none => alone
  | _ => alone

/-- The entries of a value, at least one. -/
def ofValue (format : Format) (v : Value) : Except Error (List Entry) :=
  match entriesOf format v with
  | .error m => .error (.invalidConfig s!"Invalid process entry: {m.message format}")
  | .ok [] => .error (.invalidConfig "No process configuration found in file")
  | .ok entries => .ok entries

/-- The entries of a text, at least one. -/
def ofText (format : Format) (text : String) : Except Error (List Entry) := do
  ofValue format (← valueOf format text)

/-- The text of a file. -/
def textOf (w : Surroundings) (path : String) : Except Error String :=
  match w.contents path with
  | .error e => .error (.config s!"Failed to read config file: {e.message}")
  | .ok bytes =>
    match String.fromUTF8? bytes with
    | some text => .ok text
    | none => .error (.config "Failed to read config file: stream did not contain valid UTF-8")

/-- The entries of a file, expanded. -/
def read (w : Surroundings) (path : String) : Except Error (List Entry) := do
  let text ← textOf w path
  let format ← formatOf (Path.extension path)
  let entries ← ofText format text
  pure (entries.map (Entry.expand w.lookup))

/-- The entries of a file, expanded, and each of them valid. -/
def load (w : Surroundings) (path : String) : Except Error (List Entry) := do
  let entries ← read w path
  entries.forM (Entry.validate w.isDirectory)
  pure entries

end Config

end Overseer
