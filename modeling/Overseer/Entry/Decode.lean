import Overseer.Entry.Field

/-!
# Entries in files

An entry is written as a table of its fields, or as the sequence of their values in order.  Either
way the fields are read one after the other into a draft, and a draft with the required fields is an
entry.

* `Entry.ofValue` -- reads an entry; the first field that cannot be read is reported, and then the
  first required one that is absent.  Keys that name no field do not matter;
* `Entry.listOfValue` -- reads a sequence of entries;
* `Entry.toValue` -- writes an entry, with all its fields.
-/

namespace Overseer

/-- The fields that have been read. -/
def Draft := (f : Field) → Option f.Content

namespace Draft

/-- Nothing has been read. -/
def blank : Draft := fun _ => none

/-- Fills in one field. -/
def set (d : Draft) (f : Field) (content : f.Content) : Draft := fun g =>
  if h : f = g then some (h ▸ content) else d g

/-- What a field holds. -/
def get (d : Draft) (f : Field) : Decoded f.Content :=
  match d f, f.fallback with
  | some content, _ => .ok content
  | none, some content => .ok content
  | none, none => .error (Fault.missing f.key)

/-- Reads the fields of a table. -/
def readTable (format : Format) : List (String × Value) → Draft → Decoded Draft
  | [], d => .ok d
  | (key, v) :: rest, d =>
    match Field.ofKey? key with
    | none => readTable format rest d
    | some f => do
      let content ← Decoded.under key (f.ofValue format v)
      readTable format rest (d.set f content)

/-- Reads the values of fields, as far as there are any. -/
def readSequence (format : Format) : List Field → List Value → Draft → Decoded Draft
  | f :: fields, v :: values, d => do
    let content ← f.ofValue format v
    readSequence format fields values (d.set f content)
  | _, _, d => .ok d

/-- The entry with the fields that have been read. -/
def toEntry (d : Draft) : Decoded Entry := do
  let name ← d.get .name
  let command ← d.get .command
  let args ← d.get .args
  let env ← d.get .env
  let cwd ← d.get .cwd
  let detach ← d.get .detach
  let restarts ← d.get .restarts
  let pollInterval ← d.get .pollInterval
  let stdout ← d.get .stdout
  let stderr ← d.get .stderr
  let autoTerminate ← d.get .autoTerminate
  pure {
    name, command, args, env, cwd, detach, restarts, pollInterval, stdout, stderr, autoTerminate }

end Draft

namespace Entry

/-- Reads an entry. -/
def ofValue (format : Format) : Value → Decoded Entry
  | .table entries => do (← Draft.readTable format entries .blank).toEntry
  | .sequence values => do
    let d ← Draft.readSequence format Field.all values .blank
    if values.length < Field.required then .error (Fault.tooShort values.length)
    else if Field.all.length < values.length then .error (Fault.tooLong values.length)
    else d.toEntry
  | v => .error (Fault.wrongType v.found .entry)

/-- Reads a sequence of entries. -/
def listOfValue (format : Format) : Value → Decoded (List Entry)
  | .sequence values => values.mapM (ofValue format)
  | v => .error (Fault.wrongType v.found .sequence)

/-- Writes an entry. -/
def toValue (e : Entry) : Value :=
  .table <| Field.all.foldl (fun entries f => Keyed.put f.key (f.toValue (f.get e)) entries) []

end Entry

end Overseer
