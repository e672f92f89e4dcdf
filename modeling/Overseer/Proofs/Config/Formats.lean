import Overseer.Proofs.Config.Loading

/-!
# Both formats tell the same

A value is read alike in both formats, but for an output target that is written as a choice which
brings nothing with it: one format writes nothing as `null`, the other one as an empty container.

* `Value.NamesFile` -- a value that is no such choice; `OutputTarget.ofValue_alike` -- it is the
  same output target in both formats, or a misfit at the same place;
* `Entry.Gives` -- what an entry gives for a field, by name or by place;
* `Entry.ofValue_alike` -- whole entries;
* `formats_agree` -- whole files.
-/

namespace Overseer

variable {w : Surroundings} {v : Value}

/-- The misfits are at the same place. -/
def SamePlace (m m' : Misfit) : Prop := m.path = m'.path

/-- If the value is a choice that brings a value with it, it is the choice of a file. -/
def Value.NamesFile (v : Value) : Prop :=
  ∀ name payload, v = .table [(name, payload)] → name = OutputTarget.fileName

/-- The formats agree on the output targets, and on where they are misfits. -/
theorem OutputTarget.ofValue_alike (h : v.NamesFile) :
    Alike SamePlace (ofValue .toml v) (ofValue .json v) := by
  cases v with
  | text name => exact .same (ofValue .json (.text name))
  | table entries =>
    match entries with
    | [] => exact .failed rfl
    | [(name, payload)] =>
      obtain rfl := h name payload rfl
      exact .same (ofValue .json (.table [(fileName, payload)]))
    | _ :: _ :: _ => exact .failed rfl
  | _ => exact .failed rfl

/-- The fields that hold output targets. -/
def Field.streams : List Field := [.stdout, .stderr]

/-- The formats agree on every field. -/
theorem Field.ofValue_alike {f : Field} (h : f ∈ Field.streams → v.NamesFile) :
    Alike SamePlace (f.ofValue .toml v) (f.ofValue .json v) := by
  cases f with
  | stdout | stderr => exact OutputTarget.ofValue_alike (h (by decide))
  | cwd => cases v <;> exact .same _
  | _ => exact .same _

theorem Alike.under {α : Type} {x y : Decoded α} (h : Alike SamePlace x y) (key : String) :
    Alike SamePlace (Decoded.under key x) (Decoded.under key y) := by
  cases h with
  | same => exact .same _
  | failed he => exact .failed (congrArg (key :: ·) he)

/-- What an entry gives for a field: a value under the name of the field, or at its place. -/
inductive Entry.Gives (f : Field) (x : Value) : Value → Prop
  | named {fields : List (String × Value)} (h : (f.key, x) ∈ fields) : Gives f x (.table fields)
  | placed {values : List Value} {i : Nat} (hfield : Field.all[i]? = some f)
      (hvalue : values[i]? = some x) : Gives f x (.sequence values)

namespace Draft

theorem readTable_alike {fields : List (String × Value)}
    (h : ∀ f ∈ Field.streams, ∀ x, (f.key, x) ∈ fields → x.NamesFile) (d : Draft) :
    Alike SamePlace (readTable .toml fields d) (readTable .json fields d) := by
  induction fields generalizing d with
  | nil => exact .same _
  | cons entry rest ih =>
    obtain ⟨key, x⟩ := entry
    have hrest : ∀ f ∈ Field.streams, ∀ x, (f.key, x) ∈ rest → x.NamesFile :=
      fun f hf x hx => h f hf x (List.mem_cons_of_mem _ hx)
    unfold readTable
    cases hfield : Field.ofKey? key with
    | none => exact ih hrest d
    | some f =>
      have hhere : f ∈ Field.streams → x.NamesFile := by
        intro hf
        rw [← Field.key_of_ofKey? hfield] at h
        exact h f hf x List.mem_cons_self
      apply ((Field.ofValue_alike hhere).under key).bind
      intro content
      exact ih hrest (d.set f content)

theorem readSequence_alike {fields : List Field} {values : List Value}
    (h : ∀ (i : Nat) (f : Field) (x : Value), fields[i]? = some f → values[i]? = some x →
      f ∈ Field.streams → x.NamesFile) (d : Draft) :
    Alike SamePlace (readSequence .toml fields values d) (readSequence .json fields values d) := by
  induction fields generalizing values d with
  | nil => exact .same _
  | cons f fields ih =>
    cases values with
    | nil => exact .same _
    | cons x values =>
      apply (Field.ofValue_alike (h 0 f x rfl rfl)).bind
      intro content
      exact ih (fun i => h (i + 1)) (d.set f content)

end Draft

/-- **The formats agree on whole entries**, in either notation. -/
theorem Entry.ofValue_alike
    (h : ∀ f ∈ Field.streams, ∀ x, Entry.Gives f x v → x.NamesFile) :
    Alike SamePlace (ofValue .toml v) (ofValue .json v) := by
  cases v with
  | table fields =>
    apply (Draft.readTable_alike (fun f hf x hx => h f hf x (.named hx)) .blank).bind
    intro d
    exact .same d.toEntry
  | sequence values =>
    apply (Draft.readSequence_alike
      (fun i f x hf hx hstream => h f hstream x (.placed hf hx)) .blank).bind
    intro d
    exact .same _
  | _ => exact .same _

namespace Config

/-- Both files do not describe processes. -/
def BothInvalid (e e' : Error) : Prop :=
  ∃ reason reason', e = .invalidConfig reason ∧ e' = .invalidConfig reason'

theorem readItem_alike (h : Alike SamePlace (Entry.ofValue .toml v) (Entry.ofValue .json v)) :
    Alike BothInvalid (readItem .toml v) (readItem .json v) := by
  unfold readItem
  generalize Entry.ofValue .toml v = x at h
  generalize Entry.ofValue .json v = y at h
  cases h with
  | same =>
    cases x with
    | ok e => exact .same (.ok e)
    | error m => exact .failed ⟨_, _, rfl, rfl⟩
  | failed => exact .failed ⟨_, _, rfl, rfl⟩

/-- Whatever the entries of a value give for their output targets is no choice but that of a file,
if it is a choice that brings a value with it. -/
def StreamsNameFiles (v : Value) : Prop :=
  ∀ items, items? v = some items → ∀ item ∈ items, ∀ f ∈ Field.streams, ∀ x,
    Entry.Gives f x item → x.NamesFile

theorem loadValue_alike (h : StreamsNameFiles v) :
    Alike BothInvalid (loadValue w .toml v) (loadValue w .json v) := by
  cases hitems : items? v with
  | none =>
    obtain ⟨reason, htoml⟩ : ∃ reason, loadValue w .toml v = .error (.invalidConfig reason) :=
      loadValue_of_none hitems
    obtain ⟨reason', hjson⟩ : ∃ reason, loadValue w .json v = .error (.invalidConfig reason) :=
      loadValue_of_none hitems
    rw [htoml, hjson]
    exact .failed ⟨reason, reason', rfl, rfl⟩
  | some items =>
    by_cases hne : items = []
    · subst hne
      rw [loadValue_of_nil hitems, loadValue_of_nil hitems]
      exact .same _
    · rw [loadValue_of_items hitems hne, loadValue_of_items hitems hne]
      have hread :
          Alike BothInvalid (items.mapM (readItem .toml)) (items.mapM (readItem .json)) := by
        apply Alike.mapM
        intro item hitem
        exact readItem_alike (Entry.ofValue_alike (h items hitems item hitem))
      apply hread.bind
      intro ds
      exact .same (ds.mapM (accept w))

end Config

/-- **Both formats tell the same.**  A value in which an output target brings a value with it only
as the choice of a file yields the same entries in both formats, or the same failure to accept one
of them, or fails in both as a file that does not describe processes; and so do two files that hold
it. -/
theorem formats_agree (h : Config.StreamsNameFiles v) :
    Alike Config.BothInvalid (Config.loadValue w .toml v) (Config.loadValue w .json v) ∧
      ∀ path path', Config.Holds w path .toml v → Config.Holds w path' .json v →
        Alike Config.BothInvalid (Config.load w path) (Config.load w path') := by
  have hvalue := Config.loadValue_alike (w := w) h
  refine ⟨hvalue, fun path path' htoml hjson => ?_⟩
  rw [Config.load_of_holds htoml, Config.load_of_holds hjson]
  exact hvalue

/-- One entry in both formats, with its fields in other orders and an output target that is a
file. -/
theorem entry_with_file_agrees :
    let toml := "name = 'web'\ncommand = 'serve'\nstdout.file = 'log'\n"
    let json :=
      "\x7b\"stdout\": \x7b\"file\": \"log\"\x7d, \"name\": \"web\", \"command\": \"serve\"\x7d"
    let w : Surroundings := {
      contents := fun path => .ok (if path = "fleet.toml" then toml else json).toUTF8
      isDirectory := fun _ => false
      lookup := fun _ => none }
    let v : Value := .table [("command", .text "serve"), ("name", .text "web"),
      ("stdout", .table [("file", .text "log")])]
    Config.StreamsNameFiles v ∧ Config.Holds w "fleet.toml" .toml v ∧
      Config.Holds w "fleet.json" .json v ∧
      Alike Config.BothInvalid (Config.load w "fleet.toml") (Config.load w "fleet.json") := by
  intro toml json w v
  have htoml : Config.Holds w "fleet.toml" .toml v := by
    have hvalue : Config.valueOf .toml toml = .ok v := by
      simp only [toml, v, Config.valueOf, Toml.read, String.reduceToList]
      rfl
    exact Config.holds_of_contents rfl (by cbv) hvalue
  have hjson : Config.Holds w "fleet.json" .json v := by
    have hvalue : Config.valueOf .json json = .ok v := by
      simp only [json, v, Config.valueOf, Json.read, String.reduceToList]
      rfl
    exact Config.holds_of_contents rfl (by cbv) hvalue
  have hstreams : Config.StreamsNameFiles v := by
    intro items hitems item hitem f hf x hx
    obtain rfl := Option.some.inj hitems
    obtain rfl := List.mem_singleton.mp hitem
    simp only [v] at hx
    cases hx with
    | named hgiven =>
      rcases List.mem_pair.mp hf with rfl | rfl
      · obtain rfl : x = .table [("file", .text "log")] := by simpa [Field.key] using hgiven
        intro name payload hchoice
        cases hchoice
        rfl
      · simp [Field.key] at hgiven
  exact ⟨hstreams, htoml, hjson, (formats_agree hstreams).2 _ _ htoml hjson⟩

/-- The other choices are written differently: an output that is discarded with nothing to bring. -/
example :
    (OutputTarget.ofValue .toml (.table [("null", .table [])]) matches .ok .null) ∧
      (OutputTarget.ofValue .json (.table [("null", .table [])]) matches .error _) := ⟨rfl, rfl⟩

end Overseer
