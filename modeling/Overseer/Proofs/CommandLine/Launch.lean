import Overseer.CommandLine.Launch
import Overseer.Proofs.Config.Loading

/-!
# What is launched is sound

The entry to launch is one of a file or is put together from the options.  Either way it is checked
as it is launched, with its texts expanded if it comes from a file.

* `RunOptions.assembled` -- the entry put together from the options;
  `RunOptions.entryOfOptions_eq_ok_iff` -- when it is launched;
* `RunOptions.mem_of_entryOfFile` -- an entry of a file is one of those that the file yields;
* `loaded_entries_sound` -- what files yield, and that nothing else is launched than sound entries.
-/

namespace Overseer

variable {w : Surroundings} {path : String} {name : Option String} {o : RunOptions} {e : Entry}
  {entries : List Entry}

/-- Every entry that items load as is sound. -/
theorem Config.sound_of_loads {format : Format} {items : List Value}
    (h : List.Forall₂ (Config.Loads w format) items entries) :
    ∀ e ∈ entries, e.Sound w.isDirectory := by
  induction h with
  | nil => exact nofun
  | cons hload _ ih =>
    obtain ⟨d, -, -, -, hsound⟩ := hload
    exact List.forall_mem_cons.mpr ⟨hsound, ih⟩

namespace RunOptions

/-- The entry put together from the options, with what stands for the texts of its variables and for
its count of relaunches. -/
def assembled (o : RunOptions) (program : String) (args : List String) (env : Variables)
    (restarts : Budget) : Entry where
  name := o.name.getD (nameOf program)
  command := program
  args := args
  env := env
  cwd := none
  detach := o.detach
  restarts := restarts
  pollInterval := o.interval
  stdout := if o.inheritOutput then .inherit else .null
  stderr := if o.inheritOutput then .inherit else .null
  autoTerminate := false

/-- **An entry is put together from the options exactly when there is a command, the variables and
the count of relaunches can be read, and the entry is sound.** -/
theorem entryOfOptions_eq_ok_iff :
    o.entryOfOptions w = .ok e ↔
      ∃ program args env restarts, o.command = program :: args ∧
        parseVariables o.env = .ok env ∧ Budget.ofCount o.restarts = .ok restarts ∧
        e = o.assembled program args env restarts ∧ e.Sound w.isDirectory := by
  constructor
  · intro h
    unfold entryOfOptions at h
    cases hcommand : o.command with
    | nil =>
      rw [hcommand] at h
      cases h
    | cons program args =>
      rw [hcommand] at h
      obtain ⟨env, henv, h⟩ := bind_eq_ok.mp h
      obtain ⟨restarts, hrestarts, h⟩ := bind_eq_ok.mp h
      obtain ⟨_, hvalid, h⟩ := bind_eq_ok.mp h
      have he : e = o.assembled program args env restarts := (Except.ok.inj h).symm
      have hsound := (Entry.validate_eq_ok_iff (Budget.ne_of_ofCount hrestarts)).mp hvalid
      exact ⟨program, args, env, restarts, rfl, henv, hrestarts, he, he ▸ hsound⟩
  · rintro ⟨program, args, env, restarts, hcommand, henv, hrestarts, rfl, hsound⟩
    have hvalid := (Entry.validate_eq_ok_iff (Budget.ne_of_ofCount hrestarts)).mpr hsound
    rw [entryOfOptions, hcommand]
    exact bind_eq_ok.mpr ⟨env, henv, bind_eq_ok.mpr ⟨restarts, hrestarts,
      bind_eq_ok.mpr ⟨(), hvalid, rfl⟩⟩⟩

/-- An entry of a file is one of those that the file yields. -/
theorem mem_of_entryOfFile (h : entryOfFile w path name = .ok e) :
    ∃ entries, Config.load w path = .ok entries ∧ e ∈ entries := by
  obtain ⟨entries, hload, h⟩ := bind_eq_ok.mp h
  refine ⟨entries, hload, ?_⟩
  cases name with
  | some name =>
    cases hfound : entries.find? (·.name == name) with
    | none =>
      simp only [hfound] at h
      cases h
    | some found =>
      simp only [hfound] at h
      exact Except.ok.inj h ▸ List.mem_of_find?_eq_some hfound
  | none =>
    cases entries with
    | nil => cases h
    | cons first rest => exact Except.ok.inj h ▸ List.mem_cons_self

end RunOptions

/-- **Only sound entries are loaded and launched.**  A file yields a list of entries exactly when it
holds a value with at least one item and each item, in the order of the file, loads as the entry at
its place: it is read as an entry that keeps everything but its expanded texts, and the entry is
sound then.  Otherwise the file yields no entry at all.  Whatever the options ask for is sound, and
with a file it is one of the entries that the file yields. -/
theorem loaded_entries_sound :
    (∀ (w : Surroundings) (path : String) (entries : List Entry),
      Config.load w path = .ok entries ↔
        ∃ format v items, Config.Holds w path format v ∧ Config.items? v = some items ∧
          items ≠ [] ∧ List.Forall₂ (Config.Loads w format) items entries) ∧
      ∀ (w : Surroundings) (o : RunOptions) (e : Entry), o.entry w = .ok e →
        e.Sound w.isDirectory ∧
          ∀ path, o.config = some path →
            ∃ entries, Config.load w path = .ok entries ∧ e ∈ entries := by
  refine ⟨fun w path entries => Config.load_eq_ok_iff, fun w o e h => ?_⟩
  unfold RunOptions.entry at h
  cases hconfig : o.config with
  | some path =>
    rw [hconfig] at h
    obtain ⟨entries, hload, hmem⟩ := RunOptions.mem_of_entryOfFile h
    obtain ⟨format, v, items, -, -, -, hloads⟩ := Config.load_eq_ok_iff.mp hload
    refine ⟨Config.sound_of_loads hloads e hmem, fun other hother => ?_⟩
    exact Option.some.inj hother ▸ ⟨entries, hload, hmem⟩
  | none =>
    rw [hconfig] at h
    obtain ⟨-, -, -, -, -, -, -, -, hsound⟩ := RunOptions.entryOfOptions_eq_ok_iff.mp h
    exact ⟨hsound, nofun⟩

/-- A file with two entries, of which the second one is asked for by name.  Its directory is there
only once it is expanded. -/
theorem named_entry_sound :
    let text := "processes = [['db', 'store'], ['web', '$ROOT/serve', [], \x7b\x7d, '$ROOT']]"
    let w : Surroundings := {
      contents := fun _ => .ok text.toUTF8
      isDirectory := fun path => path == "/srv"
      lookup := fun name => if name = "ROOT" then some "/srv" else none }
    let o : RunOptions := {
      name := some "web", config := some "fleet.toml", detach := false, restarts := 0
      interval := 1000, inheritOutput := false, env := [], command := [] }
    let e : Entry := { Entry.new "web" "/srv/serve" with cwd := some "/srv" }
    o.entry w = .ok e ∧ e.Sound w.isDirectory ∧
      ∃ entries, Config.load w "fleet.toml" = .ok entries ∧ e ∈ entries := by
  intro text w o e
  let v : Value := .table [("processes", .sequence [
    .sequence [.text "db", .text "store"],
    .sequence [.text "web", .text "$ROOT/serve", .sequence [], .table [], .text "$ROOT"]])]
  have hvalue : Config.valueOf .toml text = .ok v := by
    simp only [text, v, Config.valueOf, Toml.read, String.reduceToList]
    rfl
  have hholds : Config.Holds w "fleet.toml" .toml v :=
    Config.holds_of_contents rfl (by cbv) hvalue
  have hload : Config.loadValue w .toml v = .ok [Entry.new "db" "store", e] := by
    simp only [w, v, e]
    cbv
  have hentry : o.entry w = .ok e := by
    have hfile : o.entry w = RunOptions.entryOfFile w "fleet.toml" (some "web") := rfl
    rw [hfile, RunOptions.entryOfFile, Config.load_of_holds hholds, hload]
    cbv
  obtain ⟨hsound, hmem⟩ := loaded_entries_sound.2 w o e hentry
  exact ⟨hentry, hsound, hmem "fleet.toml" rfl⟩

end Overseer
