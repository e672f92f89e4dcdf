import Overseer.Config
import Overseer.Proofs.Entry.RoundTrip

/-!
# What a file yields

Once the text of a file is read, only the value that it holds matters.  The value has items, one for
each entry that is written in the file.  All items are read before the first entry is looked at.

* `Config.Holds` -- a file holds a value; `Config.loadValue` -- what such a file yields
  (`Config.load_of_holds`);
* `Config.items?` -- the items of a value;
* `Config.loadValue_of_items` -- the items are read in a first round, and the entries are accepted
  in a second one; `Config.loadValue_of_none` -- a value without items;
* `Entry.Sound` -- what is asked of an entry; `Entry.Kept` -- what expansion leaves alone;
* `Config.loadValue_eq_ok_iff`, `Config.load_eq_ok_iff` -- which values and files yield entries, and
  which.
-/

namespace Overseer

variable {w : Surroundings} {format : Format} {path : String} {v item : Value}
  {items : List Value} {d e : Entry} {entries : List Entry}

/-! ## Entries -/

namespace Entry

/-- What is asked of an entry before anything is launched. -/
structure Sound (isDirectory : String → Bool) (e : Entry) : Prop where
  name : e.name ≠ ""
  command : e.command ≠ ""
  ticks : 1 ≤ e.pollInterval
  directory : ∀ cwd, e.cwd = some cwd → isDirectory cwd = true
  budget : e.restarts ≠ .limited 0

theorem checkDirectory_eq_ok_iff {isDirectory : String → Bool} {cwd : Option String} :
    checkDirectory isDirectory cwd = .ok () ↔
      ∀ path, cwd = some path → isDirectory path = true := by
  cases cwd with
  | none => exact iff_of_true rfl nofun
  | some path =>
    by_cases h : isDirectory path = true <;> simp [checkDirectory, h]

/-- An entry is valid exactly when it is sound, but for its budget, which is not looked at. -/
theorem validate_eq_ok_iff {isDirectory : String → Bool} (hbudget : e.restarts ≠ .limited 0) :
    e.validate isDirectory = .ok () ↔ e.Sound isDirectory := by
  have hticks : 1 ≤ e.pollInterval ↔ e.pollInterval ≠ 0 := by
    rw [UInt64.le_iff_toNat_le, ne_eq, ← UInt64.toNat_inj]
    exact Nat.one_le_iff_ne_zero
  unfold validate
  split
  · next h => exact iff_of_false nofun fun hsound => hsound.name h
  · next hname =>
    split
    · next h => exact iff_of_false nofun fun hsound => hsound.command h
    · next hcommand =>
      split
      · next h => exact iff_of_false nofun fun hsound => hticks.mp hsound.ticks h
      · next hinterval =>
        rw [checkDirectory_eq_ok_iff]
        exact ⟨fun h => ⟨hname, hcommand, hticks.mpr hinterval, h, hbudget⟩, Sound.directory⟩

end Entry

/-- The fields whose texts are expanded. -/
def Field.expanded : List Field := [.command, .args, .env, .cwd]

/-- The entry `e` has kept everything of `d` but its expanded texts. -/
structure Entry.Kept (d e : Entry) : Prop where
  fields : ∀ f ∉ Field.expanded, f.get e = f.get d
  names : e.env.entries.map Prod.fst = d.env.entries.map Prod.fst
  arguments : e.args.length = d.args.length
  directory : e.cwd.isSome = d.cwd.isSome

/-- **Nothing is touched by expansion** but the texts that are expanded. -/
theorem Entry.kept_expand (lookup : String → Option String) (d : Entry) :
    d.Kept (d.expand lookup) where
  fields f hf := by
    cases f with
    | command | args | env | cwd => exact absurd (by decide) hf
    | _ => rfl
  names := by
    rw [Entry.expand, Variables.mapValues, List.map_map]
    rfl
  arguments := List.length_map _
  directory := Option.isSome_map

namespace Config

/-! ## Values -/

/-- The items of a value, one for each entry that is written there: those of the list, if there is
one, or else the value itself. -/
def items? (v : Value) : Option (List Value) :=
  match v with
  | .table entries =>
    match Keyed.find? listKey entries with
    | some (.sequence items) => some items
    | some _ => none
    | none => some [v]
  | _ => some [v]

/-- The failure of a file with an item that is no entry. -/
def misfitError (format : Format) (m : Misfit) : Error :=
  .invalidConfig s!"Invalid process entry: {m.message format}"

/-- The entry that an item stands for. -/
def readItem (format : Format) (item : Value) : Except Error Entry :=
  (Entry.ofValue format item).mapError (misfitError format)

/-- An entry with its texts expanded, unless it is not valid then. -/
def accept (w : Surroundings) (d : Entry) : Except Error Entry :=
  (d.expand w.lookup).validate w.isDirectory >>= fun _ => pure (d.expand w.lookup)

/-- What a file that holds a value yields. -/
def loadValue (w : Surroundings) (format : Format) (v : Value) : Except Error (List Entry) := do
  let entries ← ofValue format v
  let expanded := entries.map (Entry.expand w.lookup)
  expanded.forM (Entry.validate w.isDirectory)
  pure expanded

theorem readItem_eq_ok_iff : readItem format item = .ok d ↔ Entry.ofValue format item = .ok d := by
  unfold readItem
  cases Entry.ofValue format item <;> simp [Except.mapError]

/-- An entry that was read is accepted exactly when it is sound with its texts expanded. -/
theorem accept_eq_ok_iff (hd : d.restarts ≠ .limited 0) :
    accept w d = .ok e ↔ e = d.expand w.lookup ∧ e.Sound w.isDirectory := by
  have hvalid : (d.expand w.lookup).validate w.isDirectory = .ok () ↔
      (d.expand w.lookup).Sound w.isDirectory := Entry.validate_eq_ok_iff hd
  rw [accept, bind_eq_ok]
  constructor
  · intro h
    obtain ⟨_, hcheck, h⟩ := h
    obtain rfl := Except.ok.inj h
    exact ⟨rfl, hvalid.mp hcheck⟩
  · rintro ⟨rfl, hsound⟩
    exact ⟨(), hvalid.mpr hsound, rfl⟩

/-- The entries of a value are those of its items. -/
theorem entriesOf_of_items (h : items? v = some items) :
    entriesOf format v = items.mapM (Entry.ofValue format) := by
  have halone : (Entry.ofValue format v).map ([·]) = [v].mapM (Entry.ofValue format) := by
    rw [List.mapM_cons, List.mapM_nil]
    cases Entry.ofValue format v <;> rfl
  cases v with
  | table fields =>
    unfold items? at h
    unfold entriesOf
    cases hlist : Keyed.find? listKey fields with
    | none =>
      simp only [hlist] at h ⊢
      exact Option.some.inj h ▸ halone
    | some list =>
      simp only [hlist] at h ⊢
      cases list with
      | sequence values => exact Option.some.inj h ▸ rfl
      | _ => cases h
  | _ => exact Option.some.inj h ▸ halone

theorem mapM_readItem (items : List Value) :
    items.mapM (readItem format) =
      (items.mapM (Entry.ofValue format)).mapError (misfitError format) := by
  induction items with
  | nil => rfl
  | cons item rest ih =>
    rw [List.mapM_cons, List.mapM_cons, ih, readItem]
    cases Entry.ofValue format item with
    | error m => rfl
    | ok e => cases rest.mapM (Entry.ofValue format) <;> rfl

/-- The items are read one after the other. -/
theorem ofValue_of_items (h : items? v = some items) (hne : items ≠ []) :
    ofValue format v = items.mapM (readItem format) := by
  rw [mapM_readItem, ofValue, entriesOf_of_items h]
  cases hread : items.mapM (Entry.ofValue format) with
  | error m => rfl
  | ok entries =>
    cases entries with
    | cons e rest => rfl
    | nil =>
      have hlength := (mapM_eq_ok_iff.mp hread).length_eq
      exact absurd (List.length_eq_zero_iff.mp hlength) hne

/-- **All items are read before the first entry is looked at.** -/
theorem loadValue_of_items (h : items? v = some items) (hne : items ≠ []) :
    loadValue w format v = (items.mapM (readItem format) >>= fun ds => ds.mapM (accept w)) := by
  rw [loadValue, ofValue_of_items h hne]
  congr 1
  funext ds
  exact forM_map_eq_mapM (Entry.expand w.lookup) (Entry.validate w.isDirectory) ds

/-- A value without items is the fault of the file. -/
theorem loadValue_of_none (h : items? v = none) :
    ∃ reason, loadValue w format v = .error (.invalidConfig reason) := by
  cases v with
  | table fields =>
    unfold items? at h
    cases hlist : Keyed.find? listKey fields with
    | none =>
      simp only [hlist] at h
      cases h
    | some list =>
      have hread : entriesOf format (.table fields) = Entry.listOfValue format list := by
        simp only [entriesOf, hlist]
      rw [loadValue, ofValue, hread]
      cases list with
      | sequence values =>
        simp only [hlist] at h
        cases h
      | _ => exact ⟨_, rfl⟩
  | _ => cases h

/-- A value with no item at all is the fault of the file. -/
theorem loadValue_of_nil (h : items? v = some []) :
    loadValue w format v = .error (.invalidConfig "No process configuration found in file") := by
  rw [loadValue, ofValue, entriesOf_of_items h]
  rfl

/-- The entry `e` is what an item stands for, with its texts expanded, and it is sound. -/
def Loads (w : Surroundings) (format : Format) (item : Value) (e : Entry) : Prop :=
  ∃ d, Entry.ofValue format item = .ok d ∧ e = d.expand w.lookup ∧ d.Kept e ∧
    e.Sound w.isDirectory

/-- An item is read and its entry is accepted exactly when the item loads. -/
theorem loads_iff :
    Loads w format item e ↔ ∃ d, readItem format item = .ok d ∧ accept w d = .ok e := by
  constructor
  · rintro ⟨d, hread, he, -, hsound⟩
    have hbudget := Field.lasting_restarts.mp (Entry.lasting_of_ofValue hread .restarts)
    exact ⟨d, readItem_eq_ok_iff.mpr hread, (accept_eq_ok_iff hbudget).mpr ⟨he, hsound⟩⟩
  · rintro ⟨d, hread, haccept⟩
    have hdecoded := readItem_eq_ok_iff.mp hread
    have hbudget := Field.lasting_restarts.mp (Entry.lasting_of_ofValue hdecoded .restarts)
    obtain ⟨he, hsound⟩ := (accept_eq_ok_iff hbudget).mp haccept
    exact ⟨d, hdecoded, he, he ▸ d.kept_expand w.lookup, hsound⟩

/-- **A value yields entries exactly when it has items and each of them loads.** -/
theorem loadValue_eq_ok_iff :
    loadValue w format v = .ok entries ↔
      ∃ items, items? v = some items ∧ items ≠ [] ∧
        List.Forall₂ (Loads w format) items entries := by
  constructor
  · intro h
    cases hitems : items? v with
    | none =>
      obtain ⟨reason, herror⟩ : ∃ reason, loadValue w format v = .error (.invalidConfig reason) :=
        loadValue_of_none hitems
      cases herror.symm.trans h
    | some items =>
      by_cases hne : items = []
      · subst hne
        cases (loadValue_of_nil hitems).symm.trans h
      · rw [loadValue_of_items hitems hne, mapM_mapM_eq_ok_iff] at h
        exact ⟨items, rfl, hne, h.imp fun _ _ => loads_iff.mpr⟩
  · rintro ⟨items, hitems, hne, h⟩
    rw [loadValue_of_items hitems hne, mapM_mapM_eq_ok_iff]
    exact h.imp fun _ _ => loads_iff.mp

/-! ## Files -/

/-- The file at a path holds a value in a format. -/
def Holds (w : Surroundings) (path : String) (format : Format) (v : Value) : Prop :=
  ∃ text, textOf w path = .ok text ∧ formatOf (Path.extension path) = .ok format ∧
    valueOf format text = .ok v

theorem fromUTF8?_toUTF8 (text : String) : String.fromUTF8? text.toUTF8 = some text := by
  have hvalid : text.toUTF8.IsValidUTF8 := text.isValidUTF8
  rw [String.fromUTF8?, dif_pos hvalid]
  rfl

/-- A file holds the value that its text tells. -/
theorem holds_of_contents {text : String} (hcontents : w.contents path = .ok text.toUTF8)
    (hformat : formatOf (Path.extension path) = .ok format)
    (hvalue : valueOf format text = .ok v) : Holds w path format v := by
  refine ⟨text, ?_, hformat, hvalue⟩
  simp only [textOf, hcontents, fromUTF8?_toUTF8]

/-- **What a file yields depends on the value that it holds.** -/
theorem load_of_holds (h : Holds w path format v) : load w path = loadValue w format v := by
  obtain ⟨text, htext, hformat, hvalue⟩ := h
  have hentries : ofText format text = ofValue format v := by
    rw [ofText, hvalue]
    rfl
  have hread : read w path =
      (ofText format text >>= fun ds => pure (ds.map (Entry.expand w.lookup))) := by
    rw [read, htext, hformat]
    rfl
  rw [load, hread, hentries, loadValue]
  cases ofValue format v <;> rfl

/-- Whatever is loaded is what some value yields that the file holds. -/
theorem holds_of_load (h : load w path = .ok entries) :
    ∃ format v, Holds w path format v ∧ loadValue w format v = .ok entries := by
  have hload := h
  unfold load read ofText at h
  obtain ⟨read, h, -⟩ := bind_eq_ok.mp h
  obtain ⟨text, htext, h⟩ := bind_eq_ok.mp h
  obtain ⟨format, hformat, h⟩ := bind_eq_ok.mp h
  obtain ⟨decoded, h, -⟩ := bind_eq_ok.mp h
  obtain ⟨v, hvalue, -⟩ := bind_eq_ok.mp h
  have hholds : Holds w path format v := ⟨text, htext, hformat, hvalue⟩
  exact ⟨format, v, hholds, load_of_holds hholds ▸ hload⟩

/-- **A file yields entries exactly when each of its items loads.** -/
theorem load_eq_ok_iff :
    load w path = .ok entries ↔
      ∃ format v items, Holds w path format v ∧ items? v = some items ∧ items ≠ [] ∧
        List.Forall₂ (Loads w format) items entries := by
  constructor
  · intro h
    obtain ⟨format, v, hholds, hload⟩ := holds_of_load h
    obtain ⟨items, hitems, hne, hloads⟩ := loadValue_eq_ok_iff.mp hload
    exact ⟨format, v, items, hholds, hitems, hne, hloads⟩
  · rintro ⟨format, v, items, hholds, hitems, hne, hloads⟩
    rw [load_of_holds hholds]
    exact loadValue_eq_ok_iff.mpr ⟨items, hitems, hne, hloads⟩

end Config

end Overseer
