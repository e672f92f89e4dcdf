import Overseer.Proofs.Config.Loading

/-!
# A list is loaded entry by entry

A file with a list of entries yields what its items yield when each of them is written alone, one
after the other.  The failures come in another order: an item that is no entry is told before an
earlier one whose entry is not accepted.

* `Config.Lists`, `Config.Single` -- a value with a list of items, and one that is an item itself;
* `Config.loadValue_of_single` -- one item, written alone;
* `Config.loadValue_of_lists` -- all items are read, and then each of them is loaded alone;
* `list_loads_entry_by_entry` -- what a list yields, and which failure it tells.
-/

namespace Overseer

variable {w : Surroundings} {format : Format} {v item : Value} {items : List Value}
  {ds entries : List Entry} {error : Error}

namespace Config

/-- The value has a list, with these items. -/
def Lists (v : Value) (items : List Value) : Prop :=
  ∃ fields, v = .table fields ∧ Keyed.find? listKey fields = some (.sequence items)

/-- The value has no list: written alone, it is an item itself. -/
def Single (item : Value) : Prop :=
  ∀ fields, item = .table fields → Keyed.find? listKey fields = none

/-- The item is an entry, be it accepted or not. -/
def Decodes (format : Format) (item : Value) : Prop :=
  ∃ d, Entry.ofValue format item = .ok d

/-- The item yields something when it is written alone. -/
def LoadsAlone (w : Surroundings) (format : Format) (item : Value) : Prop :=
  ∃ part, loadValue w format item = .ok part

theorem items?_of_lists (h : Lists v items) : items? v = some items := by
  obtain ⟨fields, rfl, hfound⟩ := h
  rw [items?, hfound]

theorem items?_of_single (h : Single item) : items? item = some [item] := by
  cases item with
  | table fields => rw [items?, h fields rfl]
  | _ => rfl

/-- An item that is written alone is read, and its entry is accepted. -/
theorem loadValue_of_single (h : Single item) :
    loadValue w format item = (readItem format item >>= fun d => (accept w d).map ([·])) := by
  have hphases : loadValue w format item =
      ([item].mapM (readItem format) >>= fun ds => ds.mapM (accept w)) :=
    loadValue_of_items (items?_of_single h) (List.cons_ne_nil item [])
  rw [hphases, List.mapM_cons, List.mapM_nil]
  cases readItem format item with
  | error e => rfl
  | ok d =>
    change [d].mapM (accept w) = (accept w d).map ([·])
    rw [List.mapM_cons, List.mapM_nil]
    cases accept w d <;> rfl

/-- Once all items are read, accepting their entries is loading each of them alone. -/
theorem mapM_accept (hread : List.Forall₂ (fun item d => readItem format item = .ok d) items ds)
    (hsingle : ∀ item ∈ items, Single item) :
    ds.mapM (accept w) = (items.mapM (loadValue w format)).map List.flatten := by
  induction hread with
  | nil => rfl
  | @cons item d items ds hitem hrest ih =>
    have hhead : loadValue w format item = (accept w d).map ([·]) := by
      rw [loadValue_of_single (hsingle item List.mem_cons_self), hitem]
      rfl
    rw [List.mapM_cons, List.mapM_cons, hhead,
      ih fun other hother => hsingle other (List.mem_cons_of_mem _ hother)]
    cases accept w d with
    | error e => rfl
    | ok e => cases items.mapM (loadValue w format) <;> rfl

/-- **A list is read as a whole, and then each item is loaded alone.** -/
theorem loadValue_of_lists (hlist : Lists v items) (hne : items ≠ [])
    (hsingle : ∀ item ∈ items, Single item) :
    loadValue w format v =
      (items.mapM (readItem format) >>= fun _ =>
        (items.mapM (loadValue w format)).map List.flatten) := by
  rw [loadValue_of_items (items?_of_lists hlist) hne]
  cases hread : items.mapM (readItem format) with
  | error e => rfl
  | ok ds => exact mapM_accept (mapM_eq_ok_iff.mp hread) hsingle

theorem decodes_iff : Decodes format item ↔ ∃ d, readItem format item = .ok d :=
  exists_congr fun _ => readItem_eq_ok_iff.symm

/-- An item that loads alone is an entry. -/
theorem LoadsAlone.decodes (h : LoadsAlone w format item) (hsingle : Single item) :
    Decodes format item := by
  obtain ⟨part, hpart⟩ := h
  rw [loadValue_of_single hsingle] at hpart
  obtain ⟨d, hd, -⟩ := bind_eq_ok.mp hpart
  exact decodes_iff.mpr ⟨d, hd⟩

/-- The failure of an item that is no entry is its failure when it is written alone. -/
theorem readItem_eq_error (hsingle : Single item) (hbad : ¬ Decodes format item) :
    ∃ error, readItem format item = .error error ∧ loadValue w format item = .error error := by
  cases hread : readItem format item with
  | ok d => exact absurd (decodes_iff.mpr ⟨d, hread⟩) hbad
  | error error =>
    refine ⟨error, rfl, ?_⟩
    rw [loadValue_of_single hsingle, hread]
    rfl

/-- The first item that is no entry tells the failure of a list. -/
theorem loadValue_of_undecoded (hlist : Lists v items) (hsingle : ∀ item ∈ items, Single item)
    (hfirst : FirstFailing (Decodes format) items item) :
    ∃ error, loadValue w format item = .error error ∧ loadValue w format v = .error error := by
  obtain ⟨hmem, hbad⟩ := hfirst.mem_and_not
  obtain ⟨error, hread, halone⟩ := readItem_eq_error (w := w) (hsingle item hmem) hbad
  refine ⟨error, halone, ?_⟩
  have hround : items.mapM (readItem format) = .error error :=
    mapM_of_firstFailing (hfirst.congr fun _ => decodes_iff) hread
  rw [loadValue_of_lists hlist (List.ne_nil_of_mem hmem) hsingle, hround]
  rfl

/-- If all items are entries, the first one that does not load alone tells the failure of a list. -/
theorem loadValue_of_unaccepted (hlist : Lists v items) (hsingle : ∀ item ∈ items, Single item)
    (hdecodes : ∀ item ∈ items, Decodes format item)
    (hfirst : FirstFailing (LoadsAlone w format) items item) :
    ∃ error, loadValue w format item = .error error ∧ loadValue w format v = .error error := by
  obtain ⟨hmem, hbad⟩ := hfirst.mem_and_not
  cases halone : loadValue w format item with
  | ok part => exact absurd ⟨part, halone⟩ hbad
  | error error =>
    refine ⟨error, rfl, ?_⟩
    obtain ⟨ds, hds⟩ := exists_mapM_eq_ok_iff.mpr fun item hitem =>
      decodes_iff.mp (hdecodes item hitem)
    rw [loadValue_of_lists hlist (List.ne_nil_of_mem hmem) hsingle, hds]
    exact congrArg (Except.map List.flatten) (mapM_of_firstFailing hfirst halone)

/-- A list yields something exactly when each item loads alone, and yields the same then. -/
theorem loadValue_lists_eq_ok_iff (hlist : Lists v items) (hne : items ≠ [])
    (hsingle : ∀ item ∈ items, Single item) :
    loadValue w format v = .ok entries ↔
      ∃ parts, entries = parts.flatten ∧
        List.Forall₂ (fun item part => loadValue w format item = .ok part) items parts := by
  rw [loadValue_of_lists hlist hne hsingle]
  constructor
  · intro h
    obtain ⟨ds, -, h⟩ := bind_eq_ok.mp h
    cases hparts : items.mapM (loadValue w format) with
    | error e =>
      rw [hparts] at h
      cases h
    | ok parts =>
      rw [hparts] at h
      exact ⟨parts, (Except.ok.inj h).symm, mapM_eq_ok_iff.mp hparts⟩
  · rintro ⟨parts, rfl, hparts⟩
    have hparts := mapM_eq_ok_iff.mpr hparts
    have hdecodes : ∀ item ∈ items, ∃ d, readItem format item = .ok d := by
      intro item hitem
      have halone : LoadsAlone w format item := exists_mapM_eq_ok_iff.mp ⟨parts, hparts⟩ item hitem
      exact decodes_iff.mp (halone.decodes (hsingle item hitem))
    obtain ⟨ds, hds⟩ := exists_mapM_eq_ok_iff.mpr hdecodes
    rw [hds]
    exact congrArg (Except.map List.flatten) hparts

/-- A list fails as its first item that is no entry, or else as the first one that does not load
alone. -/
theorem loadValue_lists_eq_error_iff (hlist : Lists v items) (hne : items ≠ [])
    (hsingle : ∀ item ∈ items, Single item) :
    loadValue w format v = .error error ↔
      (∃ item, FirstFailing (Decodes format) items item ∧
        loadValue w format item = .error error) ∨
      (∀ item ∈ items, Decodes format item) ∧
        ∃ item, FirstFailing (LoadsAlone w format) items item ∧
          loadValue w format item = .error error := by
  constructor
  · intro h
    rcases forall_or_firstFailing (Decodes format) items with hdecodes | ⟨item, hfirst⟩
    · rcases forall_or_firstFailing (LoadsAlone w format) items with hall | ⟨item, hfirst⟩
      · obtain ⟨parts, hparts⟩ := exists_mapM_eq_ok_iff.mpr hall
        have hload : loadValue w format v = .ok parts.flatten :=
          (loadValue_lists_eq_ok_iff hlist hne hsingle).mpr ⟨parts, rfl, mapM_eq_ok_iff.mp hparts⟩
        cases h.symm.trans hload
      · obtain ⟨other, halone, hload⟩ := loadValue_of_unaccepted hlist hsingle hdecodes hfirst
        obtain rfl := Except.error.inj (hload.symm.trans h)
        exact .inr ⟨hdecodes, item, hfirst, halone⟩
    · obtain ⟨other, halone, hload⟩ := loadValue_of_undecoded (w := w) hlist hsingle hfirst
      obtain rfl := Except.error.inj (hload.symm.trans h)
      exact .inl ⟨item, hfirst, halone⟩
  · rintro (⟨item, hfirst, halone⟩ | ⟨hdecodes, item, hfirst, halone⟩)
    · obtain ⟨other, hother, hload⟩ := loadValue_of_undecoded (w := w) hlist hsingle hfirst
      exact Except.error.inj (hother.symm.trans halone) ▸ hload
    · obtain ⟨other, hother, hload⟩ := loadValue_of_unaccepted hlist hsingle hdecodes hfirst
      exact Except.error.inj (hother.symm.trans halone) ▸ hload

end Config

/-- **A list is loaded entry by entry.**  A list with at least one item, none of which has a list of
its own, yields entries exactly when each item does that is written alone, and then what they yield,
in order.  Otherwise it fails as the first item that is no entry, or, if all are entries, as the
first one that does not load alone.  A list of one item is like that item, failures included; and a
file is like the value that it holds. -/
theorem list_loads_entry_by_entry (w : Surroundings) (format : Format)
    (hlist : Config.Lists v items) (hne : items ≠ [])
    (hsingle : ∀ item ∈ items, Config.Single item) :
    (∀ entries, Config.loadValue w format v = .ok entries ↔
      ∃ parts, entries = parts.flatten ∧
        List.Forall₂ (fun item part => Config.loadValue w format item = .ok part) items parts) ∧
      (∀ error, Config.loadValue w format v = .error error ↔
        (∃ item, FirstFailing (Config.Decodes format) items item ∧
          Config.loadValue w format item = .error error) ∨
        (∀ item ∈ items, Config.Decodes format item) ∧
          ∃ item, FirstFailing (Config.LoadsAlone w format) items item ∧
            Config.loadValue w format item = .error error) ∧
      (∀ item, items = [item] → Config.loadValue w format v = Config.loadValue w format item) ∧
      ∀ path value, Config.Holds w path format value →
        Config.load w path = Config.loadValue w format value := by
  refine ⟨fun entries => Config.loadValue_lists_eq_ok_iff hlist hne hsingle,
    fun error => Config.loadValue_lists_eq_error_iff hlist hne hsingle, ?_,
    fun path value => Config.load_of_holds⟩
  rintro item rfl
  have hitem : Config.Single item := hsingle item List.mem_cons_self
  rw [Config.loadValue_of_items (Config.items?_of_lists hlist) hne,
    Config.loadValue_of_items (Config.items?_of_single hitem) hne]

/-- The second item is no entry.  It tells the failure of the file, although the first one comes
before it and names no process. -/
theorem misfit_told_before_unnamed :
    let text := "\x7b\"processes\": [[\"\", \"serve\"], 7]\x7d"
    let w : Surroundings := {
      contents := fun _ => .ok text.toUTF8
      isDirectory := fun _ => false
      lookup := fun _ => none }
    let items : List Value := [.sequence [.text "", .text "serve"], .integer 7]
    let v : Value := .table [("processes", .sequence items)]
    Config.Lists v items ∧ items ≠ [] ∧ (∀ item ∈ items, Config.Single item) ∧
      Config.Holds w "fleet.json" .json v ∧
      ∃ error, Config.loadValue w .json (.integer 7) = .error error ∧
        Config.load w "fleet.json" = .error error := by
  intro text w items v
  have hlist : Config.Lists v items := ⟨_, rfl, rfl⟩
  have hne : items ≠ [] := List.cons_ne_nil _ _
  have hsingle : ∀ item ∈ items, Config.Single item := by
    intro item hitem fields hfields
    subst hfields
    simp [items] at hitem
  have hfirst : FirstFailing (Config.Decodes .json) items (.integer 7) := by
    refine ⟨[.sequence [.text "", .text "serve"]], [], rfl, ?_, nofun⟩
    exact List.forall_mem_singleton.mpr ⟨Entry.new "" "serve", rfl⟩
  have hvalue : Config.valueOf .json text = .ok v := by
    simp only [text, v, items, Config.valueOf, Json.read, String.reduceToList]
    rfl
  have hholds : Config.Holds w "fleet.json" .json v :=
    Config.holds_of_contents rfl (by cbv) hvalue
  obtain ⟨-, herror, -, hfile⟩ :=
    list_loads_entry_by_entry w .json hlist hne hsingle
  refine ⟨hlist, hne, hsingle, hholds, _, rfl, ?_⟩
  rw [hfile "fleet.json" v hholds, herror]
  exact .inl ⟨.integer 7, hfirst, rfl⟩

end Overseer
