import Overseer.Config
import Overseer.Proofs.Entry.RoundTrip

/-!
# What a table means as an entry

A table that is read as an entry means what it gives for the fields, and nothing else: names of no
field do not matter, whatever is under them, and an optional field may be left out or be written as
what stands in for it.  That holds of the entry that is read, and of the fault that is told.

* `Field.byName` -- the fields in the order in which a table has them;
* `Draft.readTable_eq` -- a table is read as what it gives for the fields in this order;
* `Field.Means` -- two tables mean the same by what they give for a field;
* `Draft.outcome_of_means` -- reading fields that mean the same comes to the same;
* `entry_means_known_fields` -- whole tables, and files that hold one.
-/

namespace Overseer

variable {format : Format} {d d' : Draft} {given given' : Field → Option Value}

namespace Field

/-- Every field, in the order of the names. -/
def byName : List Field :=
  [args, autoTerminate, command, cwd, detach, env, name, pollInterval, restarts, stderr, stdout]

theorem mem_byName (f : Field) : f ∈ byName := by
  cases f <;> decide

theorem byName_nodup : byName.Nodup := by decide

theorem byName_pairwise : byName.Pairwise (·.key < ·.key) := by decide

/-- Two tables mean the same by what they give for a field: they give the same, or one of them gives
nothing and the other one what stands in for the field. -/
inductive Means (f : Field) : Option Value → Option Value → Prop
  | same (x : Option Value) : Means f x x
  | spelled {content : f.Content} (h : f.fallback = some content) :
      Means f none (some (f.toValue content))

/-- What stands in for a field is read as it is written, in both formats. -/
theorem ofValue_fallback {f : Field} {content : f.Content} (h : f.fallback = some content) :
    f.ofValue format (f.toValue content) = .ok content := by
  cases f <;> cases h <;> rfl

example : all.filterMap (fun f => f.fallback.map f.toValue) =
    [.sequence [], .table [], .null, .boolean false, .integer 0, .integer 1000, .text "null",
      .text "null", .boolean false] := rfl

/-- The entries of a table that give something for the fields, in order. -/
def entriesOf (given : Field → Option Value) (fields : List Field) : List (String × Value) :=
  fields.filterMap fun f => (given f).map (f.key, ·)

theorem mem_entriesOf {fields : List Field} {x : String × Value} :
    x ∈ entriesOf given fields ↔ ∃ f ∈ fields, ∃ v, given f = some v ∧ (f.key, v) = x := by
  simp only [entriesOf, List.mem_filterMap, Option.map_eq_some_iff]

theorem ascending_entriesOf {fields : List Field} (h : fields.Pairwise (·.key < ·.key)) :
    Keyed.Ascending (entriesOf given fields) := by
  refine List.pairwise_filterMap.mpr (h.imp fun hlt x hx y hy => ?_)
  obtain ⟨v, -, rfl⟩ := Option.map_eq_some_iff.mp hx
  obtain ⟨w, -, rfl⟩ := Option.map_eq_some_iff.mp hy
  exact hlt

end Field

namespace Draft

/-! ## What is given for the fields -/

/-- Names of no field are passed over. -/
theorem readTable_known (entries : List (String × Value)) :
    readTable format entries d =
      readTable format (entries.filter fun x => (Field.ofKey? x.1).isSome) d := by
  induction entries generalizing d with
  | nil => rfl
  | cons entry rest ih =>
    obtain ⟨key, v⟩ := entry
    rw [readTable, List.filter_cons]
    cases hfield : Field.ofKey? key with
    | none => exact ih
    | some f =>
      simp only [Option.isSome_some, if_true, readTable, hfield]
      exact congrArg _ (funext fun content => ih)

/-- The entries of a table that name fields are those that give something for the fields. -/
theorem known_eq {entries : List (String × Value)} (h : Keyed.Ascending entries) :
    entries.filter (fun x => (Field.ofKey? x.1).isSome) =
      Field.entriesOf (fun f => Keyed.find? f.key entries) Field.byName := by
  refine Keyed.eq_of_mem (h.filter _) (Field.ascending_entriesOf Field.byName_pairwise) ?_
  rintro ⟨key, v⟩
  rw [List.mem_filter, Field.mem_entriesOf]
  constructor
  · rintro ⟨hmem, hfield⟩
    obtain ⟨f, hf⟩ := Option.isSome_iff_exists.mp hfield
    obtain rfl := Field.key_of_ofKey? hf
    exact ⟨f, f.mem_byName, v, (Keyed.find?_eq_some_iff h).mpr hmem, rfl⟩
  · rintro ⟨f, -, w, hfound, heq⟩
    obtain ⟨rfl, rfl⟩ := Prod.mk.inj heq
    refine ⟨(Keyed.find?_eq_some_iff h).mp hfound, ?_⟩
    rw [Field.ofKey?_key]
    rfl

/-- **A table is read as what it gives for the fields**, in the order of their names. -/
theorem readTable_eq {entries : List (String × Value)} (h : Keyed.Ascending entries) :
    readTable format entries d =
      readTable format (Field.entriesOf (fun f => Keyed.find? f.key entries) Field.byName) d := by
  rw [readTable_known, known_eq h]

/-! ## What comes of it -/

theorem toEntry_congr (h : ∀ f, d'.get f = d.get f) : d'.toEntry = d.toEntry := by
  unfold toEntry
  simp only [h]

theorem get_set_self (f : Field) (content : f.Content) : (d.set f content).get f = .ok content := by
  rw [Draft.get, set_self]

theorem get_set_of_ne {f g : Field} (content : f.Content) (h : f ≠ g) :
    (d.set f content).get g = d.get g := by
  rw [Draft.get, set_of_ne content h, Draft.get]

/-- What stands in for a field is what a draft without it holds there. -/
theorem get_of_fallback {f : Field} {content : f.Content} (hunread : d f = none)
    (h : f.fallback = some content) : d.get f = .ok content := by
  rw [Draft.get, hunread, h]

/-- **Fields that mean the same come to the same**: the same entry or the same fault. -/
theorem outcome_of_means {fields : List Field} (hfields : fields.Nodup)
    (hmeans : ∀ f ∈ fields, f.Means (given f) (given' f)) (hget : ∀ f, d'.get f = d.get f)
    (hunread : ∀ f ∈ fields, d f = none) :
    (readTable format (Field.entriesOf given' fields) d' >>= toEntry) =
      (readTable format (Field.entriesOf given fields) d >>= toEntry) := by
  induction fields generalizing d d' with
  | nil => exact toEntry_congr hget
  | cons f fields ih =>
    obtain ⟨hnew, hrest⟩ := List.nodup_cons.mp hfields
    obtain ⟨hmean, hmeans⟩ := List.forall_mem_cons.mp hmeans
    obtain ⟨hblank, hunread⟩ := List.forall_mem_cons.mp hunread
    have hne : ∀ g ∈ fields, f ≠ g := fun g hg heq => hnew (heq ▸ hg)
    rw [Field.entriesOf, Field.entriesOf, List.filterMap_cons, List.filterMap_cons]
    generalize given f = x at hmean ⊢
    generalize given' f = y at hmean ⊢
    cases hmean with
    | same =>
      cases x with
      | none => exact ih hrest hmeans hget hunread
      | some v =>
        simp only [Option.map_some, readTable, Field.ofKey?_key]
        cases f.ofValue format v with
        | error m => rfl
        | ok content =>
          refine ih hrest hmeans (fun g => ?_) fun g hg => ?_
          · by_cases hsame : f = g
            · subst hsame
              rw [get_set_self, get_set_self]
            · rw [get_set_of_ne content hsame, get_set_of_ne content hsame, hget]
          · rw [set_of_ne content (hne g hg)]
            exact hunread g hg
    | @spelled content hfallback =>
      simp only [Option.map_some, Option.map_none, readTable, Field.ofKey?_key,
        Field.ofValue_fallback hfallback]
      refine ih hrest hmeans (fun g => ?_) hunread
      by_cases hsame : f = g
      · subst hsame
        rw [get_set_self, get_of_fallback hblank hfallback]
      · rw [get_set_of_ne content hsame, hget]

end Draft

/-- **An entry means only its known fields.**  Two tables that mean the same for every field are
read as the same entry, or with the same fault, whatever else is in them.  So are two files that hold
them, unless there is a list of entries in one of them. -/
theorem entry_means_known_fields (format : Format) {t t' : List (String × Value)}
    (ht : Keyed.Ascending t) (ht' : Keyed.Ascending t')
    (h : ∀ f : Field, f.Means (Keyed.find? f.key t) (Keyed.find? f.key t')) :
    Entry.ofValue format (.table t') = Entry.ofValue format (.table t) ∧
      (Keyed.find? Config.listKey t = none → Keyed.find? Config.listKey t' = none →
        Config.ofValue format (.table t') = Config.ofValue format (.table t)) := by
  have hentry : Entry.ofValue format (.table t') = Entry.ofValue format (.table t) := by
    rw [Entry.ofValue, Entry.ofValue, Draft.readTable_eq ht, Draft.readTable_eq ht']
    exact Draft.outcome_of_means Field.byName_nodup (fun f _ => h f) (fun _ => rfl) fun _ _ => rfl
  refine ⟨hentry, fun hlist hlist' => ?_⟩
  have hentries : Config.entriesOf format (.table t') = Config.entriesOf format (.table t) := by
    simp only [Config.entriesOf, hlist, hlist', hentry]
  rw [Config.ofValue, Config.ofValue, hentries]

/-- The same fault is told of a table with three fields written out, and with other names beside
them. -/
theorem spelled_out_fails_alike :
    let t : List (String × Value) :=
      [("colour", .null), ("command", .text "serve"), ("poll_interval_ms", .integer (-1))]
    let t' : List (String × Value) :=
      [("args", .sequence []), ("command", .text "serve"), ("cwd", .null),
        ("poll_interval_ms", .integer (-1)), ("size", .table [("colour", .null)]),
        ("stdout", .text "null")]
    Keyed.Ascending t ∧ Keyed.Ascending t' ∧
      (∀ f : Field, f.Means (Keyed.find? f.key t) (Keyed.find? f.key t')) ∧
      Keyed.find? Config.listKey t = none ∧ Keyed.find? Config.listKey t' = none ∧
      Entry.ofValue .json (.table t') = Entry.ofValue .json (.table t) ∧
      Config.ofValue .json (.table t') = Config.ofValue .json (.table t) ∧
      Entry.ofValue .json (.table t) =
        .error ⟨["poll_interval_ms"], .wrongValue (.integer (-1)) .unsigned⟩ := by
  intro t t'
  have ht : Keyed.Ascending t := by decide
  have ht' : Keyed.Ascending t' := by decide
  have hmeans : ∀ f : Field, f.Means (Keyed.find? f.key t) (Keyed.find? f.key t') := by
    intro f
    cases f with
    | args => exact .spelled (f := .args) rfl
    | cwd => exact .spelled (f := .cwd) rfl
    | stdout => exact .spelled (f := .stdout) rfl
    | _ => exact .same _
  obtain ⟨hentry, hconfig⟩ := entry_means_known_fields .json ht ht' hmeans
  exact ⟨ht, ht', hmeans, rfl, rfl, hentry, hconfig rfl rfl, rfl⟩

end Overseer
