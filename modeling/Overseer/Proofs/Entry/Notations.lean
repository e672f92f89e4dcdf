import Overseer.Proofs.Entry.RoundTrip

/-!
# Entries with and without the names of their fields

An entry is written as a table that names its fields, or as the sequence of their values, in order
and as far as they go.  The two notations are read in different orders: a table in the order of the
names, a sequence in the order of the fields.  That decides which fault is told, but not what is
read.

* `Draft.Filled` -- a draft in which the given fields, and no others, were filled in;
  `Draft.filled_insert` -- one more field;
* `Draft.readTable_eq_ok_iff`, `Draft.readSequence_eq_ok_iff` -- both notations fill in what they
  give;
* `Entry.named` -- the table that names the values of a sequence;
* `positional_iff_named` -- a sequence is read exactly when it has a proper length and its table is
  read, and as the same entry.
-/

namespace Overseer

variable {format : Format} {d d' : Draft} {e : Entry}

namespace Draft

/-- What is given for each field is read into the draft `d'`, and the draft is as `d` where nothing
is given. -/
structure Filled (format : Format) (given : Field → Value → Prop) (d d' : Draft) : Prop where
  read : ∀ f v, given f v → ∃ content, f.ofValue format v = .ok content ∧ d' f = some content
  left : ∀ f, (∀ v, ¬ given f v) → d' f = d f

theorem Filled.congr {given given' : Field → Value → Prop} (h : ∀ f v, given f v ↔ given' f v) :
    Filled format given d d' ↔ Filled format given' d d' := by
  obtain rfl : given = given' := funext fun f => funext fun v => propext (h f v)
  exact Iff.rfl

/-- With nothing given the draft stays as it is. -/
theorem filled_nothing {given : Field → Value → Prop} (h : ∀ f v, ¬ given f v) :
    Filled format given d d' ↔ d' = d := by
  constructor
  · intro hfilled
    exact funext fun f => hfilled.left f (h f)
  · rintro rfl
    exact ⟨fun f v hgiven => absurd hgiven (h f v), fun _ _ => rfl⟩

/-- **One more field** is filled in before the others. -/
theorem filled_insert (given : Field → Value → Prop) {given' : Field → Value → Prop} {g : Field}
    {x : Value} (hnew : ∀ v, ¬ given g v) (h : ∀ f v, given' f v ↔ (f = g ∧ v = x) ∨ given f v) :
    Filled format given' d d' ↔
      ∃ content, g.ofValue format x = .ok content ∧ Filled format given (d.set g content) d' := by
  constructor
  · intro hfilled
    obtain ⟨content, hcontent, hheld⟩ := hfilled.read g x ((h g x).mpr (.inl ⟨rfl, rfl⟩))
    refine ⟨content, hcontent, fun f v hgiven => hfilled.read f v ((h f v).mpr (.inr hgiven)), ?_⟩
    intro f hnone
    by_cases hsame : g = f
    · subst hsame
      rw [hheld, set_self]
    · rw [set_of_ne content hsame]
      refine hfilled.left f fun v hgiven => ?_
      rcases (h f v).mp hgiven with ⟨rfl, -⟩ | hgiven
      · exact hsame rfl
      · exact hnone v hgiven
  · rintro ⟨content, hcontent, hfilled⟩
    refine ⟨fun f v hgiven => ?_, fun f hnone => ?_⟩
    · rcases (h f v).mp hgiven with ⟨rfl, rfl⟩ | hgiven
      · exact ⟨content, hcontent, (hfilled.left f hnew).trans (set_self content)⟩
      · exact hfilled.read f v hgiven
    · have hne : g ≠ f := by
        rintro rfl
        exact hnone x ((h g x).mpr (.inl ⟨rfl, rfl⟩))
      rw [hfilled.left f fun v hgiven => hnone v ((h f v).mpr (.inr hgiven)), set_of_ne content hne]

/-- **A table** in which no name is there twice fills in what it gives by name. -/
theorem readTable_eq_ok_iff {entries : List (String × Value)}
    (hnames : (entries.map Prod.fst).Nodup) :
    readTable format entries d = .ok d' ↔
      Filled format (fun f v => (f.key, v) ∈ entries) d d' := by
  induction entries generalizing d with
  | nil =>
    rw [filled_nothing fun _ _ => List.not_mem_nil, readTable, Except.ok.injEq, eq_comm]
  | cons entry rest ih =>
    obtain ⟨key, x⟩ := entry
    obtain ⟨hnew, hrest⟩ := List.nodup_cons.mp hnames
    unfold readTable
    split
    · next hfield =>
      -- the name of no field
      rw [ih hrest]
      refine Filled.congr fun f v => ?_
      have hne : (f.key, v) ≠ (key, x) := fun heq =>
        Field.key_ne_of_ofKey? hfield f (congrArg Prod.fst heq)
      exact (List.mem_cons.trans (or_iff_right hne)).symm
    · next g hfield =>
      obtain rfl := Field.key_of_ofKey? hfield
      rw [filled_insert (fun f v => (f.key, v) ∈ rest) (g := g) (x := x)]
      · rw [bind_eq_ok]
        refine exists_congr fun content => and_congr ?_ (ih hrest)
        exact ⟨Decoded.of_under, congrArg (Decoded.under g.key)⟩
      · exact fun v hmem => hnew (List.mem_map.mpr ⟨_, hmem, rfl⟩)
      · intro f v
        rw [List.mem_cons, Prod.mk.injEq]
        exact or_congr_left (and_congr_left' ⟨Field.key_injective, congrArg Field.key⟩)

/-- **A sequence** fills in what it gives by place. -/
theorem readSequence_eq_ok_iff {fields : List Field} {values : List Value}
    (hfields : fields.Nodup) :
    readSequence format fields values d = .ok d' ↔
      Filled format (fun f v => (f, v) ∈ fields.zip values) d d' := by
  induction fields generalizing d values with
  | nil =>
    refine Iff.trans ?_ (filled_nothing fun _ _ => List.not_mem_nil).symm
    rw [readSequence, Except.ok.injEq, eq_comm]
    exact nofun
  | cons g fields ih =>
    obtain ⟨hnew, hrest⟩ := List.nodup_cons.mp hfields
    cases values with
    | nil =>
      refine Iff.trans ?_ (filled_nothing fun _ _ => List.not_mem_nil).symm
      rw [readSequence, Except.ok.injEq, eq_comm]
      exact nofun
    | cons x values =>
      rw [filled_insert (fun f v => (f, v) ∈ fields.zip values) (g := g) (x := x)]
      · rw [readSequence, bind_eq_ok]
        exact exists_congr fun content => and_congr_right fun _ => ih hrest
      · exact fun v hmem => hnew (List.of_mem_zip hmem).1
      · intro f v
        rw [List.zip_cons_cons, List.mem_cons, Prod.mk.injEq]

end Draft

/-- What is paired with distinct things has distinct first parts. -/
theorem pairwise_zip_of_nodup {α β : Type} {xs : List α} (h : xs.Nodup) (ys : List β) :
    (xs.zip ys).Pairwise (·.1 ≠ ·.1) := by
  induction xs generalizing ys with
  | nil => exact .nil
  | cons x xs ih =>
    cases ys with
    | nil => exact .nil
    | cons y ys =>
      obtain ⟨hnew, hrest⟩ := List.nodup_cons.mp h
      refine .cons (fun pair hmem heq => hnew ?_) (ih hrest ys)
      have hx : x = pair.1 := heq
      exact hx ▸ (List.of_mem_zip hmem).1

namespace Entry

/-- The fields of a table that gives values to the first fields, by name. -/
def namedFields (values : List Value) : List (String × Value) :=
  ((Field.all.zip values).map fun (f, v) => (f.key, v)).foldl
    (fun entries (key, v) => Keyed.put key v entries) []

/-- The table that names the values of a sequence. -/
def named (values : List Value) : Value := .table (namedFields values)

theorem ascending_namedFields (values : List Value) : Keyed.Ascending (namedFields values) :=
  Keyed.ascending_putAll .nil _

/-- Each value is there under the name of the field at its place. -/
theorem mem_namedFields {values : List Value} {f : Field} {v : Value} :
    (f.key, v) ∈ namedFields values ↔ (f, v) ∈ Field.all.zip values := by
  have hdistinct : ((Field.all.zip values).map fun (f, v) => (f.key, v)).Pairwise (·.1 ≠ ·.1) := by
    rw [List.pairwise_map]
    exact (pairwise_zip_of_nodup (by decide) values).imp fun hne heq =>
      hne (Field.key_injective heq)
  rw [namedFields, (Keyed.putAll_perm hdistinct).mem_iff, List.nil_append, List.mem_map]
  constructor
  · rintro ⟨⟨g, x⟩, hmem, heq⟩
    obtain ⟨hkey, rfl⟩ := Prod.mk.inj heq
    exact Field.key_injective hkey ▸ hmem
  · exact fun hmem => ⟨(f, v), hmem, rfl⟩

example : named [.text "web", .text "serve"] =
    .table [("command", .text "serve"), ("name", .text "web")] := rfl

end Entry

/-- **Entries agree with and without names.**  A sequence is read exactly when it has two values at
least and eleven at most and the table that names them is read, and it is read as the same entry. -/
theorem positional_iff_named (format : Format) (values : List Value) (e : Entry) :
    Entry.ofValue format (.sequence values) = .ok e ↔
      2 ≤ values.length ∧ values.length ≤ 11 ∧
        Entry.ofValue format (Entry.named values) = .ok e := by
  have hread : ∀ d, Draft.readSequence format Field.all values .blank = .ok d ↔
      Draft.readTable format (Entry.namedFields values) .blank = .ok d := by
    intro d
    rw [Draft.readSequence_eq_ok_iff (by decide),
      Draft.readTable_eq_ok_iff (Entry.ascending_namedFields values).nodup_keys]
    exact Draft.Filled.congr fun f v => Entry.mem_namedFields.symm
  have hlengths : Field.required = 2 ∧ Field.all.length = 11 := ⟨rfl, rfl⟩
  rw [Entry.named, Entry.ofValue, Entry.ofValue, bind_eq_ok, bind_eq_ok, hlengths.1, hlengths.2]
  constructor
  · rintro ⟨d, hd, h⟩
    split at h
    · cases h
    · next hlong =>
      split at h
      · cases h
      · next hshort =>
        exact ⟨Nat.le_of_not_lt hlong, Nat.le_of_not_lt hshort, d, (hread d).mp hd, h⟩
  · rintro ⟨hlong, hshort, d, hd, h⟩
    refine ⟨d, (hread d).mpr hd, ?_⟩
    rw [if_neg (Nat.not_lt_of_le hlong), if_neg (Nat.not_lt_of_le hshort)]
    exact h

end Overseer
