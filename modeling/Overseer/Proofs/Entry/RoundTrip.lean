import Overseer.Proofs.Entry.Fields

/-!
# Entries that are written and read again

An entry is written as a table of all its fields.  Whatever was read, in any notation and with any
of the optional fields left out, is given back when it is written and read again.

* `Draft.Lasting` -- every field read so far is given back; `Draft.lasting_readTable` and
  `Draft.lasting_readSequence`: no notation reads anything else;
* `Draft.toEntry_eq_ok_iff` -- an entry is made of what the draft holds in each field;
* `Draft.readTable_written`, `Entry.ofValue_written` -- a table that was written is read, field by
  field, and fields may be left out;
* `entry_round_trip` -- the entries that are given back, and that what is read is among them.
-/

namespace Overseer

namespace Draft

variable {format : Format} {d d' : Draft} {f g : Field} {e : Entry}

/-! ## Single fields -/

@[simp] theorem set_self (content : f.Content) : d.set f content f = some content :=
  dif_pos rfl

theorem set_of_ne (content : f.Content) (h : f ≠ g) : d.set f content g = d g :=
  dif_neg h

/-- Every field that has been read is given back. -/
def Lasting (d : Draft) : Prop :=
  ∀ (f : Field) (content : f.Content), d f = some content → f.Lasting content

theorem lasting_blank : blank.Lasting := by
  intro f content h
  cases h

theorem Lasting.set {content : f.Content} (h : d.Lasting) (hcontent : f.Lasting content) :
    (d.set f content).Lasting := by
  intro g other hother
  by_cases hsame : f = g
  · subst hsame
    rw [set_self] at hother
    exact Option.some.inj hother ▸ hcontent
  · rw [set_of_ne content hsame] at hother
    exact h g other hother

/-- What a draft holds in a field is given back, be it read or the field's fallback. -/
theorem Lasting.get {content : f.Content} (h : d.Lasting) (hget : d.get f = .ok content) :
    f.Lasting content := by
  unfold Draft.get at hget
  split at hget
  · next heq => exact h f content (Except.ok.inj hget ▸ heq)
  · next heq => exact Field.lasting_of_fallback (Except.ok.inj hget ▸ heq)
  · cases hget

/-! ## Whole notations -/

/-- A table is read field by field, whatever its order and whatever else is in it. -/
theorem lasting_readTable {entries : List (String × Value)} (hd : d.Lasting)
    (h : readTable format entries d = .ok d') : d'.Lasting := by
  induction entries generalizing d with
  | nil => exact Except.ok.inj h ▸ hd
  | cons entry rest ih =>
    obtain ⟨key, v⟩ := entry
    unfold readTable at h
    split at h
    · exact ih hd h
    · next f hf =>
      obtain ⟨content, hcontent, hrest⟩ := bind_eq_ok.mp h
      exact ih (hd.set (Field.lasting_of_ofValue (Decoded.of_under hcontent))) hrest

/-- Every field that is written in a table was read, if the table was. -/
theorem exists_ofValue_of_readTable {entries : List (String × Value)} {v : Value}
    (h : readTable format entries d = .ok d') (hmem : (f.key, v) ∈ entries) :
    ∃ content, f.ofValue format v = .ok content := by
  induction entries generalizing d with
  | nil => cases hmem
  | cons entry rest ih =>
    obtain ⟨key, x⟩ := entry
    unfold readTable at h
    rcases List.mem_cons.mp hmem with heq | hrest
    · cases heq
      rw [Field.ofKey?_key] at h
      obtain ⟨content, hcontent, -⟩ := bind_eq_ok.mp h
      exact ⟨content, Decoded.of_under hcontent⟩
    · split at h
      · exact ih h hrest
      · obtain ⟨content, -, h⟩ := bind_eq_ok.mp h
        exact ih h hrest

/-- A sequence is read field by field, as far as it goes. -/
theorem lasting_readSequence {fields : List Field} {values : List Value} (hd : d.Lasting)
    (h : readSequence format fields values d = .ok d') : d'.Lasting := by
  induction fields generalizing d values with
  | nil => exact Except.ok.inj h ▸ hd
  | cons f fields ih =>
    cases values with
    | nil => exact Except.ok.inj h ▸ hd
    | cons v values =>
      obtain ⟨content, hcontent, hrest⟩ := bind_eq_ok.mp h
      exact ih (hd.set (Field.lasting_of_ofValue hcontent)) hrest

/-- **An entry is made of what the draft holds in each field.** -/
theorem toEntry_eq_ok_iff : d.toEntry = .ok e ↔ ∀ f, d.get f = .ok (f.get e) := by
  constructor
  · intro h
    obtain ⟨name, hname, h⟩ := bind_eq_ok.mp h
    obtain ⟨command, hcommand, h⟩ := bind_eq_ok.mp h
    obtain ⟨args, hargs, h⟩ := bind_eq_ok.mp h
    obtain ⟨env, henv, h⟩ := bind_eq_ok.mp h
    obtain ⟨cwd, hcwd, h⟩ := bind_eq_ok.mp h
    obtain ⟨detach, hdetach, h⟩ := bind_eq_ok.mp h
    obtain ⟨restarts, hrestarts, h⟩ := bind_eq_ok.mp h
    obtain ⟨pollInterval, hpollInterval, h⟩ := bind_eq_ok.mp h
    obtain ⟨stdout, hstdout, h⟩ := bind_eq_ok.mp h
    obtain ⟨stderr, hstderr, h⟩ := bind_eq_ok.mp h
    obtain ⟨autoTerminate, hautoTerminate, h⟩ := bind_eq_ok.mp h
    obtain rfl := Except.ok.inj h
    intro f
    cases f <;> assumption
  · intro h
    unfold toEntry
    simp only [h]
    rfl

/-! ## The table that is written -/

/-- An entry of the table that stands for `e`. -/
def Written (e : Entry) (x : String × Value) : Prop :=
  ∃ f : Field, x = (f.key, f.toValue (f.get e))

/-- **The table that was written is read**: each field in it is read as what the entry holds. -/
theorem readTable_written {entries : List (String × Value)}
    (hwritten : ∀ x ∈ entries, Written e x) (hlasting : ∀ f : Field, f.Lasting (f.get e)) :
    ∃ d', readTable .json entries d = .ok d' ∧
      ∀ f : Field, d' f = if f.key ∈ entries.map Prod.fst then some (f.get e) else d f := by
  induction entries generalizing d with
  | nil => exact ⟨d, rfl, fun f => rfl⟩
  | cons x rest ih =>
    obtain ⟨f, rfl⟩ := hwritten x List.mem_cons_self
    obtain ⟨d', hread, hheld⟩ := ih (d := d.set f (f.get e))
      fun x hx => hwritten x (List.mem_cons_of_mem _ hx)
    refine ⟨d', ?_, fun g => ?_⟩
    · rw [readTable, Field.ofKey?_key]
      exact bind_eq_ok.mpr ⟨f.get e, congrArg (Decoded.under f.key) (hlasting f), hread⟩
    · by_cases hsame : f = g
      · subst hsame
        simp [hheld]
      · have hkey : g.key ≠ f.key := fun h => hsame (Field.key_injective h).symm
        have hmem : g.key ∈ ((f.key, f.toValue (f.get e)) :: rest).map Prod.fst ↔
            g.key ∈ rest.map Prod.fst :=
          ⟨fun h => (List.mem_cons.mp h).resolve_left hkey, List.mem_cons_of_mem _⟩
        rw [hheld, set_of_ne _ hsame]
        exact if_congr hmem.symm rfl rfl

end Draft

namespace Entry

variable {format : Format} {v : Value} {e : Entry}

/-- Writing fields one after the other leaves entries of fields and what was there. -/
theorem mem_written (fields : List Field) {entries : List (String × Value)}
    (hentries : ∀ x ∈ entries, Draft.Written e x) :
    ∀ x ∈ fields.foldl (fun entries f => Keyed.put f.key (f.toValue (f.get e)) entries) entries,
      Draft.Written e x := by
  induction fields generalizing entries with
  | nil => exact hentries
  | cons f fields ih =>
    refine ih fun x hx => ?_
    rcases Keyed.mem_put hx with rfl | hx
    · exact ⟨f, rfl⟩
    · exact hentries x hx

/-- The name of every field that is written is there, and all that were there before. -/
theorem mem_keys_written {fields : List Field} {entries : List (String × Value)} {f : Field}
    (h : f ∈ fields ∨ f.key ∈ entries.map Prod.fst) :
    f.key ∈ (fields.foldl (fun entries f => Keyed.put f.key (f.toValue (f.get e)) entries)
      entries).map Prod.fst := by
  induction fields generalizing entries with
  | nil => exact h.resolve_left List.not_mem_nil
  | cons g fields ih =>
    refine ih ?_
    rw [Keyed.mem_keys_put, List.mem_cons] at *
    rcases h with (rfl | hf) | hkey
    · exact .inr (.inl rfl)
    · exact .inl hf
    · exact .inr (.inr hkey)

/-- A table of fields that are given back is read as the entry, if each field that is left out is
what stands in for it. -/
theorem ofValue_written {entries : List (String × Value)}
    (hwritten : ∀ x ∈ entries, Draft.Written e x) (hlasting : ∀ f : Field, f.Lasting (f.get e))
    (hleft : ∀ f : Field, f.key ∈ entries.map Prod.fst ∨ f.fallback = some (f.get e)) :
    ofValue .json (.table entries) = .ok e := by
  obtain ⟨d, hread, hheld⟩ := Draft.readTable_written (d := .blank) hwritten hlasting
  refine bind_eq_ok.mpr ⟨d, hread, Draft.toEntry_eq_ok_iff.mpr fun f => ?_⟩
  by_cases hkey : f.key ∈ entries.map Prod.fst
  · rw [Draft.get, hheld, if_pos hkey]
  · rw [Draft.get, hheld, if_neg hkey, (hleft f).resolve_left hkey]
    rfl

/-- An entry each of whose fields is given back is given back. -/
theorem ofValue_toValue (h : ∀ f : Field, f.Lasting (f.get e)) :
    ofValue .json e.toValue = .ok e :=
  ofValue_written (mem_written Field.all fun _ hx => absurd hx List.not_mem_nil) h fun f =>
    .inl (mem_keys_written (.inl f.mem_all))

/-- **Whatever is read is given back, field by field.** -/
theorem lasting_of_ofValue (h : ofValue format v = .ok e) (f : Field) :
    f.Lasting (f.get e) := by
  unfold ofValue at h
  split at h
  · obtain ⟨d, hread, hentry⟩ := bind_eq_ok.mp h
    exact (Draft.lasting_readTable Draft.lasting_blank hread).get
      (Draft.toEntry_eq_ok_iff.mp hentry f)
  · obtain ⟨d, hread, h⟩ := bind_eq_ok.mp h
    split at h
    · cases h
    · split at h
      · cases h
      · exact (Draft.lasting_readSequence Draft.lasting_blank hread).get
          (Draft.toEntry_eq_ok_iff.mp h f)
  · cases h

end Entry

/-- **Entries are given back.**  An entry that is written and read again is the same entry exactly
when its budget is not a limited one that grants nothing.  No value of either format is read as an
entry with such a budget, so that what was read once is given back from then on. -/
theorem entry_round_trip :
    (∀ e : Entry, Entry.ofValue .json e.toValue = .ok e ↔ e.restarts ≠ .limited 0) ∧
      ∀ (format : Format) (v : Value) (e : Entry), Entry.ofValue format v = .ok e →
        e.restarts ≠ .limited 0 ∧ Entry.ofValue .json e.toValue = .ok e := by
  have hread : ∀ (format : Format) (v : Value) (e : Entry), Entry.ofValue format v = .ok e →
      e.restarts ≠ .limited 0 := fun format v e h =>
    Field.lasting_restarts.mp (Entry.lasting_of_ofValue h .restarts)
  have hback : ∀ e : Entry, e.restarts ≠ .limited 0 → Entry.ofValue .json e.toValue = .ok e := by
    intro e he
    refine Entry.ofValue_toValue fun f => ?_
    by_cases hrestarts : f = .restarts
    · subst hrestarts
      exact Field.lasting_restarts.mpr he
    · exact Field.lasting_of_ne hrestarts _
  refine ⟨fun e => ⟨hread .json e.toValue e, hback e⟩, fun format v e h => ?_⟩
  exact ⟨hread format v e h, hback e (hread format v e h)⟩

/-- A table with its fields out of order, one that is none of an entry's, a choice that brings a
value, and most of the optional fields left out. -/
theorem entry_round_trip_of_unordered :
    let v := Value.table [("stdout", .table [("file", .text "log")]), ("command", .text "serve"),
      ("colour", .null), ("restarts", .integer 3), ("name", .text "web")]
    let e := { Entry.new "web" "serve" with stdout := .file "log", restarts := .limited 3 }
    Entry.ofValue .json v = .ok e ∧ e.restarts ≠ .limited 0 ∧
      Entry.ofValue .json e.toValue = .ok e := by
  intro v e
  have h : Entry.ofValue .json v = .ok e := rfl
  exact ⟨h, entry_round_trip.2 .json v e h⟩

/-- A sequence of values, with all but the required ones left out. -/
example : Entry.ofValue .json (.sequence [.text "web", .text "serve"]) =
    .ok (Entry.new "web" "serve") := rfl

end Overseer
