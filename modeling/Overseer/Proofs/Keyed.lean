import Overseer.Keyed

/-!
# Writing entries in key order

* `Keyed.mem_keys_put` -- whose keys are there after an entry was written;
* `Keyed.put_perm`, `Keyed.putAll_perm` -- entries with new keys are added to the others;
* `Keyed.find?_eq_some_iff` -- what is found is there;
* `Keyed.eq_of_perm`, `Keyed.eq_of_mem` -- entries in key order are determined by what they are;
* `Variables.ofPairs_of_perm` -- so variables may be set in any order;
* `Variables.get?_ofPairs_eq_some_iff` -- but of two values for one name the last counts.
-/

namespace Overseer

namespace Keyed

variable {α : Type _}

instance (entries : List (String × α)) : Decidable (Ascending entries) :=
  inferInstanceAs (Decidable (entries.Pairwise (·.1 < ·.1)))

/-- After an entry was written its key is there, and all that were there before. -/
theorem mem_keys_put {key other : String} {value : α} {entries : List (String × α)} :
    other ∈ (put key value entries).map Prod.fst ↔
      other = key ∨ other ∈ entries.map Prod.fst := by
  induction entries with
  | nil => simp [put]
  | cons e rest ih =>
    obtain ⟨k, v⟩ := e
    simp only [put]
    split
    · simp
    · split
      · next heq =>
        subst heq
        simp
      · rw [List.map_cons, List.mem_cons, ih, List.map_cons, List.mem_cons]
        exact or_left_comm

/-- An entry whose key is new is added to those that are there. -/
theorem put_perm {key : String} {value : α} {entries : List (String × α)}
    (h : key ∉ entries.map Prod.fst) : (put key value entries).Perm ((key, value) :: entries) := by
  induction entries with
  | nil => exact .refl _
  | cons e rest ih =>
    obtain ⟨k, v⟩ := e
    have hne : key ≠ k := fun heq => h (heq ▸ List.mem_cons_self)
    rw [put, if_neg hne]
    split
    · exact .refl _
    · exact ((ih fun hmem => h (List.mem_cons_of_mem _ hmem)).cons (k, v)).trans (.swap _ _ _)

/-- Entries with new and distinct keys, written one after the other, are added to those that are
there. -/
theorem putAll_perm {entries pairs : List (String × α)}
    (h : (entries ++ pairs).Pairwise (·.1 ≠ ·.1)) :
    (pairs.foldl (fun entries (key, value) => put key value entries) entries).Perm
      (entries ++ pairs) := by
  induction pairs generalizing entries with
  | nil =>
    rw [List.append_nil]
    exact .refl _
  | cons pair rest ih =>
    obtain ⟨key, value⟩ := pair
    have hnew : key ∉ entries.map Prod.fst := by
      intro hmem
      obtain ⟨e, he, heq⟩ := List.mem_map.mp hmem
      exact (List.pairwise_append.mp h).2.2 e he (key, value) List.mem_cons_self heq
    have hsplit : (put key value entries ++ rest).Perm (entries ++ (key, value) :: rest) :=
      ((put_perm hnew).append_right rest).trans List.perm_middle.symm
    exact (ih ((hsplit.pairwise_iff Ne.symm).mpr h)).trans hsplit

/-- Writing entries one after the other keeps the keys ascending. -/
theorem ascending_putAll {entries : List (String × α)} (h : Ascending entries)
    (pairs : List (String × α)) :
    Ascending (pairs.foldl (fun entries (key, value) => put key value entries) entries) := by
  induction pairs generalizing entries with
  | nil => exact h
  | cons pair rest ih => exact ih (ascending_put h)

/-- No key is there twice. -/
theorem Ascending.nodup_keys {entries : List (String × α)} (h : Ascending entries) :
    (entries.map Prod.fst).Nodup :=
  (List.pairwise_map.mpr h).imp String.ne_of_lt

theorem Ascending.nodup {entries : List (String × α)} (h : Ascending entries) : entries.Nodup :=
  List.Pairwise.imp (fun hlt heq => String.ne_of_lt hlt (congrArg Prod.fst heq)) h

/-- What is found is there, and the other way round. -/
theorem find?_eq_some_iff {key : String} {value : α} {entries : List (String × α)}
    (h : Ascending entries) : find? key entries = some value ↔ (key, value) ∈ entries := by
  induction entries with
  | nil => exact iff_of_false nofun List.not_mem_nil
  | cons e rest ih =>
    obtain ⟨k, v⟩ := e
    obtain ⟨hk, hrest⟩ := List.pairwise_cons.mp h
    rw [find?, List.mem_cons]
    split
    · next heq =>
      subst heq
      have hlater : (key, value) ∉ rest := fun hmem => String.lt_irrefl key (hk _ hmem)
      rw [or_iff_left hlater, Option.some.injEq, Prod.mk.injEq, eq_self, true_and, eq_comm]
    · next hne =>
      rw [ih hrest, or_iff_right fun heq => hne (congrArg Prod.fst heq)]

/-- Entries in key order are determined by what they are. -/
theorem eq_of_perm {entries others : List (String × α)} (h : Ascending entries)
    (hothers : Ascending others) (hperm : entries.Perm others) : entries = others := by
  apply List.Perm.eq_of_pairwise _ h hothers hperm
  intro e e' _ _ hlt hgt
  exact absurd hgt (String.lt_asymm hlt)

/-- Entries in key order are determined by which they are. -/
theorem eq_of_mem {entries others : List (String × α)} (h : Ascending entries)
    (hothers : Ascending others) (hmem : ∀ x, x ∈ entries ↔ x ∈ others) : entries = others :=
  eq_of_perm h hothers <|
    (List.perm_ext_iff_of_nodup h.nodup hothers.nodup).mpr hmem

end Keyed

namespace Variables

/-- Variables are determined by their entries. -/
theorem eq_of_entries {vars others : Variables} (h : vars.entries = others.entries) :
    vars = others := by
  obtain ⟨entries, _⟩ := vars
  obtain ⟨others, _⟩ := others
  obtain rfl : entries = others := h
  rfl

/-- Variables that are set are written one after the other. -/
theorem entries_setAll (vars : Variables) (pairs : List (String × String)) :
    (pairs.foldl (fun vars (name, value) => vars.set name value) vars).entries =
      pairs.foldl (fun entries (name, value) => Keyed.put name value entries) vars.entries := by
  induction pairs generalizing vars with
  | nil => rfl
  | cons pair rest ih => exact ih (vars.set pair.1 pair.2)

/-- **Variables are told by their values**, in whichever order they are set. -/
theorem ofPairs_of_perm {vars : Variables} {pairs : List (String × String)}
    (h : pairs.Perm vars.entries) : ofPairs pairs = vars := by
  have hdistinct : pairs.Pairwise (·.1 ≠ ·.1) :=
    (h.pairwise_iff Ne.symm).mpr (vars.ascending.imp String.ne_of_lt)
  have hperm : (ofPairs pairs).entries.Perm vars.entries := by
    rw [ofPairs, entries_setAll]
    exact (Keyed.putAll_perm hdistinct).trans h
  exact eq_of_entries (Keyed.eq_of_perm (ofPairs pairs).ascending vars.ascending hperm)

theorem get?_set (vars : Variables) (name other value : String) :
    (vars.set name value).get? other = if other = name then some value else vars.get? other :=
  Keyed.find?_put name other value vars.entries

theorem get?_eq_some_iff {vars : Variables} {name value : String} :
    vars.get? name = some value ↔ (name, value) ∈ vars.entries :=
  Keyed.find?_eq_some_iff vars.ascending

/-- Variables are told by their values. -/
theorem eq_of_get? {vars others : Variables}
    (h : ∀ name value, vars.get? name = some value ↔ others.get? name = some value) :
    vars = others := by
  refine eq_of_entries (Keyed.eq_of_mem vars.ascending others.ascending ?_)
  rintro ⟨name, value⟩
  rw [← get?_eq_some_iff, ← get?_eq_some_iff]
  exact h name value

/-- Variables that are set take the place of those that were. -/
theorem get?_setAll (vars : Variables) (pairs : List (String × String)) (name : String) :
    (pairs.foldl (fun vars (name, value) => vars.set name value) vars).get? name =
      (pairs.reverse.lookup name).or (vars.get? name) := by
  induction pairs generalizing vars with
  | nil => rfl
  | cons pair rest ih =>
    rw [List.foldl_cons, ih, get?_set, List.reverse_cons, List.lookup_append, Option.or_assoc]
    congr 1
    split
    · next hname =>
      subst hname
      rw [List.lookup_cons, beq_self_eq_true]
      rfl
    · next hname =>
      rw [List.lookup_cons, beq_eq_false_iff_ne.mpr hname]
      rfl

/-- **Of two values for one name the last counts.** -/
theorem get?_ofPairs_eq_some_iff {pairs : List (String × String)} {name value : String} :
    (ofPairs pairs).get? name = some value ↔
      ∃ before after, pairs = before ++ (name, value) :: after ∧ ∀ x ∈ after, x.1 ≠ name := by
  have hnone : empty.get? name = none := rfl
  rw [ofPairs, get?_setAll, hnone, Option.or_none, List.lookup_eq_some_iff]
  constructor
  · rintro ⟨after, before, hpairs, hafter⟩
    refine ⟨before.reverse, after.reverse, ?_, fun x hx heq => ?_⟩
    · rw [← pairs.reverse_reverse, hpairs]
      simp
    · exact bne_iff_ne.mp (hafter x (List.mem_reverse.mp hx)) heq.symm
  · rintro ⟨before, after, rfl, hafter⟩
    refine ⟨after.reverse, before.reverse, by simp, fun x hx => ?_⟩
    exact bne_iff_ne.mpr (hafter x (List.mem_reverse.mp hx)).symm

end Variables

end Overseer
