/-!
# Association lists in key order

Tables and variable lists are association lists whose keys ascend strictly, in the order of their
code points.

* `Keyed.put` -- writes one entry, over an older one of the same key; `ascending_put`: the result
  ascends again; `find?_put`: the entry is found, every other one is as before;
* `Keyed.find?`, `Keyed.without` -- reading and removing;
* `Variables` -- an ascending list of texts; `Variables.ofPairs` takes pairs in any order, and of
  two with one key the last.
-/

namespace Overseer

namespace Keyed

variable {α : Type _}

/-- The keys ascend strictly. -/
def Ascending (entries : List (String × α)) : Prop :=
  entries.Pairwise (·.1 < ·.1)

/-- Writes one entry at its place. -/
def put (key : String) (value : α) : List (String × α) → List (String × α)
  | [] => [(key, value)]
  | (k, v) :: rest =>
    if key < k then (key, value) :: (k, v) :: rest
    else if key = k then (key, value) :: rest
    else (k, v) :: put key value rest

/-- The value of a key. -/
def find? (key : String) : List (String × α) → Option α
  | [] => none
  | (k, v) :: rest => if key = k then some v else find? key rest

/-- The entries of all other keys. -/
def without (key : String) (entries : List (String × α)) : List (String × α) :=
  entries.filter (·.1 != key)

/-- What is there after `put` is the new entry or was there before. -/
theorem mem_put {key : String} {value : α} {entries : List (String × α)} {x : String × α}
    (h : x ∈ put key value entries) : x = (key, value) ∨ x ∈ entries := by
  induction entries with
  | nil => simpa [put] using h
  | cons e rest ih =>
    obtain ⟨k, v⟩ := e
    simp only [put] at h
    split at h
    · simpa using h
    · split at h
      · rcases List.mem_cons.mp h with h | h
        · exact .inl h
        · exact .inr (List.mem_cons_of_mem _ h)
      · rcases List.mem_cons.mp h with h | h
        · exact .inr (h ▸ List.mem_cons_self)
        · exact (ih h).imp_right (List.mem_cons_of_mem _)

/-- Writing an entry keeps the keys ascending. -/
theorem ascending_put {key : String} {value : α} {entries : List (String × α)}
    (h : Ascending entries) : Ascending (put key value entries) := by
  induction entries with
  | nil => simp [put, Ascending]
  | cons e rest ih =>
    obtain ⟨k, v⟩ := e
    obtain ⟨hk, hrest⟩ := List.pairwise_cons.mp h
    simp only [put]
    split
    · rename_i hlt
      refine List.pairwise_cons.mpr ⟨fun x hx => ?_, h⟩
      rcases List.mem_cons.mp hx with rfl | hx
      · exact hlt
      · exact String.lt_trans hlt (hk x hx)
    · split
      · rename_i heq
        exact List.pairwise_cons.mpr ⟨fun x hx => heq ▸ hk x hx, hrest⟩
      · rename_i hnlt hne
        refine List.pairwise_cons.mpr ⟨fun x hx => ?_, ih hrest⟩
        rcases mem_put hx with rfl | hx
        · have hle : k ≤ key := String.not_lt.mp hnlt
          exact String.not_le.mp fun hge => hne (String.le_antisymm hge hle)
        · exact hk x hx

/-- The entry just written is found, and every other one is found as before. -/
theorem find?_put (key other : String) (value : α) (entries : List (String × α)) :
    find? other (put key value entries) =
      if other = key then some value else find? other entries := by
  induction entries with
  | nil => simp [put, find?]
  | cons e rest ih =>
    obtain ⟨k, v⟩ := e
    simp only [put]
    split
    · simp [find?]
    · split
      · rename_i heq
        subst heq
        simp only [find?]
        split <;> simp_all
      · rename_i hne
        simp only [find?, ih]
        grind

end Keyed

/-- Environment variables, by name. -/
structure Variables where
  entries : List (String × String)
  ascending : Keyed.Ascending entries

namespace Variables

/-- No variables. -/
def empty : Variables := ⟨[], List.Pairwise.nil⟩

/-- Sets one variable. -/
def set (vars : Variables) (name value : String) : Variables :=
  ⟨Keyed.put name value vars.entries, Keyed.ascending_put vars.ascending⟩

/-- The value of a variable. -/
def get? (vars : Variables) (name : String) : Option String :=
  Keyed.find? name vars.entries

/-- Sets variables from left to right, so that of two with one name the last counts. -/
def ofPairs (pairs : List (String × String)) : Variables :=
  pairs.foldl (fun vars (name, value) => vars.set name value) empty

/-- Changes every value. -/
def mapValues (f : String → String) (vars : Variables) : Variables :=
  ⟨vars.entries.map fun (name, value) => (name, f value),
    by simpa [Keyed.Ascending, List.pairwise_map] using vars.ascending⟩

end Variables

end Overseer
