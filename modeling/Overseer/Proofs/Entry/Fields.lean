import Overseer.Entry.Decode
import Overseer.Proofs.Budget
import Overseer.Proofs.Keyed
import Overseer.Proofs.Traversal

/-!
# Fields that are written and read again

What a field holds is written as one value.  Reading that value gives the content back, but for a
budget that no integer form stands for; and no value is read as such a budget.

* `Field.Lasting` -- a content that is given back; `lasting_of_ne`, `lasting_restarts` -- which
  contents are;
* `Field.lasting_of_ofValue`, `Field.lasting_of_fallback` -- what is read from a file, and what
  stands in for an absent field, is given back.
-/

namespace Overseer

/-- The path of a fault does not matter to what is read. -/
theorem Decoded.of_under {α : Type} {key : String} {read : Decoded α} {a : α}
    (h : read.under key = .ok a) : read = .ok a := by
  cases read with
  | ok b => exact h
  | error m => cases h

/-! ## Texts, numbers and choices -/

namespace Value

theorem asText_text (s : String) : (text s).asText = .ok s := rfl

theorem asVariable_text (entry : String × String) :
    asVariable (entry.1, text entry.2) = .ok entry := rfl

theorem asTexts_texts (texts : List String) : (sequence (texts.map text)).asTexts = .ok texts :=
  mapM_map_ok asText_text texts

/-- A table of texts is read as the variables that were written. -/
theorem asVariables_entries (vars : Variables) :
    (table (vars.entries.map fun (key, value) => (key, text value))).asVariables = .ok vars := by
  have hread : (vars.entries.map fun (key, value) => (key, text value)).mapM asVariable =
      .ok vars.entries := mapM_map_ok asVariable_text vars.entries
  rw [asVariables, hread]
  exact congrArg Except.ok (Variables.ofPairs_of_perm (.refl vars.entries))

theorem asUnsigned_toNat (n : UInt64) : (integer n.toNat).asUnsigned = .ok n := by
  have hbound : 0 ≤ (n.toNat : Int) ∧ (n.toNat : Int) ≤ maxUnsigned := by
    have hless := n.toNat_lt
    unfold maxUnsigned
    omega
  rw [asUnsigned, if_pos hbound, Int.toNat_natCast, UInt64.ofNat_toNat]

theorem asSigned_toInt (n : Int64) : (integer n.toInt).asSigned = .ok n.toInt := by
  have hlower := n.le_toInt
  have hupper := n.toInt_lt
  refine if_pos ?_
  unfold maxSigned
  omega

end Value

namespace Budget

/-- A budget is read through its integer form. -/
theorem ofValue_eq_ok {v : Value} {budget : Budget} (h : ofValue v = .ok budget) :
    ∃ count, v.asSigned = .ok count ∧ ofCount count = .ok budget := by
  obtain ⟨count, hcount, hbudget⟩ := bind_eq_ok.mp h
  refine ⟨count, hcount, ?_⟩
  split at hbudget
  · next heq =>
    obtain rfl := Except.ok.inj hbudget
    exact heq
  · cases hbudget

/-- **A budget is given back**, unless it is a limited budget that grants nothing. -/
theorem ofValue_toValue (budget : Budget) :
    ofValue budget.toValue = .ok budget ↔ budget ≠ limited 0 := by
  constructor
  · intro h
    obtain ⟨count, -, hcount⟩ := ofValue_eq_ok h
    exact ne_of_ofCount hcount
  · intro h
    have hsigned : (Value.integer budget.toCount).asSigned = .ok budget.toCount := by
      have hbounds := budget.toCount_bounds
      unfold maxCount at hbounds
      refine if_pos ?_
      unfold maxSigned
      omega
    refine bind_eq_ok.mpr ⟨budget.toCount, hsigned, ?_⟩
    rw [ofCount_toCount h]

end Budget

theorem OutputTarget.ofValue_toValue (target : OutputTarget) :
    ofValue .json target.toValue = .ok target := by
  cases target <;> rfl

/-! ## Fields -/

namespace Field

/-- The content is given back when it is written and read again. -/
def Lasting (f : Field) (content : f.Content) : Prop :=
  f.ofValue .json (f.toValue content) = .ok content

theorem lasting_restarts {budget : Budget} : restarts.Lasting budget ↔ budget ≠ .limited 0 :=
  Budget.ofValue_toValue budget

/-- **Every content of every other field is given back.** -/
theorem lasting_of_ne {f : Field} (h : f ≠ restarts) (content : f.Content) :
    f.Lasting content := by
  cases f with
  | restarts => exact absurd rfl h
  | args => exact Value.asTexts_texts content
  | env => exact Value.asVariables_entries content
  | cwd => cases content <;> rfl
  | pollInterval => exact Value.asUnsigned_toNat content
  | stdout | stderr => exact OutputTarget.ofValue_toValue content
  | name | command | detach | autoTerminate => rfl

/-- **What is read from a file is given back.** -/
theorem lasting_of_ofValue {format : Format} {f : Field} {v : Value} {content : f.Content}
    (h : f.ofValue format v = .ok content) : f.Lasting content := by
  by_cases hrestarts : f = restarts
  · subst hrestarts
    obtain ⟨count, -, hcount⟩ := Budget.ofValue_eq_ok h
    exact lasting_restarts.mpr (Budget.ne_of_ofCount hcount)
  · exact lasting_of_ne hrestarts content

/-- What stands in for an absent field is given back. -/
theorem lasting_of_fallback {f : Field} {content : f.Content} (h : f.fallback = some content) :
    f.Lasting content := by
  by_cases hrestarts : f = restarts
  · subst hrestarts
    obtain rfl : Budget.never = content := Option.some.inj h
    exact lasting_restarts.mpr (by decide)
  · exact lasting_of_ne hrestarts content

/-! ## Names -/

theorem mem_all (f : Field) : f ∈ all := by
  cases f <;> decide

/-- A field is found by its name. -/
@[simp] theorem ofKey?_key (f : Field) : ofKey? f.key = some f := by
  cases f <;> rfl

theorem key_of_ofKey? {key : String} {f : Field} (h : ofKey? key = some f) : f.key = key := by
  unfold ofKey? at h
  have hfound := List.find?_some h
  exact eq_of_beq hfound

/-- The name of no field is none of the names. -/
theorem key_ne_of_ofKey? {key : String} (h : ofKey? key = none) (f : Field) : f.key ≠ key := by
  rintro rfl
  rw [ofKey?_key] at h
  cases h

theorem key_injective {f g : Field} (h : f.key = g.key) : f = g := by
  have hfound := congrArg ofKey? h
  rw [ofKey?_key, ofKey?_key] at hfound
  exact Option.some.inj hfound

end Field

end Overseer
