import Overseer.Expansion
import Overseer.Proofs.Keyed

/-!
# What expansion leaves alone

* `expand_of_plain` -- a text without a dollar sign stays as it is;
* `Entry.Plain`, `Entry.expand_of_plain` -- so does an entry that has none in its expanded texts.
-/

namespace Overseer

variable {lookup : String → Option String}

theorem expandChars_of_plain {text : List Char} (h : '$' ∉ text) :
    expandChars lookup text = text := by
  induction text with
  | nil =>
    unfold expandChars
    rfl
  | cons c rest ih =>
    have hc : c ≠ '$' := fun heq => h (heq ▸ List.mem_cons_self)
    have hrest : '$' ∉ rest := fun hmem => h (List.mem_cons_of_mem c hmem)
    unfold expandChars
    rw [if_neg hc, ih hrest]

/-- A text without a dollar sign stays as it is. -/
theorem expand_of_plain {text : String} (h : '$' ∉ text.toList) : expand lookup text = text := by
  rw [expand, expandChars_of_plain h, String.ofList_toList]

/-- Variables whose values all stay as they are stay as they are. -/
theorem Variables.mapValues_of_fixed {f : String → String} {vars : Variables}
    (h : ∀ x ∈ vars.entries, f x.2 = x.2) : vars.mapValues f = vars := by
  apply eq_of_entries
  refine (List.map_congr_left fun x hx => ?_).trans (List.map_id vars.entries)
  exact Prod.ext rfl (h x hx)

namespace Entry

/-- No text that is expanded has a dollar sign. -/
structure Plain (e : Entry) : Prop where
  command : '$' ∉ e.command.toList
  args : ∀ arg ∈ e.args, '$' ∉ arg.toList
  env : ∀ x ∈ e.env.entries, '$' ∉ x.2.toList
  cwd : ∀ path, e.cwd = some path → '$' ∉ path.toList

/-- An entry without dollar signs stays as it is. -/
theorem expand_of_plain {e : Entry} (h : e.Plain) : e.expand lookup = e := by
  have hcommand : Overseer.expand lookup e.command = e.command := Overseer.expand_of_plain h.command
  have hargs : e.args.map (Overseer.expand lookup) = e.args :=
    (List.map_congr_left fun arg harg => Overseer.expand_of_plain (h.args arg harg)).trans
      (List.map_id e.args)
  have henv : e.env.mapValues (Overseer.expand lookup) = e.env :=
    Variables.mapValues_of_fixed fun x hx => Overseer.expand_of_plain (h.env x hx)
  have hcwd : e.cwd.map (Overseer.expand lookup) = e.cwd := by
    cases hpath : e.cwd with
    | none => rfl
    | some path => exact congrArg some (Overseer.expand_of_plain (h.cwd path hpath))
  rw [Entry.expand, hcommand, hargs, henv, hcwd]

end Entry

end Overseer
