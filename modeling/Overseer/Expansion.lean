import Overseer.Entry.Basic
import Overseer.Reader

/-!
# Expansion of variable references

A text may refer to variables of the environment, as `$NAME` or as `${NAME}`.  The plain name
is as long as it can be; the one in braces ends at the first closing brace.  A reference to a
variable that is not set, and a dollar sign that begins no reference, stay as they are, and what is
put in for a reference is not expanded again.

* `Reference.read?` -- the name of a reference and what follows it;
* `expand` -- puts in the values of all variables that are set;
* `Entry.expand` -- expands the command, the arguments, the values of variables and the directory.
-/

namespace Overseer

/-- A character of a plain name. -/
def isNameChar (c : Char) : Bool :=
  ('a' ≤ c && c ≤ 'z') || ('A' ≤ c && c ≤ 'Z') || isDigit c || c == '_'

namespace Reference

/-- The name of the reference that begins after a dollar sign, and what follows the reference. -/
def read? : List Char → Option (List Char × List Char)
  | '\x7b' :: rest =>
    match rest.dropWhile (· != '\x7d') with
    | [] => none
    | _ :: after => some (rest.takeWhile (· != '\x7d'), after)
  | rest => some (rest.takeWhile isNameChar, rest.dropWhile isNameChar)

/-- The value of the reference that begins after a dollar sign, and what follows the reference. -/
def value? (lookup : String → Option String) (text : List Char) :
    Option (List Char × List Char) :=
  match read? text with
  | some (name, after) =>
    if name = [] then none
    else (lookup (String.ofList name)).map fun value => (value.toList, after)
  | none => none

/-- What follows a reference is no longer than the text. -/
theorem length_le_of_read? {text name after : List Char} (h : read? text = some (name, after)) :
    after.length ≤ text.length := by
  unfold read? at h
  split at h
  · rename_i rest
    have hle := (List.dropWhile_suffix (l := rest) (· != '\x7d')).length_le
    split at h
    · cases h
    · rename_i c after' heq
      cases h
      rw [heq] at hle
      simp only [List.length_cons] at hle ⊢
      omega
  · cases h
    exact (List.dropWhile_suffix _).length_le

/-- What follows a reference is no longer than the text. -/
theorem length_le_of_value? {lookup : String → Option String} {text value after : List Char}
    (h : value? lookup text = some (value, after)) : after.length ≤ text.length := by
  unfold value? at h
  split at h
  · rename_i name after' heq
    split at h
    · cases h
    · obtain ⟨v, -, hv⟩ := Option.map_eq_some_iff.mp h
      cases hv
      exact length_le_of_read? heq
  · cases h

end Reference

/-- Puts in the values of all variables that are set. -/
def expandChars (lookup : String → Option String) : List Char → List Char
  | [] => []
  | c :: rest =>
    if c = '$' then
      match _found : Reference.value? lookup rest with
      | some (value, after) => value ++ expandChars lookup after
      | none => c :: expandChars lookup rest
    else c :: expandChars lookup rest
termination_by text => text.length
decreasing_by
  · exact Nat.lt_succ_of_le (Reference.length_le_of_value? ‹_›)
  · exact Nat.lt_succ_self _
  · exact Nat.lt_succ_self _

/-- Puts in the values of all variables that are set. -/
def expand (lookup : String → Option String) (text : String) : String :=
  String.ofList (expandChars lookup text.toList)

/-- Expands the command, the arguments, the values of variables and the directory. -/
def Entry.expand (lookup : String → Option String) (e : Entry) : Entry :=
  { e with
    command := Overseer.expand lookup e.command
    args := e.args.map (Overseer.expand lookup)
    env := e.env.mapValues (Overseer.expand lookup)
    cwd := e.cwd.map (Overseer.expand lookup) }

end Overseer
