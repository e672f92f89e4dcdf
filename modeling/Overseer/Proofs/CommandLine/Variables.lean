import Mathlib.Data.List.TakeWhile
import Overseer.CommandLine.Launch
import Overseer.Proofs.Keyed
import Overseer.Proofs.Traversal

/-!
# Variables as texts

A variable is given as one text: its name, an equals sign and its value.  The name ends at the first
equals sign, so that there may be others in the value.

* `joined` -- a variable as one text; `parseVariable_eq_ok_iff` -- which texts are variables;
* `parseVariables_eq_ok_iff` -- which texts are read as variables;
  `parseVariables_joined` -- the texts may come in any order;
* `parseVariables_of_firstFailing` -- the first text without an equals sign is refused;
* `LastGiven` -- the last text that begins with a name gives the value;
  `get?_eq_some_iff_lastGiven`.
-/

namespace Overseer

variable {text : String} {texts : List String} {x y : String × String} {vars : Variables}

/-! ## One text -/

/-- A text is divided at its first equals sign. -/
theorem splitAtEquals_append {name value : List Char} (h : '=' ∉ name) :
    splitAtEquals (name ++ '=' :: value) = (name, some value) := by
  have hname : ∀ c ∈ name, (c != '=') = true := fun c hc =>
    bne_iff_ne.mpr fun heq => h (heq ▸ hc)
  rw [splitAtEquals, List.takeWhile_append_of_pos hname, List.dropWhile_append_of_pos hname]
  simp

theorem splitAtEquals_eq_none {text : List Char} (h : '=' ∉ text) :
    (splitAtEquals text).2 = none := by
  have hnone : text.dropWhile (· != '=') = [] :=
    List.dropWhile_eq_nil_iff.mpr fun c hc => bne_iff_ne.mpr fun heq => h (heq ▸ hc)
  rw [splitAtEquals, hnone]

/-- A variable as one text. -/
def joined (x : String × String) : String := x.1 ++ "=" ++ x.2

theorem toList_joined (x : String × String) :
    (joined x).toList = x.1.toList ++ '=' :: x.2.toList := by
  rw [joined, String.toList_append, String.toList_append, List.append_assoc]
  rfl

theorem parseVariable_joined (h : '=' ∉ x.1.toList) : parseVariable (joined x) = .ok x := by
  rw [parseVariable, toList_joined, splitAtEquals_append h]
  exact congrArg Except.ok (Prod.ext String.ofList_toList String.ofList_toList)

/-- A text without an equals sign is refused. -/
theorem parseVariable_of_notMem (h : '=' ∉ text.toList) :
    parseVariable text =
      .error (.config s!"Invalid environment variable format: '{text}'. Expected KEY=VALUE") := by
  have hnone := splitAtEquals_eq_none h
  unfold parseVariable
  split
  · next hsome => rw [hsome] at hnone; cases hnone
  · rfl

/-- A text with an equals sign is a variable whose name has none. -/
theorem exists_eq_joined (h : '=' ∈ text.toList) : ∃ x, '=' ∉ x.1.toList ∧ text = joined x := by
  obtain ⟨name, value, htext, hname⟩ := List.eq_append_cons_of_mem h
  refine ⟨(String.ofList name, String.ofList value), ?_, String.toList_inj.mp ?_⟩
  · rwa [String.toList_ofList]
  · rw [toList_joined, String.toList_ofList, String.toList_ofList, htext]

/-- **A text is read as a variable** exactly when it is one whose name has no equals sign. -/
theorem parseVariable_eq_ok_iff :
    parseVariable text = .ok x ↔ '=' ∉ x.1.toList ∧ text = joined x := by
  constructor
  · intro h
    by_cases hmem : '=' ∈ text.toList
    · obtain ⟨y, hname, rfl⟩ := exists_eq_joined hmem
      obtain rfl := Except.ok.inj ((parseVariable_joined hname).symm.trans h)
      exact ⟨hname, rfl⟩
    · rw [parseVariable_of_notMem hmem] at h
      cases h
  · rintro ⟨hname, rfl⟩
    exact parseVariable_joined hname

theorem exists_parseVariable_iff : (∃ x, parseVariable text = .ok x) ↔ '=' ∈ text.toList := by
  constructor
  · rintro ⟨x, h⟩
    rw [(parseVariable_eq_ok_iff.mp h).2, toList_joined]
    exact List.mem_append_right _ List.mem_cons_self
  · intro h
    obtain ⟨x, hx⟩ := exists_eq_joined h
    exact ⟨x, parseVariable_eq_ok_iff.mpr hx⟩

theorem joined_inj (hx : '=' ∉ x.1.toList) (hy : '=' ∉ y.1.toList) (h : joined x = joined y) :
    x = y := by
  have hread := parseVariable_joined hx
  rw [h, parseVariable_joined hy] at hread
  exact (Except.ok.inj hread).symm

/-! ## One text after the other -/

/-- **Texts are read as variables** exactly when each of them is one. -/
theorem parseVariables_eq_ok_iff :
    parseVariables texts = .ok vars ↔
      ∃ pairs, texts = pairs.map joined ∧ (∀ x ∈ pairs, '=' ∉ x.1.toList) ∧
        Variables.ofPairs pairs = vars := by
  have hpairs : ∀ pairs, texts.mapM parseVariable = .ok pairs ↔
      texts = pairs.map joined ∧ ∀ x ∈ pairs, '=' ∉ x.1.toList := by
    intro pairs
    rw [mapM_eq_ok_iff]
    constructor
    · intro h
      induction h with
      | nil => exact ⟨rfl, nofun⟩
      | cons hread _ ih =>
        obtain ⟨hname, htext⟩ := parseVariable_eq_ok_iff.mp hread
        exact ⟨List.cons_eq_cons.mpr ⟨htext, ih.1⟩, List.forall_mem_cons.mpr ⟨hname, ih.2⟩⟩
    · rintro ⟨rfl, hnames⟩
      rw [List.forall₂_map_left_iff, List.forall₂_same]
      exact fun x hx => parseVariable_joined (hnames x hx)
  simp only [← and_assoc, ← hpairs]
  rw [parseVariables]
  cases texts.mapM parseVariable with
  | error e => exact iff_of_false nofun nofun
  | ok pairs => simp [Except.map]

/-- Variables are read from their texts, in whichever order they are given. -/
theorem parseVariables_joined {given : List (String × String)}
    (hgiven : given.Perm vars.entries) (hnames : ∀ x ∈ vars.entries, '=' ∉ x.1.toList) :
    parseVariables (given.map joined) = .ok vars :=
  parseVariables_eq_ok_iff.mpr ⟨given, rfl, fun x hx => hnames x (hgiven.mem_iff.mp hx),
    Variables.ofPairs_of_perm hgiven⟩

theorem exists_parseVariables_iff :
    (∃ vars, parseVariables texts = .ok vars) ↔ ∀ text ∈ texts, '=' ∈ text.toList := by
  simp only [← exists_parseVariable_iff, ← exists_mapM_eq_ok_iff]
  rw [parseVariables]
  cases texts.mapM parseVariable with
  | error e => exact iff_of_false nofun nofun
  | ok pairs => exact iff_of_true ⟨_, rfl⟩ ⟨_, rfl⟩

/-- **The first text without an equals sign is refused.** -/
theorem parseVariables_of_firstFailing
    (h : FirstFailing (fun text => '=' ∈ text.toList) texts text) :
    parseVariables texts =
      .error (.config s!"Invalid environment variable format: '{text}'. Expected KEY=VALUE") := by
  have hfirst := h.congr fun text => exists_parseVariable_iff.symm
  rw [parseVariables, mapM_of_firstFailing hfirst (parseVariable_of_notMem h.mem_and_not.2)]
  rfl

/-- The last text that begins with a name and an equals sign gives a value. -/
def LastGiven (texts : List String) (name value : String) : Prop :=
  '=' ∉ name.toList ∧
    ∃ before after, texts = before ++ joined (name, value) :: after ∧
      ∀ text ∈ after, ¬ (name.toList ++ ['=']) <+: text.toList

theorem prefix_joined_iff {name : String} (hname : '=' ∉ name.toList) (hx : '=' ∉ x.1.toList) :
    name.toList ++ ['='] <+: (joined x).toList ↔ x.1 = name := by
  constructor
  · rintro ⟨value, h⟩
    have heq : joined (name, String.ofList value) = joined x := by
      apply String.toList_inj.mp
      rw [toList_joined, String.toList_ofList, ← h, List.append_assoc]
      rfl
    exact congrArg Prod.fst (joined_inj hname hx heq).symm
  · rintro rfl
    exact ⟨x.2.toList, by rw [toList_joined, List.append_assoc]; rfl⟩

/-- **The last text for a name gives its value.** -/
theorem get?_eq_some_iff_lastGiven {name value : String} (h : parseVariables texts = .ok vars) :
    vars.get? name = some value ↔ LastGiven texts name value := by
  obtain ⟨pairs, rfl, hnames, rfl⟩ := parseVariables_eq_ok_iff.mp h
  rw [Variables.get?_ofPairs_eq_some_iff]
  constructor
  · rintro ⟨before, after, rfl, hlast⟩
    obtain ⟨hname, hafter⟩ := List.forall_mem_cons.mp (List.forall_mem_append.mp hnames).2
    refine ⟨hname, before.map joined, after.map joined, by simp, ?_⟩
    refine List.forall_mem_map.mpr fun x hx hprefix => ?_
    exact hlast x hx ((prefix_joined_iff hname (hafter x hx)).mp hprefix)
  · rintro ⟨hname, before, after, htexts, hlast⟩
    obtain ⟨before, rest, rfl, rfl, hrest⟩ := List.map_eq_append_iff.mp htexts
    obtain ⟨x, after, rfl, hx, rfl⟩ := List.map_eq_cons_iff.mp hrest
    obtain ⟨hx', hafter⟩ := List.forall_mem_cons.mp (List.forall_mem_append.mp hnames).2
    obtain rfl := joined_inj hx' hname hx
    refine ⟨before, after, rfl, fun y hy heq => ?_⟩
    exact hlast _ (List.mem_map_of_mem hy) ((prefix_joined_iff hname (hafter y hy)).mpr heq)

end Overseer
