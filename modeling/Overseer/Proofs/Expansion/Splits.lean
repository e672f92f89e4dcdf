import Mathlib.Tactic.Common
import Overseer.Expansion

/-!
# What expansion puts in, and where

A text is split at its references to variables that are set.  The expansion puts the values in
their places, and leaves alone what stands between them.

* `Reference` -- a reference as it is written; `Reference.Refers` -- it is read as such, and its
  variable is set; `Reference.value?_eq_some_iff` -- so it is with what is read after a dollar sign;
* `Bare` -- no such reference begins in a literal text; `expandChars_reference` and
  `expandChars_literal` -- what the expansion does with the two;
* `Split` -- literal texts with references between them; `Split.Proper` -- the references are all
  there are; `Split.unique`, `exists_split` -- every text is split so in one way;
* `expand_split` -- in the expansion the values stand in place of these references.
-/

namespace Overseer

/-- An ASCII letter, an ASCII digit or an underscore. -/
def IsWord (c : Char) : Prop := c.isAlphanum = true ∨ c = '_'

instance : DecidablePred IsWord := fun c =>
  inferInstanceAs (Decidable (c.isAlphanum = true ∨ c = '_'))

/-- A reference to a variable. -/
inductive Reference where
  /-- The name alone, as in `$NAME`. -/
  | plain (name : List Char)
  /-- The name in braces, as in `${NAME}`. -/
  | braced (name : List Char)
  deriving DecidableEq, Repr

theorem isNameChar_iff {c : Char} : isNameChar c = true ↔ IsWord c := by
  have hlower : c.isLower = ('a' ≤ c && c ≤ 'z') := rfl
  have hupper : c.isUpper = ('A' ≤ c && c ≤ 'Z') := Bool.decide_and ('A' ≤ c) (c ≤ 'Z')
  have hdigit : c.isDigit = isDigit c := rfl
  unfold isNameChar IsWord Char.isAlphanum Char.isAlpha
  rw [hlower, hupper, hdigit, Bool.or_eq_true, beq_iff_eq, Bool.or_comm ('A' ≤ c && c ≤ 'Z')]

/-- A run of characters of a class that cannot be longer is what is taken, and what comes after it
is left. -/
theorem span_of_run {p : Char → Bool} {run after : List Char} (hrun : ∀ c ∈ run, p c = true)
    (hafter : ∀ c ∈ after.head?, ¬ p c = true) :
    (run ++ after).takeWhile p = run ∧ (run ++ after).dropWhile p = after := by
  rw [List.takeWhile_append_of_pos hrun, List.dropWhile_append_of_pos hrun]
  cases after with
  | nil => simp
  | cons c rest =>
    have hc : ¬ p c = true := hafter c rfl
    simp [hc]

namespace Reference

variable {lookup : String → Option String} {r r' : Reference} {after after' : List Char}
  {value : String}

/-- The variable that is referred to. -/
def name : Reference → List Char
  | plain name | braced name => name

/-- The reference as it is written. -/
def text : Reference → List Char
  | plain name => '$' :: name
  | braced name => '$' :: '\x7b' :: (name ++ ['\x7d'])

/-- Followed by `after`, the reference is read as it is written: the plain name is as long as it can
be, and the name in braces ends at the first closing brace. -/
def Ends : Reference → List Char → Prop
  | plain name, after => (∀ c ∈ name, IsWord c) ∧ ∀ c ∈ after.head?, ¬ IsWord c
  | braced name, _ => '\x7d' ∉ name

/-- Followed by `after`, the reference is to a variable that is set. -/
structure Refers (lookup : String → Option String) (r : Reference) (after : List Char)
    (value : String) : Prop where
  named : r.name ≠ []
  ends : r.Ends after
  set : lookup (String.ofList r.name) = some value

/-! ## Reading a reference -/

/-- What is written is read. -/
theorem read?_text (named : r.name ≠ []) (ends : r.Ends after) :
    ∃ rest, r.text ++ after = '$' :: rest ∧ read? rest = some (r.name, after) := by
  cases r with
  | plain name =>
    obtain ⟨first, more, rfl⟩ : ∃ c cs, name = c :: cs := List.exists_cons_of_ne_nil named
    have hrun : ∀ c ∈ first :: more, isNameChar c = true :=
      fun c hc => isNameChar_iff.mpr (ends.1 c hc)
    have hafter : ∀ c ∈ after.head?, ¬ isNameChar c = true :=
      fun c hc hname => ends.2 c hc (isNameChar_iff.mp hname)
    obtain ⟨htake, hdrop⟩ := span_of_run hrun hafter
    refine ⟨first :: more ++ after, rfl, ?_⟩
    unfold read?
    split
    · next rest heq =>
      -- An opening brace is no character of a name.
      obtain ⟨rfl, -⟩ := List.cons.inj heq
      exact absurd (hrun _ List.mem_cons_self) (by decide)
    · rw [htake, hdrop]
      rfl
  | braced name =>
    have hrun : ∀ c ∈ name, (c != '\x7d') = true := by
      intro c hc
      rw [bne_iff_ne]
      rintro rfl
      exact ends hc
    have hafter : ∀ c ∈ ('\x7d' :: after).head?, ¬ (c != '\x7d') = true := by simp
    obtain ⟨htake, hdrop⟩ := span_of_run hrun hafter
    refine ⟨'\x7b' :: (name ++ '\x7d' :: after), by simp [text], ?_⟩
    simp only [read?, hdrop, htake]
    rfl

/-- What is read is written. -/
theorem text_of_read? {rest name after : List Char} (h : read? rest = some (name, after)) :
    ∃ r : Reference, r.name = name ∧ '$' :: rest = r.text ++ after ∧ r.Ends after := by
  unfold read? at h
  split at h
  · next inner =>
    have hname : '\x7d' ∉ inner.takeWhile (· != '\x7d') := by
      intro hmem
      simpa using List.all_eq_true.mp List.all_takeWhile _ hmem
    split at h
    · cases h
    · next c after' hdrop =>
      cases h
      obtain rfl : c = '\x7d' := by
        have hhead := List.head?_dropWhile_not (· != '\x7d') inner
        rw [hdrop] at hhead
        simpa using hhead
      refine ⟨braced (inner.takeWhile (· != '\x7d')), rfl, ?_, hname⟩
      conv_lhs => rw [← List.takeWhile_append_dropWhile (p := (· != '\x7d')) (l := inner), hdrop]
      simp [text]
  · cases h
    refine ⟨plain (rest.takeWhile isNameChar), rfl, ?_, ?_, ?_⟩
    · simp [text, List.takeWhile_append_dropWhile]
    · intro c hc
      exact isNameChar_iff.mp (List.all_eq_true.mp List.all_takeWhile c hc)
    · intro c hc hword
      have hhead := List.head?_dropWhile_not isNameChar rest
      rw [Option.mem_def.mp hc] at hhead
      exact Bool.false_ne_true (hhead.symm.trans (isNameChar_iff.mpr hword))

/-- **What is read after a dollar sign** is the value of a reference to a variable that is set. -/
theorem value?_eq_some_iff {rest chars : List Char} :
    value? lookup rest = some (chars, after) ↔
      ∃ r value, chars = value.toList ∧ '$' :: rest = r.text ++ after ∧
        Refers lookup r after value := by
  constructor
  · intro h
    unfold value? at h
    split at h
    · next name after' hread =>
      split at h
      · cases h
      · next hnamed =>
        obtain ⟨value, hset, hpair⟩ := Option.map_eq_some_iff.mp h
        cases hpair
        obtain ⟨r, rfl, htext, hends⟩ := text_of_read? hread
        exact ⟨r, value, rfl, htext, hnamed, hends, hset⟩
    · cases h
  · rintro ⟨r, value, rfl, htext, hrefers⟩
    obtain ⟨rest', htext', hread⟩ := read?_text hrefers.named hrefers.ends
    obtain rfl : rest = rest' := List.tail_eq_of_cons_eq (htext.trans htext')
    unfold value?
    rw [hread]
    simp only [if_neg hrefers.named, hrefers.set, Option.map_some]

/-- Two references that begin the same text, each to a variable that is set, are the same. -/
theorem Refers.unique {value' : String} (h : r.Refers lookup after value)
    (h' : r'.Refers lookup after' value') (heq : r.text ++ after = r'.text ++ after') :
    r = r' ∧ after = after' := by
  obtain ⟨rest, htext, hread⟩ := read?_text h.named h.ends
  obtain ⟨rest', htext', hread'⟩ := read?_text h'.named h'.ends
  obtain rfl : rest = rest' := List.tail_eq_of_cons_eq (htext.symm.trans (heq.trans htext'))
  obtain ⟨hname, rfl⟩ := Prod.mk.inj (Option.some.inj (hread.symm.trans hread'))
  refine ⟨?_, rfl⟩
  have hlength : r.text.length = r'.text.length := congrArg List.length (List.append_cancel_right heq)
  simp only [name] at hname
  -- With braces the same name is written with two characters more.
  cases r <;> cases r' <;> simp only [text, List.length_cons, List.length_append] at hlength hname
  · rw [hname]
  · grind
  · grind
  · rw [hname]

end Reference

variable {lookup : String → Option String}

/-- A reference to a variable that is set begins the text. -/
def Begins (lookup : String → Option String) (text : List Char) : Prop :=
  ∃ (r : Reference) (after : List Char) (value : String),
    text = r.text ++ after ∧ r.Refers lookup after value

/-- Followed by `after`, the literal text has no dollar sign that begins a reference to a variable
that is set. -/
def Bare (lookup : String → Option String) (literal after : List Char) : Prop :=
  ∀ before rest, literal = before ++ '$' :: rest → ¬ Begins lookup ('$' :: rest ++ after)

theorem Begins.head {text : List Char} (h : Begins lookup text) : ∃ rest, text = '$' :: rest := by
  obtain ⟨r, after, value, rfl, -⟩ := h
  cases r <;> exact ⟨_, rfl⟩

theorem value?_eq_none_iff {rest : List Char} :
    Reference.value? lookup rest = none ↔ ¬ Begins lookup ('$' :: rest) := by
  constructor
  · rintro h ⟨r, after, value, htext, hrefers⟩
    have hsome := Reference.value?_eq_some_iff.mpr ⟨r, value, rfl, htext, hrefers⟩
    rw [h] at hsome
    cases hsome
  · intro h
    rw [Option.eq_none_iff_forall_ne_some]
    rintro ⟨chars, after⟩ hsome
    obtain ⟨r, value, -, htext, hrefers⟩ := Reference.value?_eq_some_iff.mp hsome
    exact h ⟨r, after, value, htext, hrefers⟩

namespace Bare

variable {c : Char} {literal after : List Char}

theorem nil : Bare lookup [] after := by
  intro before rest heq
  simp at heq

theorem cons_iff : Bare lookup (c :: literal) after ↔
    (c = '$' → ¬ Begins lookup ('$' :: literal ++ after)) ∧ Bare lookup literal after := by
  constructor
  · intro h
    refine ⟨?_, fun before rest heq => h (c :: before) rest (congrArg (c :: ·) heq)⟩
    rintro rfl
    exact h [] literal rfl
  · rintro ⟨hhead, htail⟩ before rest heq
    cases before with
    | nil =>
      obtain ⟨rfl, rfl⟩ := List.cons.inj heq
      exact hhead rfl
    | cons d before => exact htail before rest (List.cons.inj heq).2

end Bare

/-! ## What the expansion does -/

section Expansion

variable {c : Char} {rest chars after literal : List Char}

@[simp] theorem expandChars_nil : expandChars lookup [] = [] := by
  unfold expandChars
  rfl

theorem expandChars_of_value? (h : Reference.value? lookup rest = some (chars, after)) :
    expandChars lookup ('$' :: rest) = chars ++ expandChars lookup after := by
  rw [expandChars, if_pos rfl]
  split
  · next found =>
    obtain ⟨rfl, rfl⟩ := Prod.mk.inj (Option.some.inj (found.symm.trans h))
    rfl
  · next found => cases found.symm.trans h

/-- A character that begins no reference stays. -/
theorem expandChars_cons (h : c = '$' → Reference.value? lookup rest = none) :
    expandChars lookup (c :: rest) = c :: expandChars lookup rest := by
  rw [expandChars]
  split
  · next hc =>
    split
    · next found => cases found.symm.trans (h hc)
    · rfl
  · rfl

/-- The value of a variable that is set stands in place of the reference. -/
theorem expandChars_reference {r : Reference} {value : String} (h : r.Refers lookup after value) :
    expandChars lookup (r.text ++ after) = value.toList ++ expandChars lookup after := by
  obtain ⟨rest, htext, -⟩ := Reference.read?_text h.named h.ends
  rw [htext]
  exact expandChars_of_value? (Reference.value?_eq_some_iff.mpr ⟨r, value, rfl, htext.symm, h⟩)

/-- A text in which no reference begins stays. -/
theorem expandChars_literal (h : Bare lookup literal after) :
    expandChars lookup (literal ++ after) = literal ++ expandChars lookup after := by
  induction literal with
  | nil => rfl
  | cons c literal ih =>
    obtain ⟨hhead, htail⟩ := Bare.cons_iff.mp h
    have hnone : c = '$' → Reference.value? lookup (literal ++ after) = none :=
      fun hc => value?_eq_none_iff.mpr (hhead hc)
    rw [List.cons_append, expandChars_cons hnone, ih htail, List.cons_append]

end Expansion

/-! ## Splitting a text -/

/-- Literal texts, with references between them. -/
inductive Split where
  | last (literal : List Char)
  | next (literal : List Char) (reference : Reference) (rest : Split)
  deriving Repr

namespace Split

/-- The text that is split. -/
def text : Split → List Char
  | last literal => literal
  | next literal r rest => literal ++ (r.text ++ rest.text)

/-- The literal texts, with the values of the variables between them. -/
def filled (lookup : String → Option String) : Split → List Char
  | last literal => literal
  | next literal r rest =>
    literal ++ (((lookup (String.ofList r.name)).getD "").toList ++ rest.filled lookup)

/-- Every reference is to a variable that is set, and there are no others: none begins in a literal
text, read with all that follows it. -/
def Proper (lookup : String → Option String) : Split → Prop
  | last literal => Bare lookup literal []
  | next literal r rest =>
    Bare lookup literal (r.text ++ rest.text) ∧ (∃ value, r.Refers lookup rest.text value) ∧
      rest.Proper lookup

/-- A character before the first literal text. -/
def cons (c : Char) : Split → Split
  | last literal => last (c :: literal)
  | next literal r rest => next (c :: literal) r rest

variable {c : Char} {split split' : Split}

@[simp] theorem text_cons : (split.cons c).text = c :: split.text := by
  cases split <;> rfl

theorem proper_cons (hc : c = '$' → ¬ Begins lookup ('$' :: split.text))
    (h : split.Proper lookup) : (split.cons c).Proper lookup := by
  cases split with
  | last literal => exact Bare.cons_iff.mpr ⟨by simpa [text] using hc, h⟩
  | next literal r rest => exact ⟨Bare.cons_iff.mpr ⟨hc, h.1⟩, h.2⟩

/-- A literal text that is followed by a reference, or by nothing, is no shorter than another
literal text that begins the same way. -/
theorem no_longer {literal more after : List Char} (h : Bare lookup (literal ++ more) after)
    (hnext : more ++ after = [] ∨ Begins lookup (more ++ after)) : more = [] := by
  cases more with
  | nil => rfl
  | cons c more =>
    obtain hnil | hbegins := hnext
    · cases hnil
    · obtain ⟨rest, heq⟩ := hbegins.head
      obtain ⟨rfl, -⟩ := List.cons.inj heq
      exact absurd hbegins (h literal more rfl)

theorem literal_unique {literal literal' after after' : List Char} (h : Bare lookup literal after)
    (h' : Bare lookup literal' after') (hnext : after = [] ∨ Begins lookup after)
    (hnext' : after' = [] ∨ Begins lookup after')
    (heq : literal ++ after = literal' ++ after') : literal = literal' ∧ after = after' := by
  obtain ⟨more, rfl, rfl⟩ | ⟨more, rfl, rfl⟩ := List.append_eq_append_iff.mp heq
  · obtain rfl := no_longer h' hnext
    simp
  · obtain rfl := no_longer h hnext'
    simp

/-- **A text is split in one way only.** -/
theorem unique (h : split.Proper lookup) (h' : split'.Proper lookup)
    (heq : split.text = split'.text) : split = split' := by
  induction split generalizing split' with
  | last literal =>
    cases split' with
    | last literal' => exact congrArg last heq
    | next literal' r' rest' =>
      obtain ⟨hbare', ⟨value', hrefers'⟩, -⟩ := h'
      obtain ⟨-, hnil⟩ := literal_unique h hbare' (.inl rfl)
        (.inr ⟨r', rest'.text, value', rfl, hrefers'⟩) ((List.append_nil _).trans heq)
      cases r' <;> cases hnil
  | next literal r rest ih =>
    obtain ⟨hbare, ⟨value, hrefers⟩, hrest⟩ := h
    have hnext : Begins lookup (r.text ++ rest.text) := ⟨r, rest.text, value, rfl, hrefers⟩
    cases split' with
    | last literal' =>
      obtain ⟨-, hnil⟩ := literal_unique hbare h' (.inr hnext) (.inl rfl)
        (heq.trans (List.append_nil _).symm)
      cases r <;> cases hnil
    | next literal' r' rest' =>
      obtain ⟨hbare', ⟨value', hrefers'⟩, hrest'⟩ := h'
      obtain ⟨rfl, hafter⟩ := literal_unique hbare hbare' (.inr hnext)
        (.inr ⟨r', rest'.text, value', rfl, hrefers'⟩) heq
      obtain ⟨rfl, htext⟩ := hrefers.unique hrefers' hafter
      rw [ih hrest hrest' htext]

/-- A text that is split stays, but for its references. -/
theorem expandChars_text (h : split.Proper lookup) :
    expandChars lookup split.text = split.filled lookup := by
  induction split with
  | last literal =>
    have hliteral := expandChars_literal h
    rwa [List.append_nil, expandChars_nil, List.append_nil] at hliteral
  | next literal r rest ih =>
    obtain ⟨hbare, ⟨value, hrefers⟩, hrest⟩ := h
    rw [text, filled, expandChars_literal hbare, expandChars_reference hrefers, ih hrest,
      hrefers.set, Option.getD_some]

end Split

variable (lookup) in
/-- Every text is split. -/
theorem exists_split (text : List Char) :
    ∃ split : Split, split.text = text ∧ split.Proper lookup := by
  induction text using expandChars.induct lookup with
  | case1 => exact ⟨.last [], rfl, Bare.nil⟩
  | case2 rest chars after found ih =>
    obtain ⟨split, rfl, hproper⟩ := ih
    obtain ⟨r, value, -, htext, hrefers⟩ := Reference.value?_eq_some_iff.mp found
    exact ⟨.next [] r split, htext.symm, Bare.nil, ⟨value, hrefers⟩, hproper⟩
  | case3 rest found ih =>
    obtain ⟨split, rfl, hproper⟩ := ih
    exact ⟨split.cons '$', Split.text_cons, Split.proper_cons
      (fun _ => value?_eq_none_iff.mp found) hproper⟩
  | case4 c rest hc ih =>
    obtain ⟨split, rfl, hproper⟩ := ih
    exact ⟨split.cons c, Split.text_cons, Split.proper_cons (fun heq => absurd heq hc) hproper⟩

/-- **Expansion puts in values, and nothing else.**  A text is split in one way at the references
to variables that are set, and in its expansion the values stand in their places. -/
theorem expand_split (lookup : String → Option String) (input : String) :
    ∃ split : Split, split.text = input.toList ∧ split.Proper lookup ∧
      expand lookup input = String.ofList (split.filled lookup) ∧
      ∀ other : Split, other.text = input.toList → other.Proper lookup → other = split := by
  obtain ⟨split, htext, hproper⟩ := exists_split lookup input.toList
  refine ⟨split, htext, hproper, ?_, fun other hother hproper' => ?_⟩
  · rw [expand, ← htext, Split.expandChars_text hproper]
  · exact Split.unique hproper' hproper (hother.trans htext.symm)

end Overseer
