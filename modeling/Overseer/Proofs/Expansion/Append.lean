import Overseer.Proofs.Expansion.Splits

/-!
# Expansion piece by piece

Two texts may be expanded one by one where no reference can stand across the cut.  A name in braces
stands across it only if the brace is not closed before it, and a plain name, or a dollar sign
before its brace, only if the second text goes on with a character of a name or with the brace.

* `Closed` -- every brace after a dollar sign is closed; `Apart` -- the text does not go on with
  what stands before it;
* `Reference.Refers.append`, `Begins.of_append` -- the same references are read before the cut,
  with and without what comes after it;
* `expand_append` -- the expansion of the whole is the two expansions, one after the other.
-/

namespace Overseer

variable {lookup : String → Option String} {a b : List Char}

/-- Every opening brace after a dollar sign is followed by a closing one. -/
def Closed (text : List Char) : Prop :=
  ∀ before rest, text = before ++ '$' :: '\x7b' :: rest → '\x7d' ∈ rest

/-- The text does not go on with a name, or with the brace of one. -/
def Apart (text : List Char) : Prop := ∀ c ∈ text.head?, ¬ IsWord c ∧ c ≠ '\x7b'

instance : DecidablePred Apart
  | [] => isTrue (by simp [Apart])
  | c :: _ => decidable_of_iff (¬ IsWord c ∧ c ≠ '\x7b') (by simp [Apart])

namespace Closed

variable {c : Char} {text : List Char}

theorem nil : Closed [] := by
  intro before rest heq
  simp at heq

theorem cons_iff : Closed (c :: text) ↔
    (c = '$' → text.head? = some '\x7b' → '\x7d' ∈ text.tail) ∧ Closed text := by
  constructor
  · intro h
    refine ⟨?_, fun before rest heq => h (c :: before) rest (congrArg (c :: ·) heq)⟩
    rintro rfl hhead
    obtain ⟨rest, rfl⟩ := List.head?_eq_some_iff.mp hhead
    exact h [] rest rfl
  · rintro ⟨hhead, htail⟩ before rest heq
    cases before with
    | nil =>
      obtain ⟨rfl, rfl⟩ := List.cons.inj heq
      exact hhead rfl rfl
    | cons d before => exact htail before rest (List.cons.inj heq).2

theorem of_append {before : List Char} (h : Closed (before ++ text)) : Closed text := by
  intro more rest heq
  exact h (before ++ more) rest (by rw [heq, List.append_assoc])

instance decidable : DecidablePred Closed
  | [] => isTrue nil
  | _ :: text =>
    haveI := decidable text
    decidable_of_iff' _ cons_iff

end Closed

namespace Reference

variable {r : Reference} {after : List Char} {value : String}

/-- What is read stays so, whatever comes later. -/
theorem Refers.append (h : r.Refers lookup after value) (apart : Apart b) :
    r.Refers lookup (after ++ b) value := by
  refine ⟨h.named, ?_, h.set⟩
  cases r with
  | plain name =>
    refine ⟨h.ends.1, fun c hc => ?_⟩
    cases after with
    | nil => exact (apart c hc).1
    | cons d after => exact h.ends.2 c hc
  | braced name => exact h.ends

/-- What is read before the cut is so without what comes after it. -/
theorem Refers.of_append (h : r.Refers lookup (after ++ b) value) : r.Refers lookup after value := by
  refine ⟨h.named, ?_, h.set⟩
  cases r with
  | plain name =>
    refine ⟨h.ends.1, fun c hc => h.ends.2 c ?_⟩
    cases after with
    | nil => cases hc
    | cons d after => exact hc
  | braced name => exact h.ends

/-- No reference stands across the cut. -/
theorem Refers.before_cut {more : List Char} (h : r.Refers lookup after value)
    (htext : r.text = a ++ more) (ha : a ≠ []) (closed : Closed a) (apart : Apart (more ++ after)) :
    more = [] := by
  cases more with
  | nil => rfl
  | cons c more =>
    exfalso
    obtain ⟨hword, hbrace⟩ := apart c rfl
    obtain ⟨first, rest, rfl⟩ := List.exists_cons_of_ne_nil ha
    cases r with
    | plain name =>
      obtain ⟨rfl, hname⟩ : '$' = first ∧ name = rest ++ c :: more := List.cons.inj htext
      exact hword (h.ends.1 c (by simp [hname]))
    | braced name =>
      obtain ⟨rfl, hrest⟩ : '$' = first ∧ '\x7b' :: (name ++ ['\x7d']) = rest ++ c :: more :=
        List.cons.inj htext
      cases rest with
      | nil => exact hbrace (List.cons.inj hrest).1.symm
      | cons d rest =>
        obtain ⟨rfl, hname⟩ : '\x7b' = d ∧ name ++ ['\x7d'] = rest ++ c :: more :=
          List.cons.inj hrest
        -- The first closing brace ends the name, and it stands before the cut.
        have hclosing : '\x7d' ∈ rest := closed [] rest rfl
        have hbegins : rest <+: name := by
          apply List.prefix_of_prefix_length_le ⟨c :: more, hname.symm⟩ ⟨['\x7d'], rfl⟩
          have hlength := congrArg List.length hname
          simp only [List.length_append, List.length_cons, List.length_nil] at hlength
          omega
        exact h.ends (hbegins.subset hclosing)

end Reference

/-- A reference that begins before the cut is read without what comes after it. -/
theorem Begins.of_append (h : Begins lookup (a ++ b)) (ha : a ≠ []) (closed : Closed a)
    (apart : Apart b) : Begins lookup a := by
  obtain ⟨r, after, value, htext, hrefers⟩ := h
  obtain ⟨more, hlonger, rfl⟩ | ⟨more, rfl, rfl⟩ := List.append_eq_append_iff.mp htext
  · obtain rfl := hrefers.before_cut hlonger ha closed apart
    exact ⟨r, [], value, by simp [hlonger], Reference.Refers.of_append hrefers⟩
  · exact ⟨r, more, value, rfl, hrefers.of_append⟩

theorem expandChars_append (closed : Closed a) (apart : Apart b) :
    expandChars lookup (a ++ b) = expandChars lookup a ++ expandChars lookup b := by
  induction a using expandChars.induct lookup with
  | case1 => rw [List.nil_append, expandChars_nil, List.nil_append]
  | case2 rest chars after found ih =>
    obtain ⟨r, value, -, htext, hrefers⟩ := Reference.value?_eq_some_iff.mp found
    rw [htext] at closed
    rw [htext, List.append_assoc, expandChars_reference (hrefers.append apart),
      expandChars_reference hrefers, ih closed.of_append, List.append_assoc]
  | case3 rest found ih =>
    have hnone : Reference.value? lookup (rest ++ b) = none := by
      refine value?_eq_none_iff.mpr fun hbegins => value?_eq_none_iff.mp found ?_
      exact hbegins.of_append (List.cons_ne_nil '$' rest) closed apart
    rw [List.cons_append, expandChars_cons fun _ => hnone, expandChars_cons fun _ => found,
      ih (Closed.cons_iff.mp closed).2, List.cons_append]
  | case4 c rest hc ih =>
    rw [List.cons_append, expandChars_cons fun heq => absurd heq hc,
      expandChars_cons fun heq => absurd heq hc, ih (Closed.cons_iff.mp closed).2, List.cons_append]

/-- **Two texts are expanded one by one** where no reference can stand across the cut. -/
theorem expand_append {a b : String} (closed : Closed a.toList) (apart : Apart b.toList) :
    expand lookup (a ++ b) = expand lookup a ++ expand lookup b := by
  simp only [expand, String.toList_append, expandChars_append closed apart, String.ofList_append]

/-- A name in braces that is read before the cut, a dollar sign right before it, and a closing brace
and a plain name after it. -/
theorem expand_append_at_dollar :
    Closed "$\x7bHOME\x7d$".toList ∧ Apart "\x7dx$USER".toList ∧
      expand (fun name => some (name ++ "$HOME")) ("$\x7bHOME\x7d$" ++ "\x7dx$USER") =
        expand (fun name => some (name ++ "$HOME")) "$\x7bHOME\x7d$" ++
          expand (fun name => some (name ++ "$HOME")) "\x7dx$USER" :=
  ⟨by decide, by decide, expand_append (by decide) (by decide)⟩

end Overseer
