import Mathlib.Data.List.Forall2

/-!
# One step after the other

What a computation that may fail yields when it is made for every item of a list in turn.

* `bind_eq_ok` -- two steps, one after the other;
* `mapM_eq_ok_iff` -- all steps succeed, each with its own result; `exists_mapM_eq_ok_iff`;
* `mapM_mapM_eq_ok_iff` -- two rounds succeed;
* `FirstFailing`, `mapM_of_firstFailing` -- the first step that fails tells the failure;
* `forM_map_eq_mapM` -- checking changed items, and keeping them;
* `Alike` -- the same outcome, or two failures that are akin; `Alike.bind`, `Alike.mapM` -- steps
  with like outcomes make like outcomes.
-/

namespace Overseer

variable {α β γ ε : Type}

/-- What two steps one after the other yield. -/
theorem bind_eq_ok {x : Except ε α} {f : α → Except ε β} {b : β} :
    (x >>= f) = .ok b ↔ ∃ a, x = .ok a ∧ f a = .ok b := by
  cases x with
  | error e => simp [bind, Except.bind]
  | ok a => simp [bind, Except.bind]

/-- A sequence is read item by item. -/
theorem mapM_map_ok {read : α → Except ε β} {write : β → α}
    (h : ∀ b, read (write b) = .ok b) (items : List β) :
    (items.map write).mapM read = .ok items := by
  induction items with
  | nil => rfl
  | cons b rest ih =>
    rw [List.map_cons, List.mapM_cons, h, ih]
    rfl

/-- All steps succeed exactly when each of them does, and their results come in order. -/
theorem mapM_eq_ok_iff {step : α → Except ε β} {items : List α} {results : List β} :
    items.mapM step = .ok results ↔ List.Forall₂ (fun a b => step a = .ok b) items results := by
  induction items generalizing results with
  | nil =>
    rw [List.mapM_nil, List.forall₂_nil_left_iff]
    exact ⟨fun h => (Except.ok.inj h).symm, fun h => h ▸ rfl⟩
  | cons a rest ih =>
    rw [List.mapM_cons, bind_eq_ok, List.forall₂_cons_left_iff]
    constructor
    · rintro ⟨b, hb, h⟩
      obtain ⟨bs, hbs, h⟩ := bind_eq_ok.mp h
      exact ⟨b, bs, hb, ih.mp hbs, (Except.ok.inj h).symm⟩
    · rintro ⟨b, bs, hb, hbs, rfl⟩
      exact ⟨b, hb, bind_eq_ok.mpr ⟨bs, ih.mpr hbs, rfl⟩⟩

/-- Two rounds succeed exactly when both steps succeed for each item. -/
theorem mapM_mapM_eq_ok_iff {first : α → Except ε β} {second : β → Except ε γ} {items : List α}
    {results : List γ} :
    (items.mapM first >>= fun between => between.mapM second) = .ok results ↔
      List.Forall₂ (fun a c => ∃ b, first a = .ok b ∧ second b = .ok c) items results := by
  simp only [bind_eq_ok, mapM_eq_ok_iff]
  induction items generalizing results with
  | nil =>
    constructor
    · rintro ⟨between, hfirst, hsecond⟩
      cases hfirst
      cases hsecond
      exact .nil
    · intro h
      cases h
      exact ⟨[], .nil, .nil⟩
  | cons a rest ih =>
    constructor
    · rintro ⟨between, hfirst, hsecond⟩
      cases hfirst with
      | cons ha hrest =>
        cases hsecond with
        | cons hb hrest' => exact .cons ⟨_, ha, hb⟩ (ih.mp ⟨_, hrest, hrest'⟩)
    · intro h
      cases h with
      | cons hac hrest =>
        obtain ⟨b, ha, hb⟩ := hac
        obtain ⟨bs, hfirst, hsecond⟩ := ih.mpr hrest
        exact ⟨b :: bs, .cons ha hfirst, .cons hb hsecond⟩

/-- All steps succeed exactly when each of them does. -/
theorem exists_mapM_eq_ok_iff {step : α → Except ε β} {items : List α} :
    (∃ results, items.mapM step = .ok results) ↔ ∀ a ∈ items, ∃ b, step a = .ok b := by
  constructor
  · rintro ⟨results, h⟩
    induction mapM_eq_ok_iff.mp h with
    | nil => exact nofun
    | cons hab hrest ih =>
      exact List.forall_mem_cons.mpr ⟨⟨_, hab⟩, ih (mapM_eq_ok_iff.mpr hrest)⟩
  · intro h
    induction items with
    | nil => exact ⟨[], rfl⟩
    | cons a rest ih =>
      obtain ⟨⟨b, hb⟩, hrest⟩ := List.forall_mem_cons.mp h
      obtain ⟨bs, hbs⟩ := ih hrest
      refine ⟨b :: bs, ?_⟩
      rw [List.mapM_cons, hb, hbs]
      rfl

/-- The first of the items that is not good. -/
def FirstFailing (good : α → Prop) (items : List α) (a : α) : Prop :=
  ∃ before after, items = before ++ a :: after ∧ (∀ b ∈ before, good b) ∧ ¬ good a

/-- Either all items are good, or there is a first one that is not. -/
theorem forall_or_firstFailing (good : α → Prop) (items : List α) :
    (∀ a ∈ items, good a) ∨ ∃ a, FirstFailing good items a := by
  induction items with
  | nil => exact .inl nofun
  | cons a rest ih =>
    by_cases ha : good a
    · rcases ih with hrest | ⟨b, before, after, rfl, hbefore, hb⟩
      · exact .inl (List.forall_mem_cons.mpr ⟨ha, hrest⟩)
      · exact .inr ⟨b, a :: before, after, rfl, List.forall_mem_cons.mpr ⟨ha, hbefore⟩, hb⟩
    · exact .inr ⟨a, [], rest, rfl, nofun, ha⟩

theorem FirstFailing.mem_and_not {good : α → Prop} {items : List α} {a : α}
    (h : FirstFailing good items a) : a ∈ items ∧ ¬ good a := by
  obtain ⟨before, after, rfl, -, hbad⟩ := h
  exact ⟨List.mem_append_right _ List.mem_cons_self, hbad⟩

theorem FirstFailing.congr {good good' : α → Prop} {items : List α} {a : α}
    (h : FirstFailing good items a) (hsame : ∀ b, good b ↔ good' b) :
    FirstFailing good' items a := by
  obtain ⟨before, after, hitems, hbefore, hbad⟩ := h
  exact ⟨before, after, hitems, fun b hb => (hsame b).mp (hbefore b hb), (hsame a).not.mp hbad⟩

/-- The first step that fails tells the failure. -/
theorem mapM_of_firstFailing {step : α → Except ε β} {items : List α} {a : α} {e : ε}
    (h : FirstFailing (fun a => ∃ b, step a = .ok b) items a) (ha : step a = .error e) :
    items.mapM step = .error e := by
  obtain ⟨before, after, rfl, hbefore, -⟩ := h
  obtain ⟨results, hresults⟩ := exists_mapM_eq_ok_iff.mpr hbefore
  rw [List.mapM_append, hresults, List.mapM_cons, ha]
  rfl

/-- Items are changed, checked one after the other, and kept if all checks succeed. -/
theorem forM_map_eq_mapM (change : α → β) (check : β → Except ε Unit) (items : List α) :
    ((items.map change).forM check >>= fun _ => pure (items.map change)) =
      items.mapM fun a => check (change a) >>= fun _ => pure (change a) := by
  induction items with
  | nil => rfl
  | cons a rest ih =>
    rw [List.mapM_cons, ← ih, List.map_cons, List.forM]
    cases check (change a) with
    | error e => rfl
    | ok =>
      cases (rest.map change).forM check <;> rfl

/-! ## Like outcomes -/

/-- The same outcome, or two failures that are akin. -/
inductive Alike (akin : ε → ε → Prop) : Except ε α → Except ε α → Prop
  | same (x : Except ε α) : Alike akin x x
  | failed {e e' : ε} (h : akin e e') : Alike akin (.error e) (.error e')

variable {akin : ε → ε → Prop}

theorem Alike.bind {x y : Except ε α} {f g : α → Except ε β} (h : Alike akin x y)
    (hnext : ∀ a, Alike akin (f a) (g a)) : Alike akin (x >>= f) (y >>= g) := by
  cases h with
  | same =>
    cases x with
    | error e => exact .same (.error e)
    | ok a => exact hnext a
  | failed he => exact .failed he

theorem Alike.mapM {f g : α → Except ε β} {items : List α}
    (h : ∀ a ∈ items, Alike akin (f a) (g a)) : Alike akin (items.mapM f) (items.mapM g) := by
  induction items with
  | nil => exact .same (pure [])
  | cons a rest ih =>
    rw [List.mapM_cons, List.mapM_cons]
    apply (h a List.mem_cons_self).bind
    intro b
    apply (ih fun a ha => h a (List.mem_cons_of_mem _ ha)).bind
    intro bs
    exact .same (pure (b :: bs))

end Overseer
