import Overseer.Budget

/-!
# Restart budgets and their counts

* `ofCount_toCount`, `toCount_of_ofCount`, `ne_of_ofCount` -- a budget is given back by its integer
  form, unless it is a limited budget that grants nothing, which no integer form gives;
* `consume_charged`, `toCount_eq_zero_iff` -- when a budget grants a relaunch, and what is left of
  it then;
* `Spent` -- what is left of a budget after a number of relaunches;
* `draw` -- relaunches taken out one after another; `draw_infinite`, `draw_finite` -- which of them
  are granted; `relaunches_counted` -- this in terms of the integer form.
-/

namespace Overseer

namespace Budget

/-! ## The integer form -/

/-- No integer form stands for a limited budget that grants nothing. -/
theorem ne_of_ofCount {count : Int} {budget : Budget} (h : ofCount count = .ok budget) :
    budget ≠ limited 0 := by
  rintro rfl
  unfold ofCount at h
  split at h
  · cases h
  · split at h
    · cases h
    · split at h
      · cases h
      · next hnonzero hnonnegative =>
        split at h
        · next hbound =>
          have hzero : UInt32.ofNat count.toNat = 0 := limited.inj (Except.ok.inj h)
          have hcount : count.toNat % 4294967296 = 0 := congrArg UInt32.toNat hzero
          unfold maxCount at hbound
          omega
        · cases h

/-- Every integer form is between that of no limit and the greatest count. -/
theorem toCount_bounds (budget : Budget) : -1 ≤ budget.toCount ∧ budget.toCount ≤ maxCount := by
  cases budget with
  | never => decide
  | infinite => decide
  | limited count =>
    have hcount : (limited count).toCount = count.toNat := rfl
    have hbound := count.toNat_lt
    rw [hcount, maxCount]
    omega

/-- **Every other budget is given back by its integer form.** -/
theorem ofCount_toCount {budget : Budget} (h : budget ≠ limited 0) :
    ofCount budget.toCount = .ok budget := by
  cases budget with
  | never => rfl
  | infinite => rfl
  | limited count =>
    have hnonzero : count.toNat ≠ 0 := by
      intro hzero
      have hcount : count = 0 := UInt32.toNat_inj.mp hzero
      exact h (congrArg limited hcount)
    have hbound := (toCount_bounds (limited count)).2
    have hcount : (limited count).toCount = count.toNat := rfl
    rw [hcount] at hbound ⊢
    unfold ofCount
    rw [if_neg (by omega), if_neg (by omega), if_neg (by omega), if_pos hbound, Int.toNat_natCast,
      UInt32.ofNat_toNat]

/-- A budget has the integer form that stands for it. -/
theorem toCount_of_ofCount {count : Int} {budget : Budget} (h : ofCount count = .ok budget) :
    budget.toCount = count := by
  unfold ofCount at h
  split at h
  · next heq => exact Except.ok.inj h ▸ heq.symm
  · split at h
    · next heq => exact Except.ok.inj h ▸ heq.symm
    · split at h
      · cases h
      · next hnonnegative =>
        split at h
        · next hbound =>
          obtain rfl := Except.ok.inj h
          unfold maxCount at hbound
          have hcount : count.toNat % 4294967296 = count.toNat := by omega
          rw [toCount, UInt32.toNat_ofNat', hcount]
          omega
        · cases h

/-- **Exactly the numbers between that of no limit and the greatest count are integer forms.** -/
theorem exists_ofCount_iff {count : Int} :
    (∃ budget, ofCount count = .ok budget) ↔ -1 ≤ count ∧ count ≤ maxCount := by
  constructor
  · rintro ⟨budget, h⟩
    rw [← toCount_of_ofCount h]
    exact toCount_bounds budget
  · rintro ⟨hlow, hhigh⟩
    unfold ofCount
    by_cases hendless : count = -1
    · exact ⟨infinite, if_pos hendless⟩
    · by_cases hzero : count = 0
      · exact ⟨never, by rw [if_neg hendless, if_pos hzero]⟩
      · have hpositive : ¬ count < 0 := by omega
        exact ⟨_, by rw [if_neg hendless, if_neg hzero, if_neg hpositive, if_pos hhigh]⟩

/-! ## Relaunches -/

/-- What is left of a budget from which one relaunch was taken. -/
def Charged (before after : Budget) : Prop :=
  before = infinite ∧ after = infinite ∨ after.toCount + 1 = before.toCount

/-- A budget that grants nothing stays as it is. -/
theorem consume_refused {budget : Budget} (h : budget.consume.1 = false) :
    budget.consume.2 = budget := by
  cases budget with
  | never => rfl
  | infinite => cases h
  | limited count =>
    by_cases hzero : count = 0
    · rw [hzero]
      rfl
    · by_cases hone : count = 1 <;> simp [consume, hzero, hone] at h

/-- A budget that grants a relaunch is charged for it. -/
theorem consume_charged {budget : Budget} (h : budget.consume.1 = true) :
    Charged budget budget.consume.2 := by
  cases budget with
  | never => cases h
  | infinite => exact .inl ⟨rfl, rfl⟩
  | limited count =>
    right
    by_cases hzero : count = 0
    · simp [consume, hzero] at h
    · by_cases hone : count = 1
      · rw [hone]
        rfl
      · have hpos : 1 ≤ count.toNat := by
          have hne : count.toNat ≠ 0 := fun hsame => hzero (UInt32.toNat_inj.mp hsame)
          omega
        have hless : (count - 1).toNat = count.toNat - 1 :=
          UInt32.toNat_sub_of_le count 1 (UInt32.le_iff_toNat_le.mpr hpos)
        simp only [consume, if_neg hzero, if_neg hone, toCount, hless]
        omega

/-- Exactly an exhausted budget grants nothing. -/
theorem toCount_eq_zero_iff {budget : Budget} :
    budget.toCount = 0 ↔ budget.consume.1 = false := by
  cases budget with
  | never => simp [toCount, consume]
  | infinite => simp [toCount, consume]
  | limited count =>
    by_cases hzero : count = 0
    · simp [toCount, consume, hzero]
    · have hne : count.toNat ≠ 0 := fun hsame => hzero (UInt32.toNat_inj.mp hsame)
      by_cases hone : count = 1 <;> simp [toCount, consume, hzero, hone, hne]

/-- The budget `after` is what is left of `before` when `n` relaunches were taken out. -/
def Spent (n : Nat) (before after : Budget) : Prop :=
  before = infinite ∧ after = infinite ∨
    before ≠ infinite ∧ after ≠ infinite ∧ after.toCount + n = before.toCount

theorem Spent.refl (budget : Budget) : Spent 0 budget budget := by
  by_cases h : budget = infinite
  · exact .inl ⟨h, h⟩
  · exact .inr ⟨h, h, by simp⟩

theorem Spent.trans {n m : Nat} {first second third : Budget} (h : Spent n first second)
    (h' : Spent m second third) : Spent (n + m) first third := by
  rcases h with ⟨hfirst, hsecond⟩ | ⟨hfirst, hsecond, hcount⟩
  · rcases h' with ⟨-, hthird⟩ | ⟨hnot, -⟩
    · exact .inl ⟨hfirst, hthird⟩
    · exact absurd hsecond hnot
  · rcases h' with ⟨hinfinite, -⟩ | ⟨-, hthird, hcount'⟩
    · exact absurd hinfinite hsecond
    · refine .inr ⟨hfirst, hthird, ?_⟩
      push_cast
      omega

/-- A budget that grants a relaunch is charged for it, and stays with or without a limit. -/
theorem consume_spent {budget : Budget} (h : budget.consume.1 = true) :
    Spent 1 budget budget.consume.2 := by
  have hcharged := consume_charged h
  cases budget with
  | never => cases h
  | infinite => exact .inl ⟨rfl, rfl⟩
  | limited count =>
    have hlimited : (limited count).consume.2 ≠ infinite := by
      by_cases hzero : count = 0
      · simp [consume, hzero]
      · by_cases hone : count = 1 <;> simp [consume, hzero, hone]
    rcases hcharged with ⟨hinfinite, -⟩ | hcount
    · cases hinfinite
    · exact .inr ⟨by simp, hlimited, hcount⟩

/-! ## Relaunches one after another -/

/-- A budget that is charged does not become a limited budget that grants nothing. -/
theorem consume_proper {budget : Budget} (h : budget ≠ limited 0) :
    budget.consume.2 ≠ limited 0 := by
  cases budget with
  | never => exact h
  | infinite => exact h
  | limited count =>
    have hzero : count ≠ 0 := fun hsame => h (congrArg limited hsame)
    by_cases hone : count = 1
    · simp [consume, hone]
    · have hless : (consume (limited count)).2 = limited (count - 1) := by
        simp [consume, hzero, hone]
      intro hnothing
      rw [hless] at hnothing
      exact hone (UInt32.sub_eq_iff_eq_add.mp (limited.inj hnothing))

/-- Takes relaunches out of a budget one after another, and tells of each whether it was granted. -/
def draw : Budget → Nat → List Bool × Budget
  | budget, 0 => ([], budget)
  | budget, n + 1 =>
    let (granted, rest) := budget.consume
    let (later, rest) := rest.draw n
    (granted :: later, rest)

theorem draw_succ (budget : Budget) (n : Nat) : budget.draw (n + 1) =
    (budget.consume.1 :: (budget.consume.2.draw n).1, (budget.consume.2.draw n).2) := rfl

theorem draw_proper {budget : Budget} (h : budget ≠ limited 0) (n : Nat) :
    (budget.draw n).2 ≠ limited 0 := by
  induction n generalizing budget with
  | zero => exact h
  | succ n ih => exact ih (consume_proper h)

/-- Without a limit every relaunch is granted. -/
theorem draw_infinite (n : Nat) : infinite.draw n = (List.replicate n true, infinite) := by
  induction n with
  | zero => rfl
  | succ n ih =>
    have hgranted : infinite.consume = (true, infinite) := rfl
    rw [draw_succ, hgranted, ih]
    rfl

/-- **With a limit the first relaunches are granted**, as many as it allows. -/
theorem draw_finite {budget : Budget} {limit : Nat} (h : budget.toCount = limit) (n : Nat) :
    (budget.draw n).1 = List.replicate (min n limit) true ++ List.replicate (n - limit) false ∧
      (budget.draw n).2.toCount = (limit - min n limit : Nat) := by
  induction n generalizing budget limit with
  | zero => simpa [draw] using h
  | succ n ih =>
    rw [draw_succ]
    cases limit with
    | zero =>
      have hrefused : budget.consume.1 = false := toCount_eq_zero_iff.mp h
      obtain ⟨hgranted, hleft⟩ := ih (consume_refused hrefused ▸ h)
      rw [hrefused, hgranted]
      exact ⟨by simp [List.replicate_succ], by simpa using hleft⟩
    | succ limit =>
      have hgrants : budget.consume.1 = true := by
        rw [← Bool.not_eq_false, ← toCount_eq_zero_iff, h]
        omega
      have hcount : budget.consume.2.toCount = limit := by
        rcases consume_charged hgrants with ⟨rfl, -⟩ | hcharged
        · cases h
        · omega
      obtain ⟨hgranted, hleft⟩ := ih hcount
      rw [hgrants, hgranted]
      refine ⟨?_, ?_⟩
      · rw [Nat.succ_min_succ, List.replicate_succ, Nat.add_sub_add_right, List.cons_append]
      · rw [hleft, Nat.succ_min_succ, Nat.add_sub_add_right]

/-- What comes of `n` relaunches that are asked of the budget with the integer form `count`: which
of them are granted, and the budget that is left. -/
structure Drawn (count : Int) (n : Nat) (granted : List Bool) (rest : Budget) : Prop where
  /-- No limited budget is left that grants nothing. -/
  proper : rest ≠ limited 0
  /-- What is left is given back by its integer form. -/
  readBack : ofCount rest.toCount = .ok rest
  /-- Without a limit all are granted. -/
  endless : count = -1 → granted = List.replicate n true ∧ rest = infinite
  /-- With a limit the first are granted, as many as it allows. -/
  counted : ∀ limit : Nat, count = limit →
    granted = List.replicate (min n limit) true ++ List.replicate (n - limit) false ∧
      rest.toCount = (limit - min n limit : Nat)

/-- **The integer form and the relaunches agree.**  Exactly the numbers from -1 to the greatest that
has thirty-two bits stand for a budget, which has that integer form; and it grants the relaunches
that its integer form tells of. -/
theorem relaunches_counted (count : Int) :
    ((∃ budget, ofCount count = .ok budget) ↔ -1 ≤ count ∧ count ≤ 4294967295) ∧
    ∀ budget, ofCount count = .ok budget → budget.toCount = count ∧
      ∀ n, Drawn count n (budget.draw n).1 (budget.draw n).2 := by
  refine ⟨exists_ofCount_iff, ?_⟩
  intro budget h
  have hcount := toCount_of_ofCount h
  refine ⟨hcount, fun n => ?_⟩
  have hproper := draw_proper (ne_of_ofCount h) n
  refine ⟨hproper, ofCount_toCount hproper, ?_, ?_⟩
  · rintro rfl
    obtain rfl : infinite = budget := Except.ok.inj h
    rw [draw_infinite]
    exact ⟨rfl, rfl⟩
  · rintro limit rfl
    exact draw_finite hcount n

/-- The greatest integer form stands for a budget, and of a budget of one the second relaunch is
refused. -/
theorem second_relaunch_refused : (∃ budget, ofCount 4294967295 = .ok budget) ∧
    Drawn 1 2 [true, false] never :=
  ⟨(relaunches_counted 4294967295).1.mpr (by decide),
    ((relaunches_counted 1).2 (limited 1) rfl).2 2⟩

end Budget

end Overseer
