import Overseer.Error

/-!
# Restart budgets

How many automatic relaunches the watchdog may still make.  A budget has an integer form: `-1`
stands for no limit, `0` for none, a positive number for that many.

* `Budget.ofCount`, `Budget.toCount` -- between a budget and its integer form;
* `Budget.consume` -- takes one relaunch out, and tells whether there was one.
-/

namespace Overseer

/-- How many automatic relaunches are left. -/
inductive Budget where
  | never
  | limited (count : UInt32)
  | infinite
  deriving DecidableEq, Repr

namespace Budget

instance : Inhabited Budget := ⟨.never⟩

/-- The greatest count a limited budget holds. -/
def maxCount : Int := 4294967295

/-- The budget with an integer form.  Other negative numbers and numbers above `maxCount` are
no budget. -/
def ofCount (count : Int) : Except Error Budget :=
  if count = -1 then .ok infinite
  else if count = 0 then .ok never
  else if count < 0 then
    .error (.validation s!"restart budget must be -1, 0 or positive, got {count}")
  else if count ≤ maxCount then .ok (limited (UInt32.ofNat count.toNat))
  else .error (.validation s!"restart budget too large: {count}")

/-- The integer form of a budget. -/
def toCount : Budget → Int
  | never => 0
  | limited count => count.toNat
  | infinite => -1

/-- Takes one relaunch out of the budget.  An exhausted budget grants nothing and stays. -/
def consume : Budget → Bool × Budget
  | infinite => (true, infinite)
  | never => (false, never)
  | limited count =>
    if count = 0 then (false, limited count)
    else if count = 1 then (true, never)
    else (true, limited (count - 1))

/-- The wording for people. -/
def text : Budget → String
  | never => "none"
  | limited count => toString count.toNat
  | infinite => "unlimited"

end Budget

end Overseer
