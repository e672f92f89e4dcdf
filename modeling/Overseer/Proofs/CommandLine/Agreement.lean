import Overseer.Proofs.CommandLine.Launch
import Overseer.Proofs.CommandLine.Variables
import Overseer.Proofs.Expansion

/-!
# The command line and files agree

What is wished for is given as options, or written in a file with a field for each of the options.
Either way the same entry is launched, or none.  The two ways check the same things in another
order: a file is read and expanded as a whole before its entry is looked at, while the options are
read one after the other.

* `Wish` -- what is wished for; `Wish.options`, `Wish.value` -- as options, and as the value that a
  file holds;
* `Wish.ofValue_eq_ok_iff` -- the entry is read from its value if the count of relaunches is a
  budget;
* `options_and_file_agree` -- the entry to launch.
-/

namespace Overseer

/-! ## What is wished for -/

/-- What is wished for. -/
structure Wish where
  name : String
  program : String
  args : List String
  env : Variables
  detach : Bool
  restarts : Int64
  interval : UInt64
  inheritOutput : Bool

namespace Wish

variable {w : Surroundings} {wish : Wish} {d e : Entry} {budget : Budget}

/-- What is wished for, as options.  The variables are given in some order. -/
def options (wish : Wish) (given : List (String × String)) : RunOptions where
  name := some wish.name
  config := none
  detach := wish.detach
  restarts := wish.restarts.toInt
  interval := wish.interval
  inheritOutput := wish.inheritOutput
  env := given.map joined
  command := wish.program :: wish.args

/-- What is wished for, field by field as a file has it. -/
def fields (wish : Wish) : List (String × Value) :=
  let output := if wish.inheritOutput then Value.text "inherit" else .text "null"
  [("args", .sequence (wish.args.map .text)),
    ("command", .text wish.program),
    ("detach", .boolean wish.detach),
    ("env", .table (wish.env.entries.map fun (key, value) => (key, .text value))),
    ("name", .text wish.name),
    ("poll_interval_ms", .integer wish.interval.toNat),
    ("restarts", .integer wish.restarts.toInt),
    ("stderr", output),
    ("stdout", output)]

/-- What is wished for, as the value of a file. -/
def value (wish : Wish) : Value := .table wish.fields

/-- The entry that is launched, with what stands for the count of relaunches. -/
def entry (wish : Wish) (budget : Budget) : Entry :=
  (wish.options []).assembled wish.program wish.args wish.env budget

/-- Nothing that is expanded in a file has a dollar sign. -/
structure Plain (wish : Wish) : Prop where
  program : '$' ∉ wish.program.toList
  args : ∀ arg ∈ wish.args, '$' ∉ arg.toList
  env : ∀ x ∈ wish.env.entries, '$' ∉ x.2.toList

theorem Plain.entry (h : wish.Plain) (budget : Budget) : (wish.entry budget).Plain where
  command := h.program
  args := h.args
  env := h.env
  cwd := nofun

/-! ### As a file -/

/-- Every field that is written holds what the entry has there. -/
theorem fields_written (hbudget : budget.toCount = wish.restarts.toInt) :
    ∀ x ∈ wish.fields, Draft.Written (wish.entry budget) x := by
  have houtput : (if wish.inheritOutput then Value.text "inherit" else .text "null") =
      OutputTarget.toValue (if wish.inheritOutput then .inherit else .null) := by
    cases wish.inheritOutput <;> rfl
  simp only [fields, houtput, ← hbudget, List.forall_mem_cons]
  exact ⟨⟨.args, rfl⟩, ⟨.command, rfl⟩, ⟨.detach, rfl⟩, ⟨.env, rfl⟩, ⟨.name, rfl⟩,
    ⟨.pollInterval, rfl⟩, ⟨.restarts, rfl⟩, ⟨.stderr, rfl⟩, ⟨.stdout, rfl⟩, nofun⟩

/-- Every field that is not written holds what stands in for it. -/
theorem fields_left (f : Field) :
    f.key ∈ wish.fields.map Prod.fst ∨ f.fallback = some (f.get (wish.entry budget)) := by
  have hkeys : wish.fields.map Prod.fst = ["args", "command", "detach", "env", "name",
    "poll_interval_ms", "restarts", "stderr", "stdout"] := rfl
  rw [hkeys]
  cases f with
  | cwd | autoTerminate => exact .inr rfl
  | _ => exact .inl (by decide)

/-- **What is wished for is read from its value** exactly when the count of relaunches is a
budget. -/
theorem ofValue_eq_ok_iff :
    Entry.ofValue .json wish.value = .ok d ↔
      ∃ budget, Budget.ofCount wish.restarts.toInt = .ok budget ∧ d = wish.entry budget := by
  have hread : ∀ budget, Budget.ofCount wish.restarts.toInt = .ok budget →
      Entry.ofValue .json wish.value = .ok (wish.entry budget) := by
    intro budget hbudget
    refine Entry.ofValue_written (fields_written (Budget.toCount_of_ofCount hbudget)) ?_ fields_left
    intro f
    by_cases hrestarts : f = .restarts
    · subst hrestarts
      exact Field.lasting_restarts.mpr (Budget.ne_of_ofCount hbudget)
    · exact Field.lasting_of_ne hrestarts _
  constructor
  · intro h
    obtain ⟨draft, htable, -⟩ := bind_eq_ok.mp h
    have hmem : (Field.restarts.key, Value.integer wish.restarts.toInt) ∈ wish.fields := by
      simp [fields, Field.key]
    obtain ⟨budget, hcontent⟩ := Draft.exists_ofValue_of_readTable htable hmem
    obtain ⟨count, hcount, hbudget⟩ := Budget.ofValue_eq_ok hcontent
    rw [Value.asSigned_toInt] at hcount
    obtain rfl := Except.ok.inj hcount
    exact ⟨budget, hbudget, Except.ok.inj (h.symm.trans (hread budget hbudget))⟩
  · rintro ⟨budget, hbudget, rfl⟩
    exact hread budget hbudget

/-- A file yields what is wished for, and nothing else, exactly when the count of relaunches is a
budget and the entry is sound. -/
theorem loadValue_eq_ok_iff (hplain : wish.Plain) :
    Config.loadValue w .json wish.value = .ok [e] ↔
      ∃ budget, Budget.ofCount wish.restarts.toInt = .ok budget ∧ e = wish.entry budget ∧
        e.Sound w.isDirectory := by
  have hexpand : ∀ budget, (wish.entry budget).expand w.lookup = wish.entry budget :=
    fun budget => Entry.expand_of_plain (hplain.entry budget)
  have hitems : Config.items? wish.value = some [wish.value] := rfl
  rw [Config.loadValue_eq_ok_iff]
  constructor
  · rintro ⟨items, hitems', -, hloads⟩
    obtain rfl := Option.some.inj (hitems.symm.trans hitems')
    obtain ⟨⟨d, hread, he, -, hsound⟩, -⟩ := List.forall₂_cons.mp hloads
    obtain ⟨budget, hbudget, rfl⟩ := ofValue_eq_ok_iff.mp hread
    exact ⟨budget, hbudget, he.trans (hexpand budget), hsound⟩
  · rintro ⟨budget, hbudget, rfl, hsound⟩
    have hread := ofValue_eq_ok_iff.mpr ⟨budget, hbudget, rfl⟩
    have hkept := (wish.entry budget).kept_expand w.lookup
    rw [hexpand] at hkept
    have hload : Config.Loads w .json wish.value (wish.entry budget) :=
      ⟨wish.entry budget, hread, (hexpand budget).symm, hkept, hsound⟩
    exact ⟨[wish.value], hitems, List.cons_ne_nil _ _, .cons hload .nil⟩

/-! ### As options -/

/-- The options ask for what is wished for exactly when the count of relaunches is a budget and the
entry is sound. -/
theorem entry_options_eq_ok_iff {given : List (String × String)}
    (hgiven : given.Perm wish.env.entries) (hnames : ∀ x ∈ wish.env.entries, '=' ∉ x.1.toList) :
    (wish.options given).entry w = .ok e ↔
      ∃ budget, Budget.ofCount wish.restarts.toInt = .ok budget ∧ e = wish.entry budget ∧
        e.Sound w.isDirectory := by
  have henv : parseVariables (wish.options given).env = .ok wish.env :=
    parseVariables_joined hgiven hnames
  change (wish.options given).entryOfOptions w = .ok e ↔ _
  rw [RunOptions.entryOfOptions_eq_ok_iff]
  constructor
  · rintro ⟨program, args, env, budget, hcommand, henv', hbudget, he, hsound⟩
    cases hcommand
    obtain rfl := Except.ok.inj (henv.symm.trans henv')
    exact ⟨budget, hbudget, he, hsound⟩
  · rintro ⟨budget, hbudget, he, hsound⟩
    exact ⟨wish.program, wish.args, wish.env, budget, rfl, henv, hbudget, he, hsound⟩

end Wish

/-- **The command line and files agree.**  Options without a file that give a name, and variables in
any order, ask for an entry exactly when the value with the same settings yields this entry and no
other one, and so does a file that holds it.  No name of a variable has an equals sign, and nothing
that is expanded in a file has a dollar sign. -/
theorem options_and_file_agree {wish : Wish} {given : List (String × String)}
    (hgiven : given.Perm wish.env.entries) (hnames : ∀ x ∈ wish.env.entries, '=' ∉ x.1.toList)
    (hplain : wish.Plain) (w : Surroundings) (e : Entry) :
    ((wish.options given).entry w = .ok e ↔
      Config.loadValue w .json wish.value = .ok [e]) ∧
      ∀ path, Config.Holds w path .json wish.value →
        ((wish.options given).entry w = .ok e ↔ Config.load w path = .ok [e]) := by
  have hvalue : (wish.options given).entry w = .ok e ↔
      Config.loadValue w .json wish.value = .ok [e] :=
    (wish.entry_options_eq_ok_iff hgiven hnames).trans (wish.loadValue_eq_ok_iff hplain).symm
  refine ⟨hvalue, fun path hholds => ?_⟩
  rw [Config.load_of_holds hholds]
  exact hvalue

/-- A process with two variables, which are given in the other order than a file has them. -/
theorem variables_in_any_order_agree :
    let text := "\x7b\"name\": \"web\", \"command\": \"serve\", \"args\": [\"-v\"], " ++
      "\"detach\": true, \"env\": \x7b\"LANG\": \"C\", \"PORT\": \"80\"\x7d, " ++
      "\"poll_interval_ms\": 500, \"restarts\": 3, " ++
      "\"stdout\": \"inherit\", \"stderr\": \"inherit\"\x7d"
    let w : Surroundings := {
      contents := fun _ => .ok text.toUTF8
      isDirectory := fun _ => false
      lookup := fun _ => none }
    let given := [("PORT", "80"), ("LANG", "C")]
    let wish : Wish := {
      name := "web", program := "serve", args := ["-v"], env := .ofPairs given, detach := true
      restarts := 3, interval := 500, inheritOutput := true }
    let e : Entry := {
      Entry.new "web" "serve" with
      args := ["-v"], env := .ofPairs given, detach := true, restarts := .limited 3
      pollInterval := 500, stdout := .inherit, stderr := .inherit }
    given.Perm wish.env.entries ∧ (∀ x ∈ wish.env.entries, '=' ∉ x.1.toList) ∧ wish.Plain ∧
      Config.Holds w "web.json" .json wish.value ∧ (wish.options given).entry w = .ok e ∧
      Config.load w "web.json" = .ok [e] := by
  intro text w given wish e
  have hsound : e.Sound w.isDirectory := ⟨by decide, by decide, by decide, nofun, by decide⟩
  have henv : wish.env.entries = [("LANG", "C"), ("PORT", "80")] := by
    simp only [wish, given]
    cbv
  have hgiven : given.Perm wish.env.entries := by
    rw [henv]
    exact .swap _ _ _
  have hnames : ∀ x ∈ wish.env.entries, '=' ∉ x.1.toList := by
    rw [henv]
    decide
  have hplain : wish.Plain := ⟨by decide, by decide, by rw [henv]; decide⟩
  have hholds : Config.Holds w "web.json" .json wish.value := by
    have hvalue : Config.valueOf .json text = .ok wish.value := by
      simp only [text, Config.valueOf, Json.read, String.reduceAppend, String.reduceToList]
      set_option maxRecDepth 1000 in
      rfl
    exact Config.holds_of_contents rfl (by cbv) hvalue
  have hentry : (wish.options given).entry w = .ok e :=
    (wish.entry_options_eq_ok_iff hgiven hnames).mpr ⟨.limited 3, rfl, rfl, hsound⟩
  have hfile := ((options_and_file_agree hgiven hnames hplain w e).2 "web.json" hholds).mp hentry
  exact ⟨hgiven, hnames, hplain, hholds, hentry, hfile⟩

end Overseer
