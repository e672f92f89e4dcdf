import Mathlib.Data.Prod.Lex
import Mathlib.Data.String.Basic
import Overseer.Proofs.CommandLine.Launch
import Overseer.Proofs.CommandLine.Variables
import Overseer.Proofs.Text.ByteOrder
import Overseer.Supervisor.Basic

/-!
# What an entry hands over

An entry hands over all that it holds: its variables as a list in the order of the bytes of their
names, everything else as it is.  The variables of an entry put together from options are those that
were given, and of two for one name the last.

* `sortPairs`, `Variables.sortPairs_eq` -- variables that are collected in any order and sorted;
* `Entry.CarriedBy` -- nothing is lost and nothing is made up; `Entry.CarriedBy.unique`;
* `RunOptions.entry_eq_ok_iff` -- the variables that were given matter to nothing else;
* `commission_faithful` -- for all entries, and for those put together from options.
-/

namespace Overseer

/-- Pairs in order: by their first texts, and those with the same one by the other. -/
def sortPairs (pairs : List (String × String)) : List (String × String) :=
  pairs.mergeSort fun x y => toLex x ≤ toLex y

theorem pairwise_sortPairs (pairs : List (String × String)) :
    (sortPairs pairs).Pairwise fun x y => toLex x ≤ toLex y := by
  have hsorted : (sortPairs pairs).Pairwise fun x y => decide (toLex x ≤ toLex y) = true := by
    apply List.pairwise_mergeSort
    · intro x y z hxy hyz
      exact decide_eq_true (le_trans (of_decide_eq_true hxy) (of_decide_eq_true hyz))
    · intro x y
      simpa using le_total (toLex x) (toLex y)
  exact hsorted.imp of_decide_eq_true

/-- **Variables that are collected in any order and sorted are in the order of their names.** -/
theorem Variables.sortPairs_eq {vars : Variables} {pairs : List (String × String)}
    (h : pairs.Perm vars.entries) : sortPairs pairs = vars.entries := by
  have hperm : (sortPairs pairs).Perm vars.entries := (List.mergeSort_perm pairs _).trans h
  have hdistinct : (sortPairs pairs).Pairwise (·.1 ≠ ·.1) :=
    (hperm.pairwise_iff Ne.symm).mpr (vars.ascending.imp String.ne_of_lt)
  have hascending : Keyed.Ascending (sortPairs pairs) := by
    refine (pairwise_sortPairs pairs).imp₂ (fun x y hle hne => ?_) hdistinct
    rcases Prod.Lex.toLex_le_toLex.mp hle with hlt | ⟨heq, -⟩
    · exact hlt
    · exact absurd heq hne
  exact Keyed.eq_of_perm hascending vars.ascending hperm

namespace Entry

variable {e e' : Entry} {c : Commission}

/-- What an entry holds, and nothing else, is handed over. -/
structure CarriedBy (e : Entry) (c : Commission) : Prop where
  /-- The names of the variables ascend strictly, byte by byte. -/
  sorted : c.spec.env.Pairwise fun x y => Text.bytes x.1 < Text.bytes y.1
  env : ∀ name value, (name, value) ∈ c.spec.env ↔ e.env.get? name = some value
  /-- In whichever order the variables are collected, they are in this order once sorted. -/
  collected : ∀ pairs, pairs.Perm e.env.entries → sortPairs pairs = c.spec.env
  name : c.spec.name = e.name
  command : c.spec.command = e.command
  args : c.spec.args = e.args
  cwd : c.spec.cwd = e.cwd
  detach : c.spec.detach = e.detach
  budget : c.spec.budget = e.restarts
  pollInterval : c.spec.pollInterval = e.pollInterval
  stdout : c.spec.stdout = e.stdout
  stderr : c.spec.stderr = e.stderr
  autoTerminate : c.spec.autoTerminate = e.autoTerminate
  /-- A supervisor ticks after exactly as many milliseconds as the entry says. -/
  period : ∀ {σ : Type} (system : σ),
    (Supervisor.new c.spec system c.sink).period = e.pollInterval.toNat
  sink : c.sink = none

theorem carriedBy_toCommission (e : Entry) : e.CarriedBy e.toCommission where
  sorted := e.env.ascending.imp Text.bytes_lt_iff.mpr
  env _ _ := Variables.get?_eq_some_iff.symm
  collected _ := Variables.sortPairs_eq
  name := rfl
  command := rfl
  args := rfl
  cwd := rfl
  detach := rfl
  budget := rfl
  pollInterval := rfl
  stdout := rfl
  stderr := rfl
  autoTerminate := rfl
  period _ := rfl
  sink := rfl

/-- **An entry is told by what it hands over.** -/
theorem CarriedBy.unique (h : e.CarriedBy c) (h' : e'.CarriedBy c) : e = e' := by
  have henv : e.env = e'.env := Variables.eq_of_get? fun name value =>
    (h.env name value).symm.trans (h'.env name value)
  obtain ⟨⟩ := e
  obtain ⟨⟩ := e'
  rw [mk.injEq]
  exact ⟨h.name.symm.trans h'.name, h.command.symm.trans h'.command, h.args.symm.trans h'.args,
    henv, h.cwd.symm.trans h'.cwd, h.detach.symm.trans h'.detach, h.budget.symm.trans h'.budget,
    h.pollInterval.symm.trans h'.pollInterval, h.stdout.symm.trans h'.stdout,
    h.stderr.symm.trans h'.stderr, h.autoTerminate.symm.trans h'.autoTerminate⟩

theorem toSpec_injective (h : e.toSpec = e'.toSpec) : e = e' := by
  have hsame : e.toCommission = e'.toCommission := by rw [toCommission, toCommission, h]
  exact e.carriedBy_toCommission.unique (hsame ▸ e'.carriedBy_toCommission)

/-- Variables do not matter to whether an entry is sound. -/
theorem Sound.withVariables {isDirectory : String → Bool} (h : e.Sound isDirectory)
    (env : Variables) : { e with env }.Sound isDirectory :=
  ⟨h.1, h.2, h.3, h.4, h.5⟩

end Entry

namespace RunOptions

variable {w : Surroundings} {o : RunOptions} {e : Entry}

theorem entry_of_firstFailing {program text : String} {args : List String}
    (hconfig : o.config = none) (hcommand : o.command = program :: args)
    (h : FirstFailing (fun text => '=' ∈ text.toList) o.env text) :
    o.entry w =
      .error (.config s!"Invalid environment variable format: '{text}'. Expected KEY=VALUE") := by
  rw [entry, hconfig]
  dsimp only
  rw [entryOfOptions, hcommand]
  dsimp only
  rw [parseVariables_of_firstFailing h]
  rfl

/-- **The variables that were given matter to nothing else.**  An entry is put together exactly when
it is without them, each of their texts has an equals sign, and it has those that were given
last. -/
theorem entry_eq_ok_iff (hconfig : o.config = none) :
    o.entry w = .ok e ↔
      (∀ text ∈ o.env, '=' ∈ text.toList) ∧
        { o with env := [] }.entry w = .ok { e with env := .empty } ∧
        ∀ name value, e.env.get? name = some value ↔ LastGiven o.env name value := by
  have hentry : ∀ env, { o with env }.entry w = { o with env }.entryOfOptions w := by
    intro env
    rw [entry, hconfig]
  have hwith : o.entry w = o.entryOfOptions w := hentry o.env
  rw [hwith, hentry [], entryOfOptions_eq_ok_iff, entryOfOptions_eq_ok_iff]
  constructor
  · rintro ⟨program, args, env, restarts, hcommand, henv, hrestarts, rfl, hsound⟩
    refine ⟨exists_parseVariables_iff.mp ⟨env, henv⟩, ?_, fun name value =>
      get?_eq_some_iff_lastGiven henv⟩
    exact ⟨program, args, .empty, restarts, hcommand, rfl, hrestarts, rfl,
      hsound.withVariables .empty⟩
  · rintro ⟨htexts, ⟨program, args, _, restarts, hcommand, -, hrestarts, he, hsound⟩, hgiven⟩
    obtain ⟨env, henv⟩ := exists_parseVariables_iff.mpr htexts
    obtain rfl : e.env = env := Variables.eq_of_get? fun name value =>
      (hgiven name value).trans (get?_eq_some_iff_lastGiven henv).symm
    exact ⟨program, args, e.env, restarts, hcommand, henv, hrestarts,
      congrArg (fun d : Entry => { d with env := e.env }) he, hsound.withVariables e.env⟩

end RunOptions

/-- **Nothing is lost and nothing is made up.**  An entry hands over what it holds, with its
variables in the order of the bytes of their names and without a sink, so that it is told by its
specification.  Options without a file are refused at the first text of a variable that has no
equals sign; otherwise the variables matter to nothing but themselves, and the specification has for
each name what follows the equals sign in the last text for this name, and no other names. -/
theorem commission_faithful :
    (∀ e : Entry, e.CarriedBy e.toCommission) ∧
      (∀ e e' : Entry, e.toSpec = e'.toSpec → e = e') ∧
      ∀ (w : Surroundings) (o : RunOptions), o.config = none →
        (∀ program args text, o.command = program :: args →
          FirstFailing (fun text => '=' ∈ text.toList) o.env text →
          o.entry w = .error (.config
            s!"Invalid environment variable format: '{text}'. Expected KEY=VALUE")) ∧
        ∀ e, o.entry w = .ok e ↔
          (∀ text ∈ o.env, '=' ∈ text.toList) ∧
            { o with env := [] }.entry w = .ok { e with env := .empty } ∧
            ∀ name value, (name, value) ∈ e.toCommission.spec.env ↔ LastGiven o.env name value := by
  refine ⟨Entry.carriedBy_toCommission, fun _ _ => Entry.toSpec_injective, ?_⟩
  intro w o hconfig
  refine ⟨fun _ _ _ hcommand => RunOptions.entry_of_firstFailing hconfig hcommand, fun e => ?_⟩
  simp only [e.carriedBy_toCommission.env]
  exact RunOptions.entry_eq_ok_iff hconfig

/-- A variable that is given twice, one without a name, and one with an equals sign in its value;
and a text that has none, between two others. -/
theorem last_variable_counts :
    let w : Surroundings := {
      contents := fun _ => .error (.os .enoent)
      isDirectory := fun _ => false
      lookup := fun _ => none }
    let o : RunOptions := {
      name := none, config := none, detach := false, restarts := 0, interval := 1000
      inheritOutput := false, env := ["B=x=y", "A=1", "=z", "A="], command := ["/bin/serve"] }
    let e : Entry := {
      Entry.new "serve" "/bin/serve" with
      env := .ofPairs [("B", "x=y"), ("A", ""), ("", "z")] }
    let o' : RunOptions := { o with env := ["A=1", "B", "C"] }
    o.config = none ∧ o.entry w = .ok e ∧
      e.toCommission.spec.env = [("", "z"), ("A", ""), ("B", "x=y")] ∧
      LastGiven o.env "A" "" ∧ ¬ LastGiven o.env "A" "1" ∧
      o'.config = none ∧ FirstFailing (fun text => '=' ∈ text.toList) o'.env "B" ∧
      o'.entry w =
        .error (.config "Invalid environment variable format: 'B'. Expected KEY=VALUE") := by
  intro w o e o'
  have hentry : o.entry w = .ok e := by
    simp only [w, o, e]
    cbv
  have henv : e.toCommission.spec.env = [("", "z"), ("A", ""), ("B", "x=y")] := by
    simp only [e]
    cbv
  have hfirst : FirstFailing (fun text => '=' ∈ text.toList) o'.env "B" :=
    ⟨["A=1"], ["C"], rfl, by decide, by decide⟩
  obtain ⟨-, -, hgiven⟩ := ((commission_faithful.2.2 w o rfl).2 e).mp hentry
  rw [henv] at hgiven
  exact ⟨rfl, hentry, henv, (hgiven "A" "").mp (by decide),
    fun hlast => absurd ((hgiven "A" "1").mpr hlast) (by decide), rfl, hfirst,
    (commission_faithful.2.2 w o' rfl).1 "/bin/serve" [] "B" rfl hfirst⟩

end Overseer
