/-!
# Patterns of the shell

In a pattern a star stands for any text, a question mark for any one character, and characters in
brackets for any one of them.  A character that is quoted stands for itself.

* `Pattern.read` -- the marks of a pattern;
* `Pattern.fits` -- whether a text matches a pattern;
* `Pattern.trimStart`, `Pattern.trimEnd` -- a text without the shortest or the longest part at one
  end that matches.
-/

namespace Overseer.Pattern

/-- A part of a pattern. -/
inductive Mark where
  | anyText
  | anyOne
  | exactly (c : Char)
  /-- One of several ranges, or none of them. -/
  | oneOf (negated : Bool) (ranges : List (Char × Char))
  deriving DecidableEq, Repr

/-- The ranges between brackets. -/
def rangesOf : List Char → List (Char × Char)
  | a :: '-' :: b :: rest => (a, b) :: rangesOf rest
  | a :: rest => (a, a) :: rangesOf rest
  | [] => []

/-- The mark between brackets. -/
def bracketed : List Char → Mark
  | '!' :: rest | '^' :: rest => .oneOf true (rangesOf rest)
  | all => .oneOf false (rangesOf all)

/-- The length of what stands between brackets, up to the one that closes them.  One that stands
first closes nothing. -/
def bracketLength? (text : List (Char × Bool)) : Option Nat :=
  let negation := match text with
    | ('!', false) :: _ | ('^', false) :: _ => 1
    | _ => 0
  let first := negation + (if (text.drop negation).head? = some (']', false) then 1 else 0)
  let inside := (text.drop first).takeWhile (· != (']', false))
  if first + inside.length < text.length then some (first + inside.length) else none

/-- The marks of a pattern, of which so many characters are skipped.  Every character comes with
whether it is quoted. -/
def read : Nat → List (Char × Bool) → List Mark
  | _, [] => []
  | skipped + 1, _ :: rest => read skipped rest
  | 0, (c, quoted) :: rest =>
    if quoted then .exactly c :: read 0 rest
    else if c = '*' then .anyText :: read 0 rest
    else if c = '?' then .anyOne :: read 0 rest
    else if c = '[' then
      match bracketLength? rest with
      | some n => bracketed ((rest.take n).map (·.1)) :: read (n + 1) rest
      | none => .exactly c :: read 0 rest
    else .exactly c :: read 0 rest

/-- Whether one character matches a mark that stands for one. -/
def admits : Mark → Char → Bool
  | .anyText, _ => false
  | .anyOne, _ => true
  | .exactly c, d => c == d
  | .oneOf negated ranges, d => ranges.any (fun (a, b) => a ≤ d && d ≤ b) != negated

/-- Whether a text matches a pattern. -/
def fits : List Mark → List Char → Bool
  | [], text => text.isEmpty
  | .anyText :: marks, [] => fits marks []
  | .anyText :: marks, d :: rest => fits marks (d :: rest) || fits (.anyText :: marks) rest
  | _ :: _, [] => false
  | mark :: marks, d :: rest => admits mark d && fits marks rest
termination_by marks text => (marks.length, text.length)

/-- A text without a part at its beginning that matches. -/
def trimStart (longest : Bool) (marks : List Mark) (text : List Char) : List Char :=
  let lengths := List.range (text.length + 1)
  let candidates := if longest then lengths.reverse else lengths
  match candidates.find? fun n => fits marks (text.take n) with
  | some n => text.drop n
  | none => text

/-- A text without a part at its end that matches. -/
def trimEnd (longest : Bool) (marks : List Mark) (text : List Char) : List Char :=
  let lengths := List.range (text.length + 1)
  let candidates := if longest then lengths else lengths.reverse
  match candidates.find? fun n => fits marks (text.drop n) with
  | some n => text.take n
  | none => text

end Overseer.Pattern
