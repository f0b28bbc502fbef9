import Emend.Diff.Myers

/-!
# The patience diff

Tokens that occur exactly once in each of two lists are reliable landmarks.  The patience diff
matches these first, by a diff of their own, and then diffs the stretches between one matched
landmark and the next.

* `uniques` are the tokens of a list that occur once in it.  They are found in each list alone, so a
  unique token of the one need not be in the other.
* `landmarks` are the pairs of indices that the diff of the unique tokens matches.  It keeps their
  order, so the landmarks ascend on both sides.
* `diffStretches` cuts both lists at the landmarks and diffs stretch by stretch.

A landmark opens the stretch that follows it and is not treated apart: both stretches begin with the
same token then, and the diff of the two finds it as their common prefix.
-/

set_option autoImplicit false

namespace Emend.Diff

variable {α : Type} [DecidableEq α]

/-- The tokens that occur exactly once in a list, each with its index. -/
def uniques (a : List α) : List (α × Nat) := a.zipIdx.filter fun t ↦ a.count t.1 = 1

/-- The pairs of indices that a script matches, given the indices of the tokens on its two
sides. -/
def matchedIndices : Script α → List Nat → List Nat → List (Nat × Nat)
  | [], _, _ => []
  | .equal ts :: s, is, js =>
    (is.take ts.length).zip (js.take ts.length) ++
      matchedIndices s (is.drop ts.length) (js.drop ts.length)
  | .delete ts :: s, is, js => matchedIndices s (is.drop ts.length) js
  | .insert ts :: s, is, js => matchedIndices s is (js.drop ts.length)

/-- The landmarks of two lists: the indices of unique tokens that a diff of these alone
matches. -/
def landmarks (a b : List α) : List (Nat × Nat) :=
  let u := uniques a
  let v := uniques b
  matchedIndices (myers (u.map Prod.fst) (v.map Prod.fst)) (u.map Prod.snd) (v.map Prod.snd)

/-- Diffs two lists stretch by stretch, where the pairs say at which indices the next stretches
start.  The indices count from `x` in the first list and from `y` in the second. -/
def diffStretches (x y : Nat) (a b : List α) : List (Nat × Nat) → Script α
  | [] => myers a b
  | (i, j) :: rest =>
    myers (a.take (i - x)) (b.take (j - y)) ++
      diffStretches i j (a.drop (i - x)) (b.drop (j - y)) rest

/-- The edit script found by matching landmarks first.  A landmark opens the stretch that follows
it. -/
def patience (a b : List α) : Script α := diffStretches 0 0 a b (landmarks a b)

end Emend.Diff
