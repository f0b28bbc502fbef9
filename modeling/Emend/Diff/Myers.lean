import Emend.Proofs.Diff.Middle
import Emend.Proofs.Diff.Script

/-!
# The middle-snake diff

The divide-and-conquer form of the greedy shortest-edit-script search.  Two lists are cut in their
middle once their common ends are off, and the halves are diffed in the same way.

That this comes to an end is not obvious.  A cut at a corner of the grid would leave one half as
large as the whole, and the search for the middle does not look where the corners are.  It never
cuts there (`middle_isProperCut`), because two lists without common ends have no token to share at
either corner, and `lt_of_middle_core` turns this into the decrease that the recursion needs.

If the search found no cut, everything would be deleted and inserted anew.  This branch is there
because `middle` has a bound on its depths; it is never taken.
-/

set_option autoImplicit false

namespace Emend.Diff

variable {α : Type} [DecidableEq α]

/-- A cut of the middles of two lists leaves two halves that are smaller than the lists. -/
theorem lt_of_middle_core {a b : List α} {x y : Nat}
    (h : ¬ ((core a b).old = [] ∨ (core a b).new = []))
    (hcut : middle (core a b).old (core a b).new = some (x, y)) :
    ((core a b).old.take x).length + ((core a b).new.take y).length < a.length + b.length ∧
      ((core a b).old.drop x).length + ((core a b).new.drop y).length < a.length + b.length := by
  obtain ⟨hold, hnew⟩ := not_or.1 h
  obtain ⟨x', y', hcut', hproper⟩ :=
    middle_isProperCut hold hnew (core_head hold hnew) (core_last hold hnew)
  obtain ⟨rfl, rfl⟩ : x' = x ∧ y' = y := by simpa [hcut'] using hcut
  have ha := length_core_old_le a b
  have hb := length_core_new_le a b
  have := hproper.left_le
  have := hproper.right_le
  have := hproper.pos
  have := hproper.lt
  simp only [List.length_take, List.length_drop]
  omega

/-- The edit script found by cutting in the middle.  Should the search find no cut, all old tokens
are deleted and all new ones inserted. -/
def myers (a b : List α) : Script α :=
  let c := core a b
  let inner : Script α :=
    if _h : c.old = [] ∨ c.new = [] then .erase c.old ++ .write c.new
    else
      match _hcut : middle c.old c.new with
      | some (x, y) =>
        myers (c.old.take x) (c.new.take y) ++ myers (c.old.drop x) (c.new.drop y)
      | none => [.delete c.old, .insert c.new]
  .keep c.before ++ inner ++ .keep c.after
termination_by a.length + b.length
decreasing_by
  · exact (lt_of_middle_core _h _hcut).1
  · exact (lt_of_middle_core _h _hcut).2

end Emend.Diff
