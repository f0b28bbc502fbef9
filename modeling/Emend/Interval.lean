/-!
# Intervals

Runs of line numbers, and the places that edits take up, are half-open intervals of natural
numbers.
-/

set_option autoImplicit false

namespace Emend

/-- The numbers from `start` up to, but not including, `stop`. -/
structure Interval where
  start : Nat
  stop : Nat
  deriving DecidableEq, Repr

namespace Interval

/-- Whether an interval holds no number; one whose ends are reversed holds none. -/
def isEmpty (r : Interval) : Bool := r.stop ≤ r.start

/-- How many numbers an interval holds. -/
def length (r : Interval) : Nat := r.stop - r.start

/-- The two ends, with dots between them. -/
def display (r : Interval) : String := s!"{r.start}..{r.stop}"

end Interval

end Emend
