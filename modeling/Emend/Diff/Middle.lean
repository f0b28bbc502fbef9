import Emend.Diff.Script

/-!
# Where to cut two lists

The greedy search for a shortest edit script, run from both ends at once.  For `d = 0, 1, 2, …` a
*frontier* records, for each of the diagonals `k = d, d - 2, …, -d`, the furthest point that `d`
deletions and insertions reach on it.  The point `(x, y)` on diagonal `k` has used `x` old and `y =
x - k` new tokens.  Where the frontier from the start meets the one from the end, `middle` cuts the
two lists.

The frontier of depth `d` is an array with the entry of diagonal `k = d - 2 * i` at index `i`, so
the neighbours of that diagonal lie at the indices `i - 1` and `i` of the frontier before it.

* `entry` and `frontier` make the frontier of a depth from that of the depth before, first the
  points at which diagonals are entered and then how far the tokens agree from there.
* `meeting` looks for a diagonal on which two frontiers overlap.
* `middleFrom` goes through the depths.  Its `fuel` bounds their number; that the bound is never
  reached is proved, and not assumed (`Emend.Proofs.Diff.Middle`).

The two frontiers are held apart, each from its own end.  The one from the end is a frontier of the
reversed lists, so one definition serves for both, and only `meeting` relates their diagonals.
-/

set_option autoImplicit false

namespace Emend.Diff

variable {α : Type} [DecidableEq α]

/-! ## Frontiers -/

/-- How far two arrays agree from index `x` of the one and `y` of the other. -/
def slide (a b : Array α) (x y : Nat) : Nat :=
  if h : x < a.size ∧ y < b.size then
    if a[x] = b[y] then slide a b (x + 1) (y + 1) + 1 else 0
  else 0
termination_by a.size - x

/-- Where diagonal number `i` of depth `d` is entered from the frontier of the depth before: by an
insertion on the lowest diagonal and where the diagonal above has come further, by a deletion
otherwise. -/
def entry (d : Nat) (previous : Array Nat) (i : Nat) : Nat :=
  let below := previous[i]?.getD 0
  let above := previous[i - 1]?.getD 0
  if d = 0 then 0
  else if i = d ∨ (i ≠ 0 ∧ below < above) then above
  else below + 1

/-- The points at which the diagonals of depth `d` are entered. -/
def entries (d : Nat) (previous : Array Nat) : Array Nat :=
  (Array.range (d + 1)).map (entry d previous)

/-- The frontier of depth `d`: from each point of entry, along the diagonal while the tokens
agree. -/
def frontier (a b : Array α) (d : Nat) (entered : Array Nat) : Array Nat :=
  entered.mapIdx fun i x ↦ if d ≤ x + 2 * i then x + slide a b x (x + 2 * i - d) else x

/-! ## Meeting in the middle -/

/-- The number of the first diagonal on which two frontiers overlap.  The frontier `front` has
depth `d` and runs over diagonals `k`; the frontier `other` has depth `e` and runs against it, over
the diagonals `delta - k`.  They overlap where together they cover all `n` old tokens. -/
def meeting (n : Nat) (delta : Int) (d : Nat) (front : Array Nat) (e : Nat) (other : Array Nat) :
    Option Nat :=
  (List.range (d + 1)).find? fun i ↦
    let k : Int := d - 2 * i
    let j := ((e : Int) - (delta - k)) / 2
    (k - delta).natAbs ≤ e && n ≤ front[i]?.getD 0 + other[j.toNat]?.getD 0

/-- Searches for the point at which to cut, from depth `d` on and through at most `fuel` depths.
`forward` and `backward` are the frontiers of the depth before; the backward one is the forward one
of the reversed lists `ra` and `rb`.  An odd difference of lengths lets the frontiers meet when the
forward one moves, an even one when the backward one does. -/
def middleFrom (a b ra rb : Array α) (fuel d : Nat) (forward backward : Array Nat) :
    Option (Nat × Nat) :=
  match fuel with
  | 0 => none
  | fuel + 1 =>
    let n := a.size
    let m := b.size
    let delta : Int := n - m
    let entered := entries d forward
    let forward := frontier a b d entered
    let met := if delta % 2 = 0 ∨ d = 0 then none else meeting n delta d forward (d - 1) backward
    match met with
    | some i =>
      let x := entered[i]?.getD 0
      some (x, x + 2 * i - d)
    | none =>
      let backward := frontier ra rb d (entries d backward)
      let met := if delta % 2 = 0 then meeting n delta d backward d forward else none
      match met with
      | some i =>
        let x := backward[i]?.getD 0
        some (n - x, m - (x + 2 * i - d))
      | none => middleFrom a b ra rb fuel (d + 1) forward backward

/-- The numbers of old and of new tokens before the point at which to cut two lists. -/
def middle (a b : List α) : Option (Nat × Nat) :=
  middleFrom a.toArray b.toArray a.reverse.toArray b.reverse.toArray
    ((a.length + b.length + 1) / 2 + 1) 0 #[] #[]

end Emend.Diff
