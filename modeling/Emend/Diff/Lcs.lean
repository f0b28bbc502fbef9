import Emend.Diff.Script

/-!
# The table diff

The diff that fills a table with lengths of common subsequences and walks through it.  The walk goes
through the middles of two lists, but the table is that of their first tokens, as many as the
middles have: it starts at the lists, not behind their common prefix.  So the walk always gives a
script from the one list to the other, which after a common prefix need not be a shortest one.

The table is filled from the ends of the lists, a row for each new token, and a row from the one
below it (`rowAbove`).  The walk reads it from the start.  A token that both lists have at the place
is kept without a look at the table; otherwise the two entries next to the place are compared, and
the old token goes if they are equal.

Either list may be empty, and then there is no table.  The two cases are looked at before all else,
the empty new list first.
-/

set_option autoImplicit false

namespace Emend.Diff

variable {α : Type} [DecidableEq α]

/-! ## The table -/

/-- The row above another row: entry `j` is the length of a longest common subsequence of the
new tokens from `y` on and the old tokens from number `j` on. -/
def rowAbove (y : α) : List α → List Nat → List Nat
  | x :: xs, below :: rest =>
    let right := rowAbove y xs rest
    let cell := if y = x then rest.head?.getD 0 + 1 else max below (right.head?.getD 0)
    cell :: right
  | _, _ => [0]

/-- The table of all rows, one for each suffix of the new tokens. -/
def rows (old : List α) : List α → List (List Nat)
  | [] => [List.replicate (old.length + 1) 0]
  | y :: ys =>
    let below := rows old ys
    rowAbove y old (below.head?.getD []) :: below

/-- A table of lengths, with zero outside of it. -/
structure LcsTable where
  cells : Array (Array Nat)

/-- The entry for the new tokens from `i` on and the old tokens from `j` on. -/
def LcsTable.get (t : LcsTable) (i j : Nat) : Nat := ((t.cells[i]?.getD #[])[j]?).getD 0

/-- The table of two lists. -/
def LcsTable.ofLists (old new : List α) : LcsTable :=
  ⟨((rows old new).map List.toArray).toArray⟩

/-! ## The walk -/

/-- Walks through a table, from entry `(i, j)` on, along the two lists of tokens that remain: a
common token is kept; otherwise the old token goes if the table promises no less without it, and
else the new token comes in.  What remains of one list alone is one step. -/
def walk (t : LcsTable) (i j : Nat) : List α → List α → Script α
  | x :: xs, y :: ys =>
    if y = x then .equal [x] :: walk t (i + 1) (j + 1) xs ys
    else if t.get (i + 1) j ≤ t.get i (j + 1) then .delete [x] :: walk t i (j + 1) xs (y :: ys)
    else .insert [y] :: walk t (i + 1) j (x :: xs) ys
  | xs, ys => .erase xs ++ .write ys
termination_by xs ys => xs.length + ys.length

/-- The edit script found by walking through a table.  Against an empty new list it is one
deletion, even of nothing. -/
def lcs (a b : List α) : Script α :=
  if b = [] then [.delete a]
  else if a = [] then [.insert b]
  else
    let c := core a b
    let t := LcsTable.ofLists (a.take c.old.length) (b.take c.new.length)
    .keep c.before ++ walk t 0 0 c.old c.new ++ .keep c.after

end Emend.Diff
