/-!
# Edit scripts

An edit script turns one list of tokens into another by keeping, deleting and inserting runs of
tokens.  Its steps carry the tokens themselves, so a script determines both of its ends:
`Script.source` is the list it starts from, `Script.target` the list it arrives at.  No step refers
to the lists by numbers, and a part of a script is a script between parts of the lists.

The module also cuts the common prefix and suffix off two lists (`Core`), which every way to compute
a script starts with.  The suffix is that of what follows the prefix, so the two do not overlap.
-/

set_option autoImplicit false

namespace Emend.Diff

variable {α : Type}

/-- One step of an edit script: a run of tokens that is kept, deleted or inserted. -/
inductive Op (α : Type) where
  | equal (ts : List α)
  | delete (ts : List α)
  | insert (ts : List α)
  deriving DecidableEq, Repr

namespace Op

/-- The tokens that a step takes from the old list. -/
def source : Op α → List α
  | equal ts => ts
  | delete ts => ts
  | insert _ => []

/-- The tokens that a step leaves in the new list. -/
def target : Op α → List α
  | equal ts => ts
  | delete _ => []
  | insert ts => ts

/-- The tokens of a step. -/
def tokens : Op α → List α
  | equal ts => ts
  | delete ts => ts
  | insert ts => ts

end Op

/-- An edit script. -/
abbrev Script (α : Type) := List (Op α)

namespace Script

/-- The list that a script starts from. -/
def source (s : Script α) : List α := s.flatMap Op.source

/-- The list that a script arrives at. -/
def target (s : Script α) : List α := s.flatMap Op.target

@[simp] theorem source_append (s t : Script α) : source (s ++ t) = source s ++ source t :=
  List.flatMap_append

@[simp] theorem target_append (s t : Script α) : target (s ++ t) = target s ++ target t :=
  List.flatMap_append

/-- The script that keeps a run, with no step for an empty run. -/
def keep : List α → Script α
  | [] => []
  | ts => [.equal ts]

/-- The script that deletes a run, with no step for an empty run. -/
def erase : List α → Script α
  | [] => []
  | ts => [.delete ts]

/-- The script that inserts a run, with no step for an empty run. -/
def write : List α → Script α
  | [] => []
  | ts => [.insert ts]

end Script

/-! ## Common ends -/

variable [DecidableEq α]

/-- The number of tokens on which two lists agree from their starts. -/
def commonPrefix : List α → List α → Nat
  | x :: xs, y :: ys => if x = y then commonPrefix xs ys + 1 else 0
  | _, _ => 0

/-- The number of tokens on which two lists agree from their ends. -/
def commonSuffix (a b : List α) : Nat := commonPrefix a.reverse b.reverse

/-- Two lists split into their common prefix, their differing middles, and the common suffix of
what follows the prefix. -/
structure Core (α : Type) where
  before : List α
  old : List α
  new : List α
  after : List α

/-- Splits two lists into common ends and middles. -/
def core (a b : List α) : Core α :=
  let p := commonPrefix a b
  let a' := a.drop p
  let b' := b.drop p
  let s := commonSuffix a' b'
  { before := a.take p
    old := a'.take (a'.length - s)
    new := b'.take (b'.length - s)
    after := a'.drop (a'.length - s) }

theorem length_core_old_le (a b : List α) : (core a b).old.length ≤ a.length := by
  simp only [core, List.length_take, List.length_drop]
  omega

theorem length_core_new_le (a b : List α) : (core a b).new.length ≤ b.length := by
  simp only [core, List.length_take, List.length_drop]
  omega

end Emend.Diff
