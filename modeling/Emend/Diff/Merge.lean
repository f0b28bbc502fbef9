import Emend.Diff.Script

/-!
# Merged scripts

The steps of a script are merged before spans are read off it: kept runs that touch become one, and
so do all the changes between two kept runs.  A merged script alternates between the two.
-/

set_option autoImplicit false

namespace Emend.Diff

variable {α : Type}

/-- One step of a merged script: a run that is kept, or all that changes between two such runs. -/
inductive Run (α : Type) where
  | kept (ts : List α)
  | changed (old new : List α)
  deriving DecidableEq, Repr

namespace Run

/-- The tokens that a step takes from the old list. -/
def source : Run α → List α
  | kept ts => ts
  | changed old _ => old

/-- The tokens that a step leaves in the new list. -/
def target : Run α → List α
  | kept ts => ts
  | changed _ new => new

/-- Adds kept tokens in front of merged steps. -/
def keep (ts : List α) : List (Run α) → List (Run α)
  | kept us :: rs => kept (ts ++ us) :: rs
  | rs => kept ts :: rs

/-- Adds a change in front of merged steps. -/
def change (old new : List α) : List (Run α) → List (Run α)
  | changed old' new' :: rs => changed (old ++ old') (new ++ new') :: rs
  | rs => changed old new :: rs

end Run

/-- The merged steps of a script. -/
def Script.merge : Script α → List (Run α)
  | [] => []
  | .equal ts :: s => Run.keep ts (merge s)
  | .delete ts :: s => Run.change ts [] (merge s)
  | .insert ts :: s => Run.change [] ts (merge s)

end Emend.Diff
