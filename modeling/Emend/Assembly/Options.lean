import Emend.Change.Wire

/-!
# Options of an assembly

How edits are found and how they are put.
-/

set_option autoImplicit false

namespace Emend

/-- How an update puts its edits. -/
inductive EditMode where
  /-- One edit for each region of changed lines. -/
  | diff
  /-- One edit that replaces the document. -/
  | wholeDocument
  deriving DecidableEq, Repr

namespace EditMode

instance : Inhabited EditMode := ⟨diff⟩

/-- The name of a mode. -/
def name : EditMode → String
  | diff => "diff"
  | wholeDocument => "whole-document"

/-- The modes by name, in the order in which messages list them. -/
def variants : List (String × EditMode) := [diff, wholeDocument].map fun m ↦ (m.name, m)

/-- Reads the name of a mode. -/
def ofJson : Decoder EditMode := Decoder.enumeration variants Decoder.unit

end EditMode

/-- How edits are found and put. -/
structure AssembleOptions where
  algorithm : Diff.Algorithm
  encoding : PositionEncoding
  mode : EditMode
  /-- The annotation of every edit, and its id. -/
  stamp : Option (String × AnnotationDetails)
  deriving DecidableEq, Repr, Inhabited

/-- The id that every edit carries. -/
def AssembleOptions.annotationId (o : AssembleOptions) : Option String := o.stamp.map Prod.fst

end Emend
