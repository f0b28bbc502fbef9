import Emend.Change.Basic
import Emend.Diff.Span
import Emend.Edit.Error

/-!
# What an assembly tells

Besides the workspace edit itself, an assembly reports on each file it dealt with, and names the
files that it had to leave out.
-/

set_option autoImplicit false

namespace Emend

/-- Where the text came from that an update addresses. -/
inductive ContentSource where
  /-- The buffer of an editor, at a version. -/
  | liveSnapshot (version : Int32)
  /-- The refactoring engine. -/
  | supplied
  /-- The loader. -/
  | loaded
  /-- Nowhere, for a new file. -/
  | created
  /-- It is gone. -/
  | deleted
  deriving DecidableEq, Repr

/-- The name of a source. -/
def ContentSource.name : ContentSource → String
  | liveSnapshot _ => "live_snapshot"
  | supplied => "supplied"
  | loaded => "loaded"
  | created => "created"
  | deleted => "deleted"

/-- What was done with one file. -/
structure FileReport where
  uri : String
  source : ContentSource
  spans : Nat
  droppedSpans : Nat
  stats : Diff.DiffStats
  deriving DecidableEq, Repr

/-- The report on a file that is created or deleted. -/
def FileReport.ofResource (uri : String) (source : ContentSource) : FileReport :=
  ⟨uri, source, 0, 0, ⟨0, 0⟩⟩

/-- A file that was left out, and why. -/
structure FileProblem where
  uri : String
  error : EditError
  deriving DecidableEq, Repr

/-- The result of an assembly. -/
structure AssembledEdit where
  edit : WorkspaceEdit
  problems : List FileProblem
  reports : List FileReport
  deriving DecidableEq

namespace AssembledEdit

/-- Whether a file was left out. -/
def isPartial (a : AssembledEdit) : Bool := !a.problems.isEmpty

/-- The number of spans that could not be projected, in all files. -/
def droppedSpans (a : AssembledEdit) : Nat :=
  a.reports.foldr (fun r n ↦ r.droppedSpans + n) 0

end AssembledEdit

end Emend
