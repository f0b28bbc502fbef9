import Emend.Diff.Span
import Emend.Edit.Basic
import Emend.Text.Line

/-!
# From spans of lines to edits of bytes

A span between two texts becomes an edit of the old one.  Where the span holds old lines, the edit
runs from the start of the first to where the last one stops; new lines are cut out of the new
text in the same way.  A span that reaches outside a text cannot be projected, and is dropped.
-/

set_option autoImplicit false

namespace Emend

open Diff

namespace Interval

/-- The offsets at which a run of lines starts and ends. -/
def offsets (r : Interval) (t : Text) : Except TextError (Nat × Nat) := do
  let start ← t.offsetOfLine r.start
  let stop ← t.endOfLines r.stop
  return (start, stop)

/-- The text of a run of lines. -/
def textOf (r : Interval) (t : Text) : Except TextError Text := do
  let (start, stop) ← r.offsets t
  t.slice start stop

end Interval

/-- A span that could not be projected, and why. -/
structure DroppedSpan where
  span : Span
  error : TextError
  deriving DecidableEq, Repr

/-- The edits that spans become, and the spans that become none. -/
structure Projection where
  edits : List OffsetEdit
  dropped : List DroppedSpan
  deriving DecidableEq, Repr

namespace Diff.Span

/-- The edit of the old text that a span amounts to.  An empty span amounts to none. -/
def project (s : Span) (old new : Text) : Except TextError (Option OffsetEdit) :=
  match s.kind with
  | .empty => .ok none
  | .delete => do
    let (start, stop) ← s.old.offsets old
    return some ⟨start, stop, []⟩
  | .insert => do
    let start ← old.offsetOfLine s.old.start
    let text ← s.new.textOf new
    return some ⟨start, start, text⟩
  | .replace => do
    let (start, stop) ← s.old.offsets old
    let text ← s.new.textOf new
    return some ⟨start, stop, text⟩

end Diff.Span

namespace Projection

/-- The projection with one more span in front. -/
def add (p : Projection) (s : Span) (result : Except TextError (Option OffsetEdit)) : Projection :=
  match result with
  | .ok (some e) => { p with edits := e :: p.edits }
  | .ok none => p
  | .error error => { p with dropped := ⟨s, error⟩ :: p.dropped }

/-- Projects spans between two texts, each for itself. -/
def ofSpans (old new : Text) : List Span → Projection
  | [] => ⟨[], []⟩
  | s :: ss => (ofSpans old new ss).add s (s.project old new)

end Projection

end Emend
