import Emend.Text.Basic

/-!
# Edits by byte offset

An `OffsetEdit` replaces the bytes of a text between two offsets.  A list of edits that all address
one text can be carried out at once if no two of them overlap: `inOrder` sorts such a list, or finds
a pair that overlaps, and `render` writes the edited text.
-/

set_option autoImplicit false

namespace Emend

/-- Replaces the text from offset `start` to offset `stop`. -/
structure OffsetEdit where
  start : Nat
  stop : Nat
  text : Text
  deriving DecidableEq, Repr

namespace OffsetEdit

/-- Whether an edit replaces nothing by nothing. -/
def isNoop (e : OffsetEdit) : Bool := e.start = e.stop && e.text.isEmpty

/-- Whether an edit may stand before another: by start, then by end. -/
def precedes (e f : OffsetEdit) : Bool :=
  e.start < f.start || (e.start = f.start && e.stop ≤ f.stop)

/-- The first neighbours in a list of which the second starts before the first stops. -/
def overlap? : List OffsetEdit → Option (OffsetEdit × OffsetEdit)
  | e :: f :: es => if f.start < e.stop then some (e, f) else overlap? (f :: es)
  | _ => none

/-- Edits in the order of their places, where those at one place keep their order, or two that
overlap. -/
def inOrder (es : List OffsetEdit) : Except (OffsetEdit × OffsetEdit) (List OffsetEdit) :=
  let sorted := es.mergeSort precedes
  match overlap? sorted with
  | some pair => .error pair
  | none => .ok sorted

/-- The text between two offsets, with edits in order carried out. -/
def renderBetween (content : Text) (cursor stop : Nat) : List OffsetEdit → Text
  | [] => content.between cursor stop
  | e :: es => content.between cursor e.start ++ e.text ++ renderBetween content e.stop stop es

/-- A text with edits in order carried out. -/
def render (content : Text) (es : List OffsetEdit) : Text :=
  renderBetween content 0 content.byteLen es

end OffsetEdit

end Emend
