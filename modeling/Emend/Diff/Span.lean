import Emend.Diff.Merge
import Emend.Interval

/-!
# Spans of change

A `Span` says that a run of old lines becomes a run of new lines.  It holds two `Interval`s of line
numbers and no text.

* `Span.kind` says what a span does, by which of its intervals are empty.
* `spansOf` reads the spans off an edit script, once its steps are merged.
* `splice?` carries spans out on two lists of tokens.
* `DiffStats` counts the lines that spans add and remove.

Spans that are read off a script are in order and apart from one another, but nothing in the type
says so.  Spans may be proposed by anybody, and what is done with them has to make do with any list
of them.
-/

set_option autoImplicit false

namespace Emend.Diff

variable {α : Type}

/-! ## Spans -/

/-- What a span does. -/
inductive SpanKind where
  | delete
  | insert
  | replace
  | empty
  deriving DecidableEq, Repr

/-- The name of a kind. -/
def SpanKind.name : SpanKind → String
  | delete => "delete"
  | insert => "insert"
  | replace => "replace"
  | empty => "empty"

/-- A region of change: the old lines that go and the new lines that take their place. -/
structure Span where
  old : Interval
  new : Interval
  deriving DecidableEq, Repr

/-- What a span does: a side without lines makes it an insertion or a deletion. -/
def Span.kind (s : Span) : SpanKind :=
  match s.old.isEmpty, s.new.isEmpty with
  | false, true => .delete
  | true, false => .insert
  | false, false => .replace
  | true, true => .empty

/-! ## Spans of a script -/

/-- Adds a step that changes something, from the places `x` and `y`, to spans in reverse order.
It extends the last span if that stops at these places. -/
def extendSpans (x y : Nat) (r : Run α) : List Span → List Span
  | [] => [⟨⟨x, x + r.source.length⟩, ⟨y, y + r.target.length⟩⟩]
  | last :: spans =>
    if last.old.stop = x ∧ last.new.stop = y then
      ⟨⟨last.old.start, x + r.source.length⟩, ⟨last.new.start, y + r.target.length⟩⟩ :: spans
    else ⟨⟨x, x + r.source.length⟩, ⟨y, y + r.target.length⟩⟩ :: last :: spans

/-- Reads spans off merged steps whose two sides have come to `x` and `y`, behind the spans read so
far, which are in reverse order. -/
def spansFrom (x y : Nat) (found : List Span) : List (Run α) → List Span
  | [] => found.reverse
  | r :: rs =>
    let found := match r with
      | .kept _ => found
      | .changed _ _ => extendSpans x y r found
    spansFrom (x + r.source.length) (y + r.target.length) found rs

/-- The spans of a script. -/
def spansOf (s : Script α) : List Span := spansFrom 0 0 [] s.merge

/-! ## Carrying spans out -/

/-- The tokens of an interval, if it lies within the list. -/
def slice? (r : Interval) (ts : List α) : Option (List α) :=
  if r.start ≤ r.stop ∧ r.stop ≤ ts.length then some ((ts.take r.stop).drop r.start) else none

/-- The old tokens from number `cursor` on with those of each span replaced by new ones.  There is
no answer for spans that go backwards or lie outside the lists. -/
def spliceFrom? (old new : List α) (cursor : Nat) : List Span → Option (List α)
  | [] => slice? ⟨cursor, old.length⟩ old
  | s :: spans => do
    let kept ← slice? ⟨cursor, s.old.start⟩ old
    let inserted ← slice? s.new new
    let rest ← spliceFrom? old new s.old.stop spans
    return kept ++ inserted ++ rest

/-- The old tokens with those of each span replaced by new ones. -/
def splice? (old new : List α) (spans : List Span) : Option (List α) :=
  spliceFrom? old new 0 spans

/-! ## Counts -/

/-- The sum of two words, or the largest word if it does not fit. -/
def saturatingAdd (a b : UInt32) : UInt32 :=
  if a.toNat + b.toNat < 0x100000000 then a + b else 0xffffffff

/-- How many lines spans add and remove. -/
structure DiffStats where
  additions : UInt32
  deletions : UInt32
  deriving DecidableEq, Repr

namespace DiffStats

instance : Inhabited DiffStats := ⟨⟨0, 0⟩⟩

/-- Whether nothing is added or removed. -/
def isEmpty (s : DiffStats) : Bool := s.additions = 0 && s.deletions = 0

/-- Counts one more span.  The length of each side is cut to a word before it is added. -/
def add (s : DiffStats) (span : Span) : DiffStats :=
  ⟨saturatingAdd s.additions span.new.length.toUInt32,
    saturatingAdd s.deletions span.old.length.toUInt32⟩

/-- The counts of all spans together. -/
def ofSpans (spans : List Span) : DiffStats := spans.foldl add ⟨0, 0⟩

end DiffStats

end Emend.Diff
