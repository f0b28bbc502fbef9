import Emend.Text.Line

/-!
# Positions: a line and a column

An editor addresses text by line and column.  A column counts the units of a `PositionEncoding`
(bytes, UTF-16 units or characters) from the start of the line.

* `PositionEncoding.columnOf` measures a text, `PositionEncoding.offsetOfColumn` finds the offset
  that a column addresses.
* `Position` and `Range` are the pairs and their spans; `Position` is ordered by line, then column.
* `Text.positionOfOffset` and `Text.offsetOfPosition` convert between the two ways to address a
  text.

Lines and columns are 32-bit words, and a count that does not fit is cut to its low 32 bits.  So
positions are exact for texts of fewer bytes than that, and results about them have a hypothesis on
the length of the text.  Offsets have no such bound.
-/

set_option autoImplicit false

namespace Emend

/-! ## Columns -/

/-- The unit in which columns count. -/
inductive PositionEncoding where
  | utf8
  | utf16
  | utf32
  deriving DecidableEq, Repr

namespace PositionEncoding

instance : Inhabited PositionEncoding := ⟨utf32⟩

/-- The name an encoding goes by between editor and server. -/
def name : PositionEncoding → String
  | utf8 => "utf-8"
  | utf16 => "utf-16"
  | utf32 => "utf-32"

/-- The number of units that one character takes. -/
def charWidth (e : PositionEncoding) (c : Char) : Nat :=
  match e with
  | utf8 => c.utf8Size
  | utf16 => if c.val < 0x10000 then 1 else 2
  | utf32 => 1

/-- The number of units that a text takes. -/
def width (e : PositionEncoding) : Text → Nat
  | [] => 0
  | c :: t => e.charWidth c + e.width t

/-- The column reached after a text. -/
def columnOf (e : PositionEncoding) (t : Text) : UInt32 := (e.width t).toUInt32

/-- The offset in a line at which a column lies.  A column inside a character of several units
addresses the start of that character, and one past the end the end of the line. -/
def offsetOfColumn (e : PositionEncoding) : Text → Nat → Nat
  | [], _ => 0
  | c :: t, column =>
    if e.charWidth c ≤ column then c.utf8Size + e.offsetOfColumn t (column - e.charWidth c) else 0

end PositionEncoding

/-! ## Positions and ranges -/

/-- A line and a column, both counted from zero. -/
structure Position where
  line : UInt32
  character : UInt32
  deriving DecidableEq, Repr, Inhabited

namespace Position

/-- The first position of every text. -/
def origin : Position := ⟨0, 0⟩

/-- Whether one position comes before another: by line first, by column within a line. -/
protected def Before (p q : Position) : Prop :=
  p.line < q.line ∨ p.line = q.line ∧ p.character < q.character

instance : LT Position := ⟨Position.Before⟩

instance : LE Position := ⟨fun p q ↦ ¬ q < p⟩

instance (p q : Position) : Decidable (p < q) :=
  inferInstanceAs (Decidable (p.line < q.line ∨ p.line = q.line ∧ p.character < q.character))

instance (p q : Position) : Decidable (p ≤ q) := inferInstanceAs (Decidable (¬ q < p))

/-- The three-way comparison of two positions. -/
def compare (p q : Position) : Ordering :=
  if p < q then .lt else if q < p then .gt else .eq

/-- Line and column, with a colon between them. -/
def display (p : Position) : String := s!"{p.line}:{p.character}"

end Position

/-- The part of a document between two positions. -/
structure Range where
  start : Position
  stop : Position
  deriving DecidableEq, Repr, Inhabited

namespace Range

/-- The range between two positions, given in either order. -/
def between (p q : Position) : Range := if q < p then ⟨q, p⟩ else ⟨p, q⟩

/-- The range of zero width at a position. -/
def point (p : Position) : Range := ⟨p, p⟩

/-- Whether a range has zero width. -/
def isEmpty (r : Range) : Bool := r.start = r.stop

/-- The two ends, with a dash between them. -/
def display (r : Range) : String := s!"{r.start.display}-{r.stop.display}"

end Range

/-! ## Positions and offsets

A position is not checked in the way an offset is.  Its line has to exist, but its column may be
anything: one inside a character addresses the start of that, and one that is too large the end of
the content. -/

namespace Text

/-- The position of an offset. -/
def positionOfOffset (t : Text) (e : PositionEncoding) (offset : Nat) :
    Except TextError Position := do
  checkOffset t offset
  let line ← lineOfOffset t offset
  let start ← offsetOfLine t line
  return ⟨line.toUInt32, e.columnOf (between t start offset)⟩

/-- The offset of a position.  A column past the end of the line's content addresses the end of
the content. -/
def offsetOfPosition (t : Text) (e : PositionEncoding) (p : Position) : Except TextError Nat :=
  match (placedLines t)[p.line.toNat]? with
  | some l => .ok (l.start + e.offsetOfColumn l.line.content p.character.toNat)
  | none => .error (.lineOutOfRange p.line.toNat (lineCount t))

/-- The position just past the last character. -/
def endPosition (t : Text) (e : PositionEncoding) : Position :=
  match (placedLines t).getLast? with
  | some l => ⟨(lineCount t - 1).toUInt32, e.columnOf (dropBytes l.start t)⟩
  | none => .origin

end Text

end Emend
