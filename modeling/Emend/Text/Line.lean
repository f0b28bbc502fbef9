import Emend.Text.Basic

/-!
# Lines

A line ends at a line feed, at a carriage return, or at the two in sequence, and at nothing else.
What follows the last ending is always one more line, which may be empty: the text `a⏎` has two
lines and the empty text has one.

* `Text.lines` cuts a text into its `Line`s, each with the ending it had.
* `Text.placedLines` adds to each line the offset at which it starts, and `Text.offsetOfLine`,
  `Text.endOfLines` and `Text.lineOfOffset` convert between line numbers and offsets.
* `Text.diffTokens` are the lines that a line diff compares: all but an empty last line.

A line keeps its ending, and not only its content, so that a text can be put together again from its
lines whatever endings are mixed in it, and so that two lines which differ in their endings are
different tokens of a diff.
-/

set_option autoImplicit false

namespace Emend

/-- How a line ended. -/
inductive LineEnding where
  | lf
  | crlf
  | cr
  deriving DecidableEq, Repr

namespace LineEnding

/-- The characters of an ending. -/
def text : LineEnding → Text
  | lf => ['\n']
  | crlf => ['\r', '\n']
  | cr => ['\r']

/-- The short name of an ending. -/
def name : LineEnding → String
  | lf => "lf"
  | crlf => "crlf"
  | cr => "cr"

end LineEnding

/-- One line of a text: its content, and the ending that closed it.  Only the last line of a text
has none. -/
structure Line where
  content : Text
  ending : Option LineEnding
  deriving DecidableEq, Repr

namespace Line

/-- The content with its ending. -/
def text (l : Line) : Text := l.content ++ (l.ending.map LineEnding.text).getD []

/-- The number of bytes of a line, its ending included. -/
def byteLen (l : Line) : Nat := Text.byteLen l.text

end Line

/-- A line and the offset at which it starts. -/
structure PlacedLine where
  start : Nat
  line : Line
  deriving DecidableEq, Repr

namespace PlacedLine

/-- The offset just past the line and its ending. -/
def stop (l : PlacedLine) : Nat := l.start + l.line.byteLen

/-- Lays lines one behind the other from offset `start` on. -/
def place : Nat → List Line → List PlacedLine
  | _, [] => []
  | start, l :: ls => ⟨start, l⟩ :: place (start + l.byteLen) ls

end PlacedLine

namespace Text

/-! ## Cutting into lines -/

/-- The lines of a text. -/
def lines : Text → List Line
  | [] => [⟨[], none⟩]
  | '\n' :: t => ⟨[], some .lf⟩ :: lines t
  | '\r' :: '\n' :: t => ⟨[], some .crlf⟩ :: lines t
  | '\r' :: t => ⟨[], some .cr⟩ :: lines t
  | c :: t => (lines t).modifyHead fun l ↦ { l with content := c :: l.content }

/-- The number of lines. -/
def lineCount (t : Text) : Nat := (lines t).length

/-- The lines, each with its start offset. -/
def placedLines (t : Text) : List PlacedLine := PlacedLine.place 0 (lines t)

/-- The tokens of a line diff: the lines with their endings, without the empty line that follows
a final ending.  So `a⏎` and `a` are one token each, and differ in it. -/
def diffTokens (t : Text) : List Text :=
  ((lines t).map Line.text).filter fun l ↦ !l.isEmpty

/-! ## Line numbers and offsets

There are two ways from a line number to an offset, for the start of a part of a text and for its
end.  They are defined by different means, since the start looks for the line itself and the end
also for the line before. -/

/-- The offset at which line `i` starts.  The number of lines itself addresses the end of the
text. -/
def offsetOfLine (t : Text) (i : Nat) : Except TextError Nat :=
  match (placedLines t)[i]? with
  | some l => .ok l.start
  | none => if i = lineCount t then .ok (byteLen t) else .error (.lineOutOfRange i (lineCount t))

/-- The offset at which the first `i` lines end: where line `i` starts if there is one, and
otherwise where the line before it stops. -/
def endOfLines (t : Text) (i : Nat) : Except TextError Nat :=
  match (placedLines t)[i]?, i with
  | some l, _ => .ok l.start
  | none, 0 => .ok 0
  | none, j + 1 =>
    match (placedLines t)[j]? with
    | some previous => .ok previous.stop
    | none => .error (.lineOutOfRange (j + 1) (lineCount t))

/-- The line that an offset lies in: the last one that starts at or before it. -/
def lineOfOffset (t : Text) (offset : Nat) : Except TextError Nat :=
  if byteLen t < offset then .error (.offsetOutOfRange offset (byteLen t))
  else .ok (((placedLines t).takeWhile fun l ↦ l.start ≤ offset).length - 1)

end Text

end Emend
