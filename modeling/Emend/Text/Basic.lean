/-!
# Texts addressed by byte offset

A `Text` is a list of characters, and every offset into it counts bytes of its UTF-8 form.  An
offset is a *character boundary* when it is the length of some prefix.  This module holds

* `Text.byteLen`, the length of a text, and `Text.isBoundary`, the boundary test;
* `Text.takeBytes` and `Text.dropBytes`, which cut a text at an offset (`takeBytes_append_dropBytes`
  says that nothing is lost), and `Text.between`, the part between two offsets;
* `TextError`, the ways a reference into a text can fail, with `Text.checkOffset` and
  `Text.slice`, which report them.

An offset that is no boundary is cut at the boundary below it, so cutting is total; the checked
operations refuse such an offset.
-/

set_option autoImplicit false

namespace Emend

/-- A text, as the list of its characters. -/
abbrev Text := List Char

/-- A reference to a line or an offset that falls outside the text it addresses. -/
inductive TextError where
  | lineOutOfRange (line lineCount : Nat)
  | offsetOutOfRange (offset len : Nat)
  | notCharBoundary (offset : Nat)
  | invertedRange (start stop : Nat)
  deriving DecidableEq, Repr

/-- The sentence shown for a failed reference. -/
def TextError.message : TextError → String
  | .lineOutOfRange line n => s!"line {line} out of range (text has {n} lines)"
  | .offsetOutOfRange offset len => s!"offset {offset} out of range (text length {len})"
  | .notCharBoundary offset => s!"offset {offset} is not on a character boundary"
  | .invertedRange start stop => s!"range {start}..{stop} ends before it starts"

namespace Text

/-! ## Length and boundaries -/

/-- The number of bytes of the UTF-8 form. -/
def byteLen : Text → Nat
  | [] => 0
  | c :: t => c.utf8Size + byteLen t

@[simp] theorem byteLen_nil : byteLen [] = 0 := rfl

@[simp] theorem byteLen_cons (c : Char) (t : Text) :
    byteLen (c :: t) = c.utf8Size + byteLen t := rfl

@[simp] theorem byteLen_append (s t : Text) : byteLen (s ++ t) = byteLen s + byteLen t := by
  induction s with
  | nil => simp
  | cons c s ih => simp [ih, Nat.add_assoc]

/-- Whether an offset is the byte length of some prefix of the text. -/
def isBoundary : Text → Nat → Bool
  | _, 0 => true
  | [], _ + 1 => false
  | c :: t, n + 1 => c.utf8Size ≤ n + 1 && isBoundary t (n + 1 - c.utf8Size)

/-! ## Cutting -/

/-- The characters that lie wholly within the first `n` bytes. -/
def takeBytes : Nat → Text → Text
  | _, [] => []
  | n, c :: t => if c.utf8Size ≤ n then c :: takeBytes (n - c.utf8Size) t else []

/-- What follows `takeBytes n`. -/
def dropBytes : Nat → Text → Text
  | _, [] => []
  | n, c :: t => if c.utf8Size ≤ n then dropBytes (n - c.utf8Size) t else c :: t

@[simp] theorem takeBytes_append_dropBytes (n : Nat) (t : Text) :
    takeBytes n t ++ dropBytes n t = t := by
  induction t generalizing n with
  | nil => rfl
  | cons c t ih => by_cases h : c.utf8Size ≤ n <;> simp [takeBytes, dropBytes, h, ih]

/-- The part of the text from offset `start` to offset `stop`. -/
def between (t : Text) (start stop : Nat) : Text :=
  takeBytes (stop - start) (dropBytes start t)

/-! ## Checked references

An error names what is wrong with a reference, and so the order of checks shows in it: the two ends
of a slice are looked at one after the other, and only two good ones are compared. -/

/-- Refuses an offset past the end of the text or inside a character. -/
def checkOffset (t : Text) (offset : Nat) : Except TextError Unit :=
  if byteLen t < offset then .error (.offsetOutOfRange offset (byteLen t))
  else if isBoundary t offset then .ok ()
  else .error (.notCharBoundary offset)

/-- The part of the text from `start` to `stop`.  The two offsets are checked first, in this
order, and their own order last. -/
def slice (t : Text) (start stop : Nat) : Except TextError Text := do
  checkOffset t start
  checkOffset t stop
  if stop < start then .error (.invertedRange start stop) else .ok (between t start stop)

end Text

end Emend
