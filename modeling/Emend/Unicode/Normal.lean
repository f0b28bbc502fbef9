import Emend.Unicode.CombiningClass
import Emend.Unicode.Decomposition

/-!
# Canonical form

Texts that differ only in how characters are written apart have one *canonical form*: everything is
written apart, marks are put in the order of their classes, and what can be put together again is.
`canonical` gives this form.
-/

set_option autoImplicit false

namespace Emend.Unicode

/-! ## Order of marks -/

/-- Puts a character behind a text in reverse order, in front of the marks of higher classes at its
end. -/
def placeMark (c : Char) : Text → Text
  | [] => [c]
  | d :: t =>
    if 0 < combiningClass c ∧ combiningClass c < combiningClass d then d :: placeMark c t
    else c :: d :: t

/-- A text written apart, with its marks in order. -/
def apart (t : Text) : Text :=
  ((t.flatMap decompose).foldl (fun done c ↦ placeMark c done) []).reverse

/-! ## Putting together

A mark goes into the last character of class zero in front of it, if the two have a composite and no
mark that stands in between keeps it out.  So a text that is being put together is held in three
parts, and each character either changes the middle one or joins the last. -/

/-- A text that is being put together. -/
structure Assembled where
  /-- What lies before the last starter, in reverse order. -/
  done : Text
  /-- The last starter. -/
  starter : Option Char
  /-- The marks behind it, in reverse order. -/
  marks : Text

namespace Assembled

/-- All characters, in reverse order. -/
def reversed (a : Assembled) : Text := a.marks ++ a.starter.toList ++ a.done

/-- The starter that a character goes into.  A mark of the same or a higher class in between keeps
it out. -/
def absorbed? (a : Assembled) (c : Char) : Option Char :=
  match a.marks with
  | m :: _ => if combiningClass c ≤ combiningClass m then none else a.starter.bind (compose? · c)
  | [] => a.starter.bind (compose? · c)

/-- Adds a character. -/
def push (a : Assembled) (c : Char) : Assembled :=
  match a.absorbed? c with
  | some d => { a with starter := some d }
  | none =>
    if combiningClass c = 0 then ⟨a.reversed, some c, []⟩ else { a with marks := c :: a.marks }

end Assembled

/-- The canonical form of a text. -/
def canonical (t : Text) : Text :=
  ((apart t).foldl Assembled.push ⟨[], none, []⟩).reversed.reverse

end Emend.Unicode
