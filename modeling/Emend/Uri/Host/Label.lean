import Emend.Unicode.Direction
import Emend.Unicode.Joining
import Emend.Unicode.Normal
import Emend.Uri.Host.Mapping
import Emend.Uri.Host.Punycode

/-!
# Labels

The name of a host is made of *labels*, with dots between them.  A label beyond ASCII can be written
in ASCII, by Punycode behind `xn--`, and `decodeLabel?` undoes that.

A label does not start with a mark (`isLabel`), and its invisible joiners stand only where they make
a difference (`joinersFit`).  Where scripts of both directions can meet, each label keeps to one
direction (`keepsDirection`).
-/

set_option autoImplicit false

namespace Emend.Uri

open Unicode

/-! ## Encoded labels -/

/-- Whether a text has ASCII characters only. -/
def isAscii (t : Text) : Bool := t.all fun c ↦ c.toNat < 0x80

/-- The number of characters that an encoded label may have behind its mark. -/
def encodedLimit : Nat := 2000

/-- The number of characters that a label beyond ASCII may have. -/
def plainLimit : Nat := 1000

/-- The text that an encoded label stands for, which is beyond ASCII and in the one form that a
label has. -/
def decodeCode? (code : Text) : Option Text :=
  if encodedLimit < code.length ∨ !isAscii code then none
  else
    (Punycode.decode? code).filter fun t ↦
      !isAscii t && t.all isPlainHostChar && canonical t = t

/-- The text that a label stands for. -/
def decodeLabel? : Text → Option Text
  | 'x' :: 'n' :: '-' :: '-' :: code => decodeCode? code
  | label => if plainLimit < label.length ∧ !isAscii label then none else some label

/-! ## Joiners -/

/-- The invisible character that keeps letters from touching. -/
def nonJoiner : Char := '\u200c'

/-- The invisible character that makes letters touch. -/
def joiner : Char := '\u200d'

/-- Whether letters touch at the place between a text in reverse order and another one. -/
def touchesAt (before after : Text) : Bool :=
  ((before.dropWhile isTransparent).head?.any joinsBehind) &&
    ((after.dropWhile isTransparent).head?.any joinsBefore)

/-- Whether a joiner makes a difference at the place between a text in reverse order and another
one: behind a mark that suppresses a vowel, or, to keep letters from touching, where they would. -/
def joinerFits (c : Char) (before after : Text) : Bool :=
  before.head?.any (fun d ↦ combiningClass d = viramaClass) ||
    (c = nonJoiner && touchesAt before after)

/-- Whether all joiners of a text make a difference, behind another text in reverse order. -/
def joinersFit (before : Text) : Text → Bool
  | [] => true
  | c :: t =>
    ((c ≠ nonJoiner && c ≠ joiner) || joinerFits c before t) && joinersFit (c :: before) t

/-- Whether a text is a label. -/
def isLabel (t : Text) : Bool := !t.head?.any isMark && joinersFit [] t

/-! ## Direction -/

/-- Whether a text has characters that run from right to left. -/
def runsBackward (t : Text) : Bool :=
  t.any fun c ↦ directionOf c = .rightToLeft || directionOf c = .arabicNumber

/-- Whether a label keeps to the direction that it starts with, up to its end. -/
def keepsDirection (label : Text) : Bool :=
  let directions := label.map directionOf
  let last := (directions.reverse.dropWhile (· = .mark)).head?
  match directions with
  | [] => true
  | .rightToLeft :: _ =>
    !directions.contains .leftToRight && last ≠ some .neutral &&
      !(directions.contains .europeanNumber && directions.contains .arabicNumber)
  | .leftToRight :: _ =>
    !directions.contains .rightToLeft && !directions.contains .arabicNumber && last ≠ some .neutral
  | _ => false

end Emend.Uri
