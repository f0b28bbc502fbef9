import Emend.Text.Basic

/-!
# Punycode

Punycode writes a text in ASCII: first the ASCII characters of the text, then a hyphen, then digits
that say which other characters there are and where.  These are put in in ascending order, and each
is given by the distance to the one before it, a number whose digits have weights that adapt to the
numbers already read.

`Punycode.decode?` reads the text back.  The numbers on the way have at most 32 bits.
-/

set_option autoImplicit false

namespace Emend.Uri.Punycode

/-- The value of a digit: the letters stand for 0 to 25 and the digits for 26 to 35. -/
def digit? (c : Char) : Option Nat :=
  if c.isLower then some (c.toNat - 97)
  else if c.isUpper then some (c.toNat - 65)
  else if c.isDigit then some (c.toNat - 22)
  else none

/-- The numbers below this bound have 32 bits. -/
def numberLimit : Nat := 0x100000000

/-- A number, if it has 32 bits. -/
def bounded (n : Nat) : Option Nat := if n < numberLimit then some n else none

/-- The digits below this bound end a number, if they stand at a place. -/
def threshold (bias place : Nat) : Nat :=
  if place ≤ bias then 1 else if bias + 26 ≤ place then 26 else place - bias

/-- Reads a number, whose first digit stands at a place and has a weight, and adds it to `n`. -/
def number? (bias place weight n : Nat) : Text → Option (Nat × Text)
  | [] => none
  | c :: t => do
    let d ← digit? c
    let n ← bounded (n + (← bounded (d * weight)))
    if d < threshold bias place then return (n, t)
    else
      let weight ← bounded (weight * (36 - threshold bias place))
      number? bias (place + 36) weight n t

/-- Scales a distance down, and counts the places that this takes. -/
def scaleDown (fuel n place : Nat) : Nat × Nat :=
  match fuel with
  | 0 => (n, place)
  | fuel + 1 => if 455 < n then scaleDown fuel (n / 35) (place + 36) else (n, place)

/-- The bias for the next distance, after one in a text of so many characters. -/
def adapt (distance length : Nat) (isFirst : Bool) : Nat :=
  let n := if isFirst then distance / 700 else distance / 2
  let (n, place) := scaleDown 32 (n + n / length) 0
  place + 36 * n / (n + 38)

/-- A text that is being read. -/
structure Progress where
  text : Text
  /-- The character that was put in last, and the place behind it. -/
  codePoint : Nat
  position : Nat
  bias : Nat

/-- Before the first character is put in. -/
def Progress.start (text : Text) : Progress := ⟨text, 0x80, 0, 72⟩

/-- Puts in a character, given the place reached, counted over all code points up to it. -/
def Progress.insert? (p : Progress) (n : Nat) : Option Progress :=
  let length := p.text.length + 1
  let code := p.codePoint + n / length
  let position := n % length
  if code.isValidChar then
    some ⟨p.text.insertIdx position (Char.ofNat code), code, position + 1,
      adapt (n - p.position) length (p.position = 0)⟩
  else none

/-- Puts in the characters that digits describe.  Each takes one digit at least. -/
def insertAll? (fuel : Nat) (p : Progress) (digits : Text) : Option Text :=
  match fuel, digits with
  | _, [] => some p.text
  | 0, _ => none
  | fuel + 1, digits => do
    let (n, rest) ← number? p.bias 36 1 p.position digits
    insertAll? fuel (← p.insert? n) rest

/-- Reads a text back.  A hyphen at the very start separates nothing, and is no digit. -/
def decode? (t : Text) : Option Text :=
  let digits := (t.reverse.takeWhile (· ≠ '-')).reverse
  let plain := t.take (t.length - digits.length - 1)
  let digits := if plain.isEmpty then t else digits
  insertAll? digits.length (.start plain) digits

end Emend.Uri.Punycode
