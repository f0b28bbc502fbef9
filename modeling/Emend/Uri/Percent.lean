import Emend.Text.Utf8

/-!
# Percent escapes

A URI spells bytes that it cannot hold as `%` and two hexadecimal digits.  `percentEncode` spells
the bytes of a set so, and `percentDecode` takes every such spelling back; a `%` that two digits do
not follow stands for itself.  Texts become bytes by UTF-8.
-/

set_option autoImplicit false

namespace Emend.Uri

/-- The hexadecimal digit, in upper case, of a number below sixteen. -/
def hexDigit (n : Nat) : Char := if n < 10 then Char.ofNat (48 + n) else Char.ofNat (55 + n)

/-- The value of a hexadecimal digit of either case. -/
def hexValue? (b : UInt8) : Option UInt8 :=
  if 48 ≤ b ∧ b ≤ 57 then some (b - 48)
  else if 65 ≤ b ∧ b ≤ 70 then some (b - 55)
  else if 97 ≤ b ∧ b ≤ 102 then some (b - 87)
  else none

/-- Spells a byte as an escape if it is in a set, and otherwise as the character it is. -/
def percentEncodeByte (escaped : UInt8 → Bool) (b : UInt8) : Text :=
  if escaped b then ['%', hexDigit (b.toNat / 16), hexDigit (b.toNat % 16)]
  else [Char.ofNat b.toNat]

/-- Spells the bytes of a text, those of a set as escapes. -/
def percentEncode (escaped : UInt8 → Bool) (t : Text) : Text :=
  t.utf8.flatMap (percentEncodeByte escaped)

/-- Replaces each escape by the byte it spells. -/
def percentDecode : Bytes → Bytes
  | 37 :: a :: b :: rest =>
    match hexValue? a, hexValue? b with
    | some x, some y => (x * 16 + y) :: percentDecode rest
    | _, _ => 37 :: percentDecode (a :: b :: rest)
  | b :: rest => b :: percentDecode rest
  | [] => []

end Emend.Uri
