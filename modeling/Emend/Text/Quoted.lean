import Emend.Text.Basic
import Emend.Text.Hidden

/-!
# Quoted text

The form in which messages show a text: between quotes, with an escape for every character that a
reader could not see or would misread.
-/

set_option autoImplicit false

namespace Emend.Text

/-- A character as it stands between quotes. -/
def escaped (c : Char) : Text :=
  match c with
  | '\x00' => ['\\', '0']
  | '\t' => ['\\', 't']
  | '\r' => ['\\', 'r']
  | '\n' => ['\\', 'n']
  | '\\' => ['\\', '\\']
  | '"' => ['\\', '"']
  | c =>
    if isHidden c then "\\u\x7b".toList ++ Nat.toDigits 16 c.toNat ++ ['\x7d'] else [c]

/-- A text between quotes. -/
def quoted (t : Text) : String := String.ofList ('"' :: t.flatMap escaped ++ ['"'])

end Emend.Text
