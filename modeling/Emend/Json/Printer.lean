import Emend.Json.Value
import Emend.Text.Basic

/-!
# Printing JSON

A value is printed either in one line (`Json.compact`) or with every item and member in a line of
its own, indented by two blanks for each level (`Json.pretty`).  Members stand in the order in which
the value holds them.  Strings keep all characters but quotes, backslashes and the controls below
the blank, which are escaped.
-/

set_option autoImplicit false

namespace Emend.Json

/-- The hexadecimal digit, in lower case, of a number below sixteen. -/
def hexDigit (n : Nat) : Char := if n < 10 then Char.ofNat (48 + n) else Char.ofNat (87 + n)

/-- A character as it stands in a string. -/
def escape (c : Char) : Text :=
  match c with
  | '"' => ['\\', '"']
  | '\\' => ['\\', '\\']
  | '\x08' => ['\\', 'b']
  | '\x0c' => ['\\', 'f']
  | '\n' => ['\\', 'n']
  | '\r' => ['\\', 'r']
  | '\t' => ['\\', 't']
  | c =>
    if c.toNat < 0x20 then ['\\', 'u', '0', '0', hexDigit (c.toNat / 16), hexDigit (c.toNat % 16)]
    else [c]

/-- A string between quotes. -/
def quote (s : String) : String := String.ofList ('"' :: s.toList.flatMap escape ++ ['"'])

mutual

/-- A value in one line. -/
def compact : Json → String
  | null => "null"
  | bool b => if b then "true" else "false"
  | int i => toString i
  | float x => x.text
  | str s => quote s
  | arr xs => "[" ++ ",".intercalate (compactItems xs) ++ "]"
  | obj ms => "\x7b" ++ ",".intercalate (compactMembers ms) ++ "\x7d"

/-- Each item of an array in one line. -/
def compactItems : List Json → List String
  | [] => []
  | x :: xs => compact x :: compactItems xs

/-- Each member of an object in one line. -/
def compactMembers : List (String × Json) → List String
  | [] => []
  | (k, x) :: ms => (quote k ++ ":" ++ compact x) :: compactMembers ms

end

/-- A line break and the indentation of a level. -/
def newline (level : Nat) : String := String.ofList ('\n' :: List.replicate (2 * level) ' ')

/-- Parts on lines of their own between brackets, or just the brackets if there are none. -/
def block (left right : String) (level : Nat) (parts : List String) : String :=
  if parts.isEmpty then left ++ right
  else
    left ++ newline (level + 1) ++ ("," ++ newline (level + 1)).intercalate parts ++
      newline level ++ right

mutual

/-- A value over several lines, within a level of indentation. -/
def prettyAt (level : Nat) : Json → String
  | arr xs => block "[" "]" level (prettyItems (level + 1) xs)
  | obj ms => block "\x7b" "\x7d" level (prettyMembers (level + 1) ms)
  | null => "null"
  | bool b => if b then "true" else "false"
  | int i => toString i
  | float x => x.text
  | str s => quote s

/-- The items of an array, each over several lines. -/
def prettyItems (level : Nat) : List Json → List String
  | [] => []
  | x :: xs => prettyAt level x :: prettyItems level xs

/-- The members of an object, each over several lines. -/
def prettyMembers (level : Nat) : List (String × Json) → List String
  | [] => []
  | (k, x) :: ms => (quote k ++ ": " ++ prettyAt level x) :: prettyMembers level ms

end

/-- A value over several lines. -/
def pretty (j : Json) : String := prettyAt 0 j

end Emend.Json
