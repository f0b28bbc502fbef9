import Emend.Text.Basic

/-!
# The form of a JSON text

Reading a JSON text has two stages.  The first, in this module, sees only its form: a `RawJson` is
the tree of a text as it is written, with every member of every object in its place, with numbers as
digits and with string escapes not yet put together.  A text without such a tree is no JSON at all.
The second stage, which asks for the values of numbers and strings, may still fail where the form is
right; a part of the text that nobody asks for never fails there.

* `RawJson.string?` and `RawJson.numeral?` read what has no tree within it, from left to right.
* `RawJson.value?`, `RawJson.items?` and `RawJson.members?` read trees, each behind the blanks in
  front of it, and return what is left of the text.
* `RawJson.parse?` reads a whole text.
-/

set_option autoImplicit false

namespace Emend

/-! ## The tree -/

/-- A number as it is written: sign, digits before the point, digits behind it, and an exponent
with its sign. -/
structure Numeral where
  negative : Bool
  whole : List Nat
  fraction : Option (List Nat)
  exponent : Option (Bool × List Nat)
  deriving DecidableEq, Repr, Inhabited

/-- A piece of a string as it is written: a character, or a code unit given by its number. -/
inductive StringPiece where
  | char (c : Char)
  | unit (u : Nat)
  deriving DecidableEq, Repr

/-- A JSON text as it is written. -/
inductive RawJson where
  | null
  | bool (b : Bool)
  | number (n : Numeral)
  | string (ps : List StringPiece)
  | array (items : List RawJson)
  | object (members : List (List StringPiece × RawJson))
  deriving Repr, Inhabited

namespace RawJson

/-! ## Blanks, digits and strings -/

/-- The characters that may stand between the parts of a text. -/
def isBlank (c : Char) : Bool := c = ' ' || c = '\t' || c = '\n' || c = '\r'

/-- The text behind leading blanks. -/
def skipBlanks (t : Text) : Text := t.dropWhile isBlank

/-- The value of a decimal digit. -/
def digit? (c : Char) : Option Nat :=
  if '0' ≤ c ∧ c ≤ '9' then some (c.toNat - '0'.toNat) else none

/-- The leading digits of a text, and what follows them. -/
def digits : Text → List Nat × Text
  | [] => ([], [])
  | c :: t =>
    match digit? c with
    | some d => let (ds, rest) := digits t; (d :: ds, rest)
    | none => ([], c :: t)

/-- The value of a hexadecimal digit of either case. -/
def hexDigit? (c : Char) : Option Nat :=
  if '0' ≤ c ∧ c ≤ '9' then some (c.toNat - '0'.toNat)
  else if 'a' ≤ c ∧ c ≤ 'f' then some (c.toNat - 'a'.toNat + 10)
  else if 'A' ≤ c ∧ c ≤ 'F' then some (c.toNat - 'A'.toNat + 10)
  else none

/-- The character that a one-letter escape stands for. -/
def escape? : Char → Option Char
  | '"' => some '"'
  | '\\' => some '\\'
  | '/' => some '/'
  | 'b' => some '\x08'
  | 'f' => some '\x0c'
  | 'n' => some '\n'
  | 'r' => some '\r'
  | 't' => some '\t'
  | _ => none

/-- Reads a string behind its opening quote, up to and with the closing one. -/
def string? : Text → Option (List StringPiece × Text)
  | '"' :: t => some ([], t)
  | '\\' :: 'u' :: a :: b :: c :: d :: t => do
    let high := (← hexDigit? a) * 16 + (← hexDigit? b)
    let low := (← hexDigit? c) * 16 + (← hexDigit? d)
    let (ps, rest) ← string? t
    return (.unit (high * 256 + low) :: ps, rest)
  | '\\' :: c :: t => do
    let e ← escape? c
    let (ps, rest) ← string? t
    return (.char e :: ps, rest)
  | c :: t => do
    if c = '\\' ∨ c.toNat < 0x20 then none
    else
      let (ps, rest) ← string? t
      return (.char c :: ps, rest)
  | [] => none

/-! ## Numbers -/

/-- Reads the digits of an exponent behind its mark, with an optional sign. -/
def exponent? (t : Text) : Option ((Bool × List Nat) × Text) :=
  let (negative, t) := match t with
    | '-' :: t => (true, t)
    | '+' :: t => (false, t)
    | t => (false, t)
  match digits t with
  | ([], _) => none
  | (ds, rest) => some ((negative, ds), rest)

/-- Reads a number.  A whole part with more than one digit does not start with a zero. -/
def numeral? (t : Text) : Option (Numeral × Text) := do
  let (negative, t) := match t with
    | '-' :: t => (true, t)
    | t => (false, t)
  let (whole, t) ← match digits t with
    | ([], _) => none
    | (0 :: _ :: _, _) => none
    | found => some found
  let (fraction, t) ← match t with
    | '.' :: t =>
      match digits t with
      | ([], _) => none
      | (ds, rest) => some (some ds, rest)
    | t => some (none, t)
  let (exponent, t) ← match t with
    | 'e' :: t | 'E' :: t => (exponent? t).map fun (e, rest) ↦ (some e, rest)
    | t => some (none, t)
  return (⟨negative, whole, fraction, exponent⟩, t)

/-! ## Values

The three functions call one another, and their recursion is on a number that counts steps and not
on the text, since what is left of the text after a value is only known once that has been read.
`parse?` hands them more than they can use up, so the number never decides what is read. -/

mutual

/-- Reads a value behind leading blanks. -/
def value? (fuel : Nat) (t : Text) : Option (RawJson × Text) :=
  match fuel with
  | 0 => none
  | fuel + 1 =>
    match skipBlanks t with
    | 'n' :: 'u' :: 'l' :: 'l' :: t => some (.null, t)
    | 't' :: 'r' :: 'u' :: 'e' :: t => some (.bool true, t)
    | 'f' :: 'a' :: 'l' :: 's' :: 'e' :: t => some (.bool false, t)
    | '"' :: t => (string? t).map fun (ps, rest) ↦ (.string ps, rest)
    | '[' :: t =>
      match skipBlanks t with
      | ']' :: t => some (.array [], t)
      | t => (items? fuel t).map fun (xs, rest) ↦ (.array xs, rest)
    | '\x7b' :: t =>
      match skipBlanks t with
      | '\x7d' :: t => some (.object [], t)
      | t => (members? fuel t).map fun (ms, rest) ↦ (.object ms, rest)
    | t => (numeral? t).map fun (n, rest) ↦ (.number n, rest)

/-- Reads the items of an array, at least one, up to and with its closing bracket. -/
def items? (fuel : Nat) (t : Text) : Option (List RawJson × Text) :=
  match fuel with
  | 0 => none
  | fuel + 1 => do
    let (x, t) ← value? fuel t
    match skipBlanks t with
    | ']' :: t => some ([x], t)
    | ',' :: t =>
      let (xs, t) ← items? fuel t
      some (x :: xs, t)
    | _ => none

/-- Reads the members of an object, at least one, up to and with its closing brace. -/
def members? (fuel : Nat) (t : Text) : Option (List (List StringPiece × RawJson) × Text) :=
  match fuel with
  | 0 => none
  | fuel + 1 =>
    match skipBlanks t with
    | '"' :: t => do
      let (key, t) ← string? t
      match skipBlanks t with
      | ':' :: t =>
        let (x, t) ← value? fuel t
        match skipBlanks t with
        | '\x7d' :: t => some ([(key, x)], t)
        | ',' :: t =>
          let (ms, t) ← members? fuel t
          some ((key, x) :: ms, t)
        | _ => none
      | _ => none
    | _ => none

end

/-- The tree of a text, which is one value between blanks.  Every step into the tree takes a
character, or follows one that did, so twice the length of the text bounds the steps. -/
def parse? (t : Text) : Option RawJson :=
  match value? (2 * t.length + 1) t with
  | some (x, rest) => if skipBlanks rest = [] then some x else none
  | none => none

end RawJson

end Emend
