import Emend.Text.Basic

/-!
# Numeric addresses

A host may be given by its number instead of a name.  An address of 32 bits has up to four parts
with dots between them, each in the decimal, octal or hexadecimal system, and the last part fills
all the bits that are left (`isAddress32`).  An address of 128 bits has eight parts with colons
between them, of which two colons may stand for any number of zeros, and the last two of which may
be written as an address of 32 bits (`isAddress128`).
-/

set_option autoImplicit false

namespace Emend.Uri

/-! ## Numbers -/

/-- The value of a digit of either case. -/
def addressDigit? (c : Char) : Option Nat :=
  if c.isDigit then some (c.toNat - 48)
  else if 'a' ≤ c ∧ c ≤ 'f' then some (c.toNat - 87)
  else if 'A' ≤ c ∧ c ≤ 'F' then some (c.toNat - 55)
  else none

/-- The number that digits of a base write. -/
def numberInBase? (base : Nat) (t : Text) : Option Nat :=
  t.foldlM (fun n c ↦ (addressDigit? c).bind fun d ↦ if d < base then some (base * n + d) else none)
    0

/-- The number that a part of an address of 32 bits writes.  Behind `0x` and behind a zero no digit
is needed. -/
def partNumber? : Text → Option Nat
  | [] => none
  | '0' :: 'x' :: t | '0' :: 'X' :: t => numberInBase? 16 t
  | ['0'] => some 0
  | '0' :: t => numberInBase? 8 t
  | t => numberInBase? 10 t

/-! ## Addresses of 32 bits

A name whose last label is a number is no name at all: it is an address, or the URI is malformed.
Whether the label is a number and whether it fits into an address are two questions, since a label
of digits may be too large, or have digits that its base does not have. -/

/-- The labels of a name without an empty one at its end. -/
def dropRootLabel (labels : List Text) : List Text :=
  if 1 < labels.length ∧ labels.getLast? = some [] then labels.dropLast else labels

/-- Whether the last label of a name is a number, so that the whole has to be an address. -/
def endsInNumber (labels : List Text) : Bool :=
  match (dropRootLabel labels).getLast? with
  | some label => (!label.isEmpty && label.all Char.isDigit) || (partNumber? label).isSome
  | none => false

/-- Whether some numbers are the parts of an address of 32 bits, all of whose parts but the last one
have 8 bits. -/
def fitAddress32 (parts : List Nat) : Bool :=
  match parts.reverse with
  | [] => false
  | last :: others =>
    others.length < 4 && last < Nat.pow 256 (4 - others.length) && others.all (· < 256)

/-- Whether labels are the parts of an address of 32 bits. -/
def isAddress32 (labels : List Text) : Bool :=
  ((dropRootLabel labels).mapM partNumber?).any fitAddress32

/-! ## Addresses of 128 bits -/

/-- Whether a text is a decimal number of 8 bits without leading zeros. -/
def isOctet (t : Text) : Bool :=
  match t with
  | [] => false
  | ['0'] => true
  | '0' :: _ => false
  | t => (numberInBase? 10 t).any (· < 256)

/-- Whether a text is an address of 32 bits that may end one of 128 bits: four decimal numbers. -/
def isEmbeddedAddress (t : Text) : Bool :=
  let parts := t.splitOn '.'
  parts.length = 4 && parts.all isOctet

/-- Whether a text is one part of an address of 128 bits. -/
def isPiece (t : Text) : Bool :=
  !t.isEmpty && t.length ≤ 4 && t.all fun c ↦ (addressDigit? c).isSome

/-- The number of parts of 16 bits that a text writes, which is empty or has parts with colons
between them. -/
def pieceCount? (mayEmbed : Bool) (t : Text) : Option Nat :=
  if t.isEmpty then some 0
  else
    let parts := t.splitOn ':'
    if parts.all isPiece then some parts.length
    else if mayEmbed ∧ parts.dropLast.all isPiece ∧ (parts.getLast?.any isEmbeddedAddress) then
      some (parts.length + 1)
    else none

/-- A text up to two colons and behind them. -/
def splitGap (t : Text) : Option (Text × Text) :=
  match t with
  | ':' :: ':' :: rest => some ([], rest)
  | c :: t => (splitGap t).map fun (before, rest) ↦ (c :: before, rest)
  | [] => none

/-- Whether a text is an address of 128 bits. -/
def isAddress128 (t : Text) : Bool :=
  match splitGap t with
  | some (before, after) =>
    match pieceCount? false before, pieceCount? true after with
    | some m, some n => m + n < 8
    | _, _ => false
  | none => pieceCount? true t = some 8

end Emend.Uri
