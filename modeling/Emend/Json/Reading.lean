import Emend.Json.Raw
import Emend.Json.Value

/-!
# Values of JSON texts

The second stage of reading a JSON text gives its numbers and strings their values.

* A whole number of 64 bits, signed or not, is an integer; any other number is a floating-point
  number.  Its digits count as far as they fit into 64 bits; then one multiplication with a power of
  ten, or one division by it, gives the value (`Numeral.value?`).
* Two code units that form a surrogate pair are one character; one without its partner is refused.
* Of several members with one key, the last counts.
* A text nested deeper than 127 levels is refused.
-/

set_option autoImplicit false

namespace Emend

/-! ## Numbers

A number is not rounded as a whole: its digits are taken in as far as they fit into a word and the
rest of them are cut off, then the power of ten is rounded, and then the product or the quotient.
So the value need not be the nearest number, and the roundings and their order are part of what it
is. -/

namespace Numeral

/-- The numbers below this bound have 64 bits. -/
def wordLimit : Nat := 0x10000000000000000

/-- Appends digits to a number as long as it stays within 64 bits, and counts them. -/
def absorb (significand : Nat) : List Nat → Nat × Nat
  | [] => (significand, 0)
  | d :: ds =>
    if significand * 10 + d < wordLimit then
      let (s, n) := absorb (significand * 10 + d) ds
      (s, n + 1)
    else (significand, 0)

/-- The number that digits write. -/
def ofDigits (ds : List Nat) : Nat := ds.foldl (fun n d ↦ n * 10 + d) 0

/-- The largest power of ten that numbers are scaled by in one step. -/
def largestPower : Nat := 308

/-- The magnitude nearest to a power of ten. -/
def scaleOfTen? (n : Nat) : Option Magnitude := Magnitude.nearest? (powerOfTen n) 1

/-- A magnitude divided by a power of ten. -/
def shrink? (x : Magnitude) (n : Nat) : Option Magnitude := do
  let p ← scaleOfTen? n
  Magnitude.nearest? (x.num * p.den) (x.den * p.num)

/-- A magnitude divided by the largest power of ten, a number of times. -/
def shrinkTimes? (x : Magnitude) : Nat → Option Magnitude
  | 0 => some x
  | n + 1 => if x.mantissa = 0 then some x else shrink? x largestPower >>= fun y ↦ shrinkTimes? y n

/-- A magnitude scaled by a power of ten.  The power is a rounded number itself, and what a negative
exponent has beyond the largest power is taken off first.  There is no value beyond the largest
number. -/
def scale? (x : Magnitude) (exponent : Int) : Option Magnitude :=
  if x.mantissa = 0 then some x
  else if 0 ≤ exponent then
    if largestPower < exponent then none
    else do
      let p ← scaleOfTen? exponent.toNat
      Magnitude.nearest? (x.num * p.num) (x.den * p.den)
  else do
    let n := (-exponent).toNat
    let steps := (n - 1) / largestPower
    let y ← shrinkTimes? x steps
    shrink? y (n - largestPower * steps)

/-- The exponent that a number is written with, and the bound that a larger one is cut to. -/
def writtenExponent (n : Numeral) : Int :=
  match n.exponent with
  | none => 0
  | some (negative, ds) => if negative then -(ofDigits ds : Int) else ofDigits ds

/-- The value of a number that is no integer of 64 bits. -/
def float? (n : Numeral) : Option Binary64 := do
  let (significand, taken) := absorb 0 n.whole
  let dropped := n.whole.length - taken
  let (significand, places) := absorb significand (n.fraction.getD [])
  let x ← Magnitude.nearest? significand 1
  let y ← scale? x ((dropped : Int) - places + n.writtenExponent)
  return .ofMagnitude n.negative y

/-- The value of a number. -/
def value? (n : Numeral) : Option Json :=
  let i := ofDigits n.whole
  let isWhole := n.fraction.isNone && n.exponent.isNone
  if isWhole && !n.negative && i < wordLimit then some (.int i)
  else if isWhole && n.negative && i ≠ 0 && 2 * i ≤ wordLimit then some (.int (-(i : Int)))
  else n.float?.map .float

end Numeral

/-! ## Strings -/

/-- The characters of a string, or `none` if it holds half of a surrogate pair. -/
def StringPiece.chars? : List StringPiece → Option Text
  | [] => some []
  | .char c :: ps => (chars? ps).map (c :: ·)
  | .unit u :: ps =>
    if u < 0xd800 ∨ 0xdfff < u then (chars? ps).map (Char.ofNat u :: ·)
    else if 0xdc00 ≤ u then none
    else
      match ps with
      | .unit v :: ps =>
        if 0xdc00 ≤ v ∧ v ≤ 0xdfff then
          (chars? ps).map (Char.ofNat (0x10000 + (u - 0xd800) * 0x400 + (v - 0xdc00)) :: ·)
        else none
      | _ => none

/-- The string of its pieces. -/
def StringPiece.string? (ps : List StringPiece) : Option String := (chars? ps).map String.ofList

/-! ## Values -/

namespace Json

/-- The number of levels, plus one, that a text may be nested. -/
def depthLimit : Nat := 128

mutual

/-- The value of a tree that may have fewer than `depth` levels. -/
def ofRaw? (depth : Nat) : RawJson → Option Json
  | .null => some .null
  | .bool b => some (.bool b)
  | .number n => n.value?
  | .string ps => (StringPiece.string? ps).map .str
  | .array xs => if depth ≤ 1 then none else (itemsOfRaw? (depth - 1) xs).map .arr
  | .object ms => if depth ≤ 1 then none else (membersOfRaw? (depth - 1) ms).map ofMembers

/-- The values of the items of an array. -/
def itemsOfRaw? (depth : Nat) : List RawJson → Option (List Json)
  | [] => some []
  | x :: xs => do return (← ofRaw? depth x) :: (← itemsOfRaw? depth xs)

/-- The keys and values of the members of an object. -/
def membersOfRaw? (depth : Nat) : List (List StringPiece × RawJson) → Option (Entries Json)
  | [] => some []
  | (k, x) :: ms => do
    return (← StringPiece.string? k, ← ofRaw? depth x) :: (← membersOfRaw? depth ms)

end

/-- The value of a text. -/
def parse? (t : Text) : Option Json := RawJson.parse? t >>= ofRaw? depthLimit

end Json

end Emend
