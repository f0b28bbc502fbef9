/-!
# Floating-point numbers as data

A `Binary64` is a floating-point number of 64 bits, held as these bits, so that two of them are
equal when they are the same number with the same sign.  Nothing here computes with the machine's
own floating-point unit: `Magnitude.nearest?` rounds an exact quotient of natural numbers, and
`Magnitude.digits` finds the shortest decimal that reads back as the number.

A finite magnitude is `mantissa · 2 ^ exponent`, with a mantissa of 53 bits, or of fewer at the
least exponent.

Numbers occur where JSON has them, in the parameters of a recipe and in messages about values of the
wrong type.  They are never computed with, only read and printed, so there is no arithmetic here but
rounding.
-/

set_option autoImplicit false

namespace Emend

/-! ## Powers -/

/-- A power of two. -/
def powerOfTwo (n : Nat) : Nat := Nat.pow 2 n

/-- A power of ten. -/
def powerOfTen (n : Nat) : Nat := Nat.pow 10 n

/-! ## Magnitudes

A magnitude is a fraction of natural numbers, so it can be compared with any other one without
rounding.  Rounding happens once, in `nearest?`: the exponent is found first, by counting bits, and
the quotient is rounded to a whole number of units of that exponent.  A mantissa that is rounded up
to the next power of two goes over into the next exponent. -/

/-- The magnitude of a finite number: a mantissa times a power of two. -/
structure Magnitude where
  mantissa : Nat
  exponent : Int
  deriving DecidableEq, Repr

namespace Magnitude

/-- The least exponent of a magnitude. -/
def leastExponent : Int := -1074

/-- The least mantissa of 53 bits. -/
def leastFull : Nat := 0x10000000000000

/-- Zero. -/
def zero : Magnitude := ⟨0, leastExponent⟩

/-- The numerator of a magnitude as a fraction. -/
def num (x : Magnitude) : Nat := x.mantissa * powerOfTwo x.exponent.toNat

/-- The denominator of a magnitude as a fraction. -/
def den (x : Magnitude) : Nat := powerOfTwo (-x.exponent).toNat

/-- The quotient of two numbers rounded to the nearest integer, a half to the even one. -/
def roundDiv (num den : Nat) : Nat :=
  let q := num / den
  let r := num % den
  if 2 * r < den then q else if den < 2 * r then q + 1 else q + q % 2

/-- The quotient of two numbers in units of `2 ^ e`, rounded. -/
def roundAt (num den : Nat) (e : Int) : Nat :=
  roundDiv (num * powerOfTwo (-e).toNat) (den * powerOfTwo e.toNat)

/-- The exponent at which a quotient has a mantissa of 53 bits, or the least one. -/
def exponentOf (num den : Nat) : Int :=
  let e : Int := (Nat.log2 num : Int) - Nat.log2 den - 52
  let isSmall := num * powerOfTwo (-e).toNat < leastFull * (den * powerOfTwo e.toNat)
  let e := if isSmall then e - 1 else e
  max e leastExponent

/-- The magnitude nearest to a quotient, or `none` where that lies beyond the largest. -/
def nearest? (num den : Nat) : Option Magnitude :=
  if num = 0 then some zero
  else
    let e := exponentOf num den
    let m := roundAt num den e
    let x : Magnitude := if m = 2 * leastFull then ⟨leastFull, e + 1⟩ else ⟨m, e⟩
    if x.exponent ≤ 971 then some x else none

/-! ## Shortest decimals

A decimal stands for a magnitude if it is rounded to it, and the decimals that do so form an
interval between two midpoints.  The shortest of them is on the coarsest grid of multiples of a
power of ten that has a point in the interval, and on each grid only the two neighbours of the
magnitude have to be tried. -/

/-- Whether the decimal `c · 10 ^ p` rounds to a magnitude: it lies between the midpoints to the two
neighbours, which count themselves if the mantissa is even. -/
def absorbs (x : Magnitude) (c : Nat) (p : Int) : Bool :=
  let step := if x.mantissa = leastFull ∧ x.exponent ≠ leastExponent then 1 else 2
  let low := 4 * x.mantissa - step
  let high := 4 * x.mantissa + 2
  let scale := powerOfTwo (x.exponent - 2).toNat * powerOfTen (-p).toNat
  let value := c * powerOfTen p.toNat * powerOfTwo (2 - x.exponent).toNat
  if x.mantissa % 2 = 0 then low * scale ≤ value && value ≤ high * scale
  else low * scale < value && value < high * scale

/-- The two neighbours of a magnitude among the multiples of `10 ^ p`, the nearer one first, and of
two equally near ones the even one. -/
def neighbours (x : Magnitude) (p : Int) : List Nat :=
  let n := x.num * powerOfTen (-p).toNat
  let d := x.den * powerOfTen p.toNat
  let c := n / d
  if 2 * (n % d) < d ∨ (2 * (n % d) = d ∧ c % 2 = 0) then [c, c + 1] else [c + 1, c]

/-- The number of decimal digits before the point, less one; negative for a fraction. -/
def decimalOrder (x : Magnitude) : Int :=
  if x.den ≤ x.num then ((toString (x.num / x.den)).length : Int) - 1
  else -((toString ((x.den - 1) / x.num)).length : Int)

/-- The shortest decimal that rounds to a positive magnitude, as a whole number and a power of ten.
First the power of ten above the magnitude is tried, then the grids of one, two, three and more
digits in turn; seventeen digits always suffice. -/
def digits (x : Magnitude) : Nat × Int :=
  let order := x.decimalOrder
  let grids := (List.range 18).map fun (n : Nat) ↦ order + 1 - n
  let hit := grids.findSome? fun p ↦
    ((x.neighbours p).find? fun c ↦ x.absorbs c p).map fun c ↦ (c, p)
  hit.getD (0, 0)

end Magnitude

/-! ## Numbers with a sign -/

/-- A floating-point number of 64 bits. -/
structure Binary64 where
  bits : UInt64
  deriving DecidableEq, Repr, Inhabited

namespace Binary64

/-- The number whose only bit is the sign. -/
def signBit : Nat := 0x8000000000000000

/-- The number with a sign and a magnitude. -/
def ofMagnitude (negative : Bool) (x : Magnitude) : Binary64 :=
  let sign := if negative then signBit else 0
  let body :=
    if x.mantissa < Magnitude.leastFull then x.mantissa
    else
      let e := (x.exponent - Magnitude.leastExponent + 1).toNat
      e * Magnitude.leastFull + (x.mantissa - Magnitude.leastFull)
  ⟨(sign + body).toUInt64⟩

/-- Whether the sign bit is set. -/
def isNegative (x : Binary64) : Bool := signBit ≤ x.bits.toNat

/-- The magnitude of a finite number. -/
def magnitude (x : Binary64) : Magnitude :=
  let body := x.bits.toNat % signBit
  let e : Nat := body / Magnitude.leastFull
  let f : Nat := body % Magnitude.leastFull
  if e = 0 then ⟨f, Magnitude.leastExponent⟩
  else ⟨Magnitude.leastFull + f, (e : Int) - 1 + Magnitude.leastExponent⟩

/-- The positional decimal notation of `c · 10 ^ p`, with at least one digit on each side of the
point. -/
def positional (c : Nat) (p : Int) : String :=
  let ds := (toString c).toList
  if 0 ≤ p then String.ofList (ds ++ List.replicate p.toNat '0' ++ ['.', '0'])
  else
    let places := (-p).toNat
    let ds := List.replicate (places + 1 - ds.length) '0' ++ ds
    String.ofList (ds.take (ds.length - places) ++ '.' :: ds.drop (ds.length - places))

/-- The decimal notation of `c · 10 ^ p` with the power of ten written out: one digit before the
point, which is there if more digits follow. -/
def scientific (c : Nat) (p : Int) : String :=
  let ds := (toString c).toList
  let fraction := if ds.length = 1 then [] else '.' :: ds.drop 1
  let order := p + ds.length - 1
  let sign := if order < 0 then "-" else "+"
  String.ofList (ds.take 1 ++ fraction) ++ "e" ++ sign ++ toString order.natAbs

/-- The decimal notation of `c · 10 ^ p`, which is positional while the first digit is at most
fifteen places before the last whole one and at most five behind it. -/
def decimal (c : Nat) (p : Int) : String :=
  let order := p + (toString c).length - 1
  if -5 ≤ order ∧ order ≤ 15 then positional c p else scientific c p

/-- The text of a finite number: the shortest decimal that reads back as it. -/
def text (x : Binary64) : String :=
  let m := x.magnitude
  let body := if m.mantissa = 0 then "0.0" else
    let (c, p) := m.digits
    decimal c p
  if x.isNegative then "-" ++ body else body

end Binary64

end Emend
