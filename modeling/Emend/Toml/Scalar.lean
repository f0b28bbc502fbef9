import Emend.Json.Reading

/-!
# Scalars of a settings file

What stands for a value without quotes or brackets: a truth value, a number, or a date.

* `integer?` reads `12`, `-1_000`, `0x1F`, `0o17` and `0b101`; underscores stand between digits, and
  a decimal number has no leading zero.
* `float?` reads `1.5`, `-2e10`, `inf` and `nan`.
* `moment?` reads dates, times, and both together, with or without an offset.

Numbers and dates are kept as JSON values.  An integer of more than 128 bits and a floating-point
number beyond the largest finite one have no value: `outOfRange` stands for them.
-/

set_option autoImplicit false

namespace Emend.Toml

/-! ## Digits -/

/-- Digits, which single underscores may separate. -/
def digitsOf? (digit? : Char → Option Nat) : Text → Option (List Nat)
  | [] => none
  | [c] => (digit? c).map fun d ↦ [d]
  | c :: '_' :: t => do
    let d ← digit? c
    return d :: (← digitsOf? digit? t)
  | c :: t => do
    let d ← digit? c
    return d :: (← digitsOf? digit? t)

/-- The value of a digit below eight. -/
def octalDigit? (c : Char) : Option Nat := (RawJson.digit? c).filter (· < 8)

/-- The value of a digit below two. -/
def binaryDigit? (c : Char) : Option Nat := (RawJson.digit? c).filter (· < 2)

/-- The number that digits write in a base. -/
def ofDigits (base : Nat) (ds : List Nat) : Nat := ds.foldl (fun n d ↦ n * base + d) 0

/-- The digits of a whole decimal number, which has no leading zero. -/
def wholeDigits? (t : Text) : Option (List Nat) :=
  match digitsOf? RawJson.digit? t with
  | some (0 :: _ :: _) => none
  | found => found

/-- The sign of a number, and what follows it. -/
def splitSign : Text → Bool × Text
  | '-' :: t => (true, t)
  | '+' :: t => (false, t)
  | t => (false, t)

/-! ## Numbers

A number is recognised by its form before it has a value, and a number that is too large for its
value is an error only if somebody asks for it.  So it is kept, as a value that no number of a file
has. -/

/-- What stands for a number that is too large to have a value: a float that is no number. -/
def outOfRange : Json := .float ⟨0x7ff8000000000000⟩

/-- The numbers below this bound have 128 bits. -/
def integerLimit : Nat := powerOfTwo 128

/-- Reads an integer. -/
def integer? (t : Text) : Option Json :=
  let found : Option Int := match t with
    | '0' :: 'x' :: t => (digitsOf? RawJson.hexDigit? t).map fun ds ↦ ofDigits 16 ds
    | '0' :: 'o' :: t => (digitsOf? octalDigit? t).map fun ds ↦ ofDigits 8 ds
    | '0' :: 'b' :: t => (digitsOf? binaryDigit? t).map fun ds ↦ ofDigits 2 ds
    | t =>
      let (negative, t) := splitSign t
      (wholeDigits? t).map fun ds ↦ if negative then -(ofDigits 10 ds : Int) else ofDigits 10 ds
  found.map fun i ↦
    if -(integerLimit : Int) ≤ 2 * i ∧ i < integerLimit then .int i else outOfRange

/-- The magnitude of a decimal number with a fraction and an exponent.  One whose first digit stands
far to the left is too large, and one whose first digit stands far to the right is zero. -/
def decimal? (whole fraction : List Nat) (exponent : Int) : Option Magnitude :=
  let n := ofDigits 10 (whole ++ fraction)
  let p := exponent - fraction.length
  let order := p + (toString n).length
  if n = 0 ∨ order < -400 then some .zero
  else if 400 < order then none
  else Magnitude.nearest? (n * powerOfTen p.toNat) (powerOfTen (-p).toNat)

/-- Reads a floating-point number. -/
def float? (t : Text) : Option Json :=
  let (negative, t) := splitSign t
  if t = "inf".toList ∨ t = "nan".toList then some (.float ⟨0⟩)
  else do
    let mantissa := t.takeWhile fun c ↦ c ≠ 'e' && c ≠ 'E'
    let whole := mantissa.takeWhile (· ≠ '.')
    let ws ← wholeDigits? whole
    let fs ← match mantissa.drop whole.length with
      | [] => some []
      | _ :: f => digitsOf? RawJson.digit? f
    let exponent ← match t.drop mantissa.length with
      | [] => if fs.isEmpty then none else some 0
      | _ :: e =>
        let (down, e) := splitSign e
        (digitsOf? RawJson.digit? e).map fun ds ↦
          if down then -(ofDigits 10 ds : Int) else ofDigits 10 ds
    return match decimal? ws fs exponent with
      | some x => .float (.ofMagnitude negative x)
      | none => outOfRange

/-! ## Dates and times

Nothing in the settings is a date.  One is read all the same, because a file that has a date in the
place of some other value is well formed, and the failure is that of a wrong type. -/

/-- Reads two digits that make up a number between bounds. -/
def twoDigits? (low high : Nat) (a b : Char) : Option Nat := do
  let n := 10 * (← RawJson.digit? a) + (← RawJson.digit? b)
  if low ≤ n ∧ n ≤ high then some n else none

/-- The number of days of a month. -/
def daysInMonth (year month : Nat) : Nat :=
  if month = 2 then
    if year % 4 = 0 ∧ (year % 100 ≠ 0 ∨ year % 400 = 0) then 29 else 28
  else if month = 4 ∨ month = 6 ∨ month = 9 ∨ month = 11 then 30
  else 31

/-- The text behind a date at the start of a text. -/
def date? : Text → Option Text
  | y₁ :: y₂ :: y₃ :: y₄ :: '-' :: m₁ :: m₂ :: '-' :: d₁ :: d₂ :: rest => do
    let year := 100 * (← twoDigits? 0 99 y₁ y₂) + (← twoDigits? 0 99 y₃ y₄)
    let month ← twoDigits? 1 12 m₁ m₂
    let _ ← twoDigits? 1 (daysInMonth year month) d₁ d₂
    return rest
  | _ => none

/-- The text behind the fraction of a second at the start of a text, which it may lack. -/
def secondFraction? : Text → Option Text
  | '.' :: t =>
    let ds := t.takeWhile fun c ↦ (RawJson.digit? c).isSome
    if ds.isEmpty then none else some (t.drop ds.length)
  | t => some t

/-- The text behind a time at the start of a text.  Its seconds may be left out. -/
def time? : Text → Option Text
  | h₁ :: h₂ :: ':' :: m₁ :: m₂ :: rest => do
    let _ ← twoDigits? 0 23 h₁ h₂
    let _ ← twoDigits? 0 59 m₁ m₂
    match rest with
    | ':' :: s₁ :: s₂ :: rest =>
      let _ ← twoDigits? 0 60 s₁ s₂
      secondFraction? rest
    | ':' :: _ => none
    | rest => some rest
  | _ => none

/-- Whether a text is an offset from universal time, or nothing. -/
def isOffset : Text → Bool
  | [] => true
  | ['Z'] | ['z'] => true
  | [sign, h₁, h₂, ':', m₁, m₂] =>
    (sign = '+' || sign = '-') && (twoDigits? 0 23 h₁ h₂).isSome && (twoDigits? 0 59 m₁ m₂).isSome
  | _ => false

/-- Whether a text is a date, a time, or a date with a time. -/
def isMoment (t : Text) : Bool :=
  match date? t with
  | some [] => true
  | some (mark :: rest) =>
    (mark = 'T' || mark = 't' || mark = ' ') &&
      (match time? rest with
      | some offset => isOffset offset
      | none => false)
  | none => time? t = some []

/-- Reads a date or a time.  It becomes an object of its own kind, which has no member in common
with any table. -/
def moment? (t : Text) : Option Json :=
  if isMoment t then some (.obj [("$moment", .str (String.ofList t))]) else none

/-! ## All scalars -/

/-- Reads a scalar. -/
def scalar? (t : Text) : Option Json :=
  if t = "true".toList then some (.bool true)
  else if t = "false".toList then some (.bool false)
  else integer? t <|> float? t <|> moment? t

mutual

/-- Whether all numbers within a value have a value. -/
def isInRange : Json → Bool
  | .arr items => areInRange items
  | .obj members => membersInRange members
  | v => v ≠ outOfRange

/-- Whether all numbers within some items have a value. -/
def areInRange : List Json → Bool
  | [] => true
  | v :: vs => isInRange v && areInRange vs

/-- Whether all numbers within some members have a value. -/
def membersInRange : List (String × Json) → Bool
  | [] => true
  | (_, v) :: ms => isInRange v && membersInRange ms

end

end Emend.Toml
