import Emend.Json.Value
import Emend.Text.Quoted

/-!
# Decoding JSON values

A `Decoder` gives a JSON value its meaning in some type, or says why it has none.  Failures are
`DecodeError`s.

Structures are decoded by a `Record`, which lists the fields in the order of their declaration and
reads them in two ways:

* from an object, whose members are visited in their order, so that of several bad members the first
  is reported, and a missing field only if no member is bad (the first field that is missing);
* from an array of the fields' values, where a field with a default may be left out at the end.

Members that are no field are ignored.
-/

set_option autoImplicit false

namespace Emend

variable {α β : Type}

/-! ## Failures

A failure says what was found and what had been expected, in a sentence that is shown to the user.
The sentence is part of what a decoder does, so each kind of failure keeps the data that it is made
of. -/

/-- What a decoder came upon. -/
inductive Found where
  | null
  | bool (b : Bool)
  | int (i : Int)
  | float (x : Binary64)
  | str (s : String)
  | sequence
  | map
  deriving DecidableEq, Repr

/-- The kind of a value, with its content unless it is compound. -/
def Found.ofJson : Json → Found
  | .null => null
  | .bool b => bool b
  | .int i => int i
  | .float x => float x
  | .str s => str s
  | .arr _ => sequence
  | .obj _ => map

/-- How a message names what was found. -/
def Found.describe : Found → String
  | null => "null"
  | bool b => s!"boolean `{b}`"
  | int i => s!"integer `{i}`"
  | float x => s!"floating point `{x.text}`"
  | str s => s!"string {Text.quoted s.toList}"
  | sequence => "sequence"
  | map => "map"

/-- Why a value could not be decoded. -/
inductive DecodeError where
  | invalidType (found : Found) (expected : String)
  | invalidValue (found : Found) (expected : String)
  | invalidLength (length : Nat) (expected : String)
  | missingField (name : String)
  | unknownVariant (name : String) (variants : List String)
  | noVariant (typeName : String)
  deriving DecidableEq, Repr

/-- The names that a variant could have had. -/
def expectedVariants (variants : List String) : String :=
  match variants with
  | [] => "there are no variants"
  | [a] => s!"expected `{a}`"
  | [a, b] => s!"expected `{a}` or `{b}`"
  | vs => "expected one of " ++ ", ".intercalate (vs.map fun v ↦ s!"`{v}`")

/-- The sentence shown for a failure. -/
def DecodeError.message : DecodeError → String
  | invalidType found expected => s!"invalid type: {found.describe}, expected {expected}"
  | invalidValue found expected => s!"invalid value: {found.describe}, expected {expected}"
  | invalidLength n expected => s!"invalid length {n}, expected {expected}"
  | missingField name => s!"missing field `{name}`"
  | unknownVariant name variants => s!"unknown variant `{name}`, {expectedVariants variants}"
  | noVariant typeName => s!"data did not match any variant of untagged enum {typeName}"

/-! ## Plain decoders -/

/-- A reading of JSON values as members of a type. -/
abbrev Decoder (α : Type) := Json → Except DecodeError α

namespace Decoder

/-- The failure of a value that has the wrong type. -/
def mismatch (j : Json) (expected : String) : Except DecodeError α :=
  .error (.invalidType (.ofJson j) expected)

/-- Any value. -/
def any : Decoder Json := .ok

/-- A string. -/
def string : Decoder String
  | .str s => .ok s
  | j => mismatch j "a string"

/-- A string, as the text it holds. -/
def text : Decoder Text := fun j ↦ (string j).map String.toList

/-- A truth value. -/
def bool : Decoder Bool
  | .bool b => .ok b
  | j => mismatch j "a boolean"

/-- An integer between two bounds. -/
def intBetween (low high : Int) (name : String) : Decoder Int
  | .int i => if low ≤ i ∧ i ≤ high then .ok i else .error (.invalidValue (.int i) name)
  | j => mismatch j name

/-- An unsigned word of 32 bits. -/
def u32 : Decoder UInt32 := fun j ↦
  (intBetween 0 4294967295 "u32" j).map fun i ↦ UInt32.ofNat i.toNat

/-- A signed word of 32 bits. -/
def i32 : Decoder Int32 := fun j ↦
  (intBetween (-2147483648) 2147483647 "i32" j).map Int32.ofInt

/-- A value that may be null. -/
def nullable (d : Decoder α) : Decoder (Option α)
  | .null => .ok none
  | j => (d j).map some

/-- An array of values of one type. -/
def list (d : Decoder α) : Decoder (List α)
  | .arr xs => xs.mapM d
  | j => mismatch j "a sequence"

/-- An object whose members are all of one type. -/
def dict (d : Decoder α) : Decoder (Dict α)
  | .obj ms => (ms.mapM fun m ↦ (d m.2).map fun x ↦ (m.1, x)).map Dict.ofEntries
  | j => mismatch j "a map"

/-- One of several named values, given by its name, or by an object with the name as its only
member and a value that says nothing. -/
def enumeration (variants : List (String × α)) (nothing : Decoder Unit) : Decoder α :=
  let find (name : String) : Except DecodeError α :=
    match Entries.get? variants name with
    | some x => .ok x
    | none => .error (.unknownVariant name (variants.map Prod.fst))
  fun
  | .str s => find s
  | .obj [(name, payload)] => do
    let x ← find name
    nothing payload
    return x
  | .obj _ => .error (.invalidValue .map "map with a single key")
  | j => mismatch j "string or map"

/-- Null, which says nothing. -/
def unit : Decoder Unit
  | .null => .ok ()
  | j => mismatch j "unit"

end Decoder

/-! ## Records

A record is read from an object member by member, in the order of the text, but it is put together
field by field, in the order of the declaration.  The two agree on results and not on failures: the
first bad member of the text is the one to report.  So each field reports the number of the member
at fault, and of two faults the smaller number counts. -/

/-- A failure to read the members of an object, with the number of the member at fault.  A missing
field ranks behind all members. -/
structure Fault where
  rank : Nat
  error : DecodeError

/-- A reading of objects and arrays as structures. -/
structure Record (α : Type) where
  /-- The number of fields. -/
  arity : Nat
  /-- Reads the members of an object. -/
  ofMembers : Entries Json → Except Fault α
  /-- Reads the items of an array, where the first has a number, and returns those not used.  The
  string says what is missing in an array that is too short. -/
  ofItems : String → Nat → List Json → Except DecodeError (α × List Json)

namespace Record

/-- A record without fields. -/
protected def pure (a : α) : Record α where
  arity := 0
  ofMembers _ := .ok a
  ofItems _ _ xs := .ok (a, xs)

/-- A record with the fields of two.  Of two faults the one at the earlier member counts. -/
protected def seq (f : Record (α → β)) (x : Record α) : Record β where
  arity := f.arity + x.arity
  ofMembers ms :=
    match f.ofMembers ms, x.ofMembers ms with
    | .ok g, .ok a => .ok (g a)
    | .ok _, .error e => .error e
    | .error e, .ok _ => .error e
    | .error e, .error e' => .error (if e'.rank < e.rank then e' else e)
  ofItems expected i xs :=
    match f.ofItems expected i xs with
    | .error e => .error e
    | .ok (g, xs) =>
      match x.ofItems expected (i + f.arity) xs with
      | .error e => .error e
      | .ok (a, xs) => .ok (g a, xs)

instance : Applicative Record where
  pure := Record.pure
  seq f x := Record.seq f (x ())

/-- Reads the member with a key, if there is one. -/
def member? (key : String) (d : Decoder α) (ms : Entries Json) : Except Fault (Option α) :=
  match ms.findIdx? fun m ↦ m.1 = key with
  | none => .ok none
  | some i =>
    match ms[i]? with
    | none => .ok none
    | some m =>
      match d m.2 with
      | .ok a => .ok (some a)
      | .error e => .error ⟨i, e⟩

/-- One field, with what stands for it in an object without it and in an array too short for it. -/
def field (key : String) (d : Decoder α) (absent tooShort : Option α) : Record α where
  arity := 1
  ofMembers ms :=
    match member? key d ms, absent with
    | .error e, _ => .error e
    | .ok (some a), _ => .ok a
    | .ok none, some a => .ok a
    | .ok none, none => .error ⟨ms.length, .missingField key⟩
  ofItems expected i
    | x :: xs => (d x).map fun a ↦ (a, xs)
    | [] =>
      match tooShort with
      | some a => .ok (a, [])
      | none => .error (.invalidLength i expected)

/-- A field that must be there. -/
def required (key : String) (d : Decoder α) : Record α := field key d none none

/-- A field with a default. -/
def optional (key : String) (d : Decoder α) (default : α) : Record α :=
  field key d (some default) (some default)

/-- A field that an object may lack, and an array may not. -/
def lackable (key : String) (d : Decoder α) : Record (Option α) :=
  field key d.nullable (some none) none

/-- The decoder of a structure with a name. -/
def decoder (name : String) (r : Record α) : Decoder α
  | .obj ms => (r.ofMembers ms).mapError Fault.error
  | .arr xs =>
    let elements := if r.arity = 1 then "element" else "elements"
    match r.ofItems s!"struct {name} with {r.arity} {elements}" 0 xs with
    | .error e => .error e
    | .ok (a, []) => .ok a
    | .ok (_, _ :: _) => .error (.invalidLength xs.length "fewer elements in array")
  | j => Decoder.mismatch j s!"struct {name}"

end Record

end Emend
