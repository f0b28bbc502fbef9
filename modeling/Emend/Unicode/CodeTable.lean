import Emend.Text.Basic

/-!
# Tables of characters

What a standard lays down of characters comes in tables.  A table is written as lines of words, and
each word says something of a run of code points, in hexadecimal digits:

* `300-36f` says that the code points from `300` to `36f` are in the table, and `bf` that this one
  is;
* `300-314=e6` gives each of them the value `e6`, and `df=73,73` gives one several values;
* `f900=8c48:66f4` goes on with a value for the next code point;
* `ff21-ff3a>61` gives the first one the value `61`, the next one `62`, and so on, and
  `100-12e/2>101` does so for every second code point.

`CodeTable.find?` looks a character up by halving, for which the runs have to be in ascending order.
-/

set_option autoImplicit false

namespace Emend.Unicode

/-- A run of code points, of which a table says the same. -/
structure CodeRun where
  first : Nat
  last : Nat
  /-- The distance between two code points of the run. -/
  step : Nat
  values : List Nat
  /-- Whether the values grow with the code points. -/
  grows : Bool
  deriving DecidableEq, Repr

namespace CodeRun

/-- Whether a code point is in a run. -/
def covers (r : CodeRun) (c : Nat) : Bool :=
  r.first ≤ c && c ≤ r.last && (c - r.first) % r.step = 0

/-- The values of a code point of a run. -/
def valuesAt (r : CodeRun) (c : Nat) : List Nat :=
  if r.grows then r.values.map (· + (c - r.first)) else r.values

/-! ## Words -/

/-- The value of a hexadecimal digit. -/
def digitValue (c : Char) : Nat := if c ≤ '9' then c.toNat - 48 else c.toNat - 87

/-- The number that hexadecimal digits write. -/
def number (t : Text) : Nat := t.foldl (fun n c ↦ 16 * n + digitValue c) 0

/-- The numbers that commas separate. -/
def numbers (t : Text) : List Nat := if t.isEmpty then [] else (t.splitOn ',').map number

/-- The runs that a word describes. -/
def ofWord (word : Text) : List CodeRun :=
  let head := word.takeWhile fun c ↦ c ≠ '=' && c ≠ '>'
  let span := head.takeWhile (· ≠ '/')
  let step := if span = head then 1 else number (head.drop (span.length + 1))
  let first := number (span.takeWhile (· ≠ '-'))
  let last := number ((span.reverse.takeWhile (· ≠ '-')).reverse)
  match word.drop head.length with
  | '=' :: t =>
    (t.splitOn ':').zipIdx.map fun (values, i) ↦
      ⟨first + i, last + i, step, numbers values, false⟩
  | _ :: t => [⟨first, last, step, numbers t, true⟩]
  | [] => [⟨first, last, step, [], false⟩]

end CodeRun

/-- A table of characters. -/
structure CodeTable where
  runs : Array CodeRun
  deriving Inhabited

namespace CodeTable

/-- The table that some lines of words write. -/
def ofLines (lines : List String) : CodeTable :=
  ⟨((lines.flatMap fun l ↦ l.toList.splitOn ' ').flatMap CodeRun.ofWord).toArray⟩

/-- The number of runs that start at a code point or before it, if this lies between two numbers. -/
def rank (t : CodeTable) (c low high : Nat) : Nat :=
  if low < high then
    let middle := (low + high) / 2
    match t.runs[middle]? with
    | some r => if r.first ≤ c then rank t c (middle + 1) high else rank t c low middle
    | none => rank t c low middle
  else low
termination_by high - low

/-- The run of a code point. -/
def find? (t : CodeTable) (c : Nat) : Option CodeRun :=
  t.runs[t.rank c 0 t.runs.size - 1]?.filter (·.covers c)

/-- Whether a character is in a table. -/
def contains (t : CodeTable) (c : Char) : Bool := (t.find? c.toNat).isSome

/-- The values of a code point. -/
def valuesOf? (t : CodeTable) (c : Nat) : Option (List Nat) :=
  (t.find? c).map fun r ↦ r.valuesAt c

/-- The values of a character. -/
def values? (t : CodeTable) (c : Char) : Option (List Nat) := t.valuesOf? c.toNat

end CodeTable

end Emend.Unicode
