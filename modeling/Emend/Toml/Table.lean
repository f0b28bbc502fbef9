import Emend.Json.Value

/-!
# Tables of a settings file

A settings file builds its tables piece by piece, and each piece may come once.  A table can come
into being in three ways, and its `Origin` says how it may be added to later:

* a *header* of its own opens it, which nothing may do a second time;
* the header of a table within it *implies* it, and then its own header may still come, or a dotted
  key that goes through it;
* a *dotted* key goes through it, and then only such keys and headers of tables within it add to it.

A table written as a value is closed for good.  `Members.define` adds a value and `Members.open`
handles a header; both give nothing where the file repeats or contradicts itself.
-/

set_option autoImplicit false

namespace Emend.Toml

/-- How a table came into being. -/
inductive Origin where
  | header
  | implied
  | dotted
  deriving DecidableEq, Repr

/-- What a key of a table under construction stands for. -/
inductive Item where
  /-- A value, which is complete. -/
  | value (v : Json)
  /-- A table. -/
  | table (origin : Origin) (members : List (String × Item))
  /-- An array of tables, of which only the last can be added to. -/
  | tables (earlier : List Json) (last : List (String × Item))
  deriving Inhabited

/-- The members of a table under construction. -/
abbrev Members := List (String × Item)

namespace Members

mutual

/-- The finished value of an item. -/
def itemToJson : Item → Json
  | .value v => v
  | .table _ ms => .ofMembers (membersToJson ms)
  | .tables earlier last => .arr (earlier ++ [.ofMembers (membersToJson last)])

/-- The finished values of the members of a table. -/
def membersToJson : List (String × Item) → Entries Json
  | [] => []
  | (k, i) :: ms => (k, itemToJson i) :: membersToJson ms

end

/-- The finished value of a table. -/
def toJson (ms : Members) : Json := .ofMembers (membersToJson ms)

/-- Changes what a key stands for. -/
def alter (ms : Members) (key : String) (f : Option Item → Option Item) : Option Members :=
  (f (Entries.get? ms key)).map (Entries.insert ms key)

/-- The origin of a table that a path goes through.  Dotted keys make an implied table their own,
and they do not go through one that has a header. -/
def passed? (fresh origin : Origin) : Option Origin :=
  match fresh, origin with
  | .dotted, .header => none
  | .dotted, _ => some .dotted
  | _, origin => some origin

/-- Changes the table that a path leads to.  The tables on the way that do not exist yet come into
being with the origin `fresh`. -/
def descend (fresh : Origin) (path : List String) (f : Origin → Members → Option Members)
    (origin : Origin) (ms : Members) : Option Members :=
  match path with
  | [] => f origin ms
  | key :: path =>
    alter ms key fun
      | none => (descend fresh path f fresh []).map (.table fresh)
      | some (.table o inner) => do
        let o ← passed? fresh o
        return .table o (← descend fresh path f o inner)
      | some (.tables earlier last) => (descend fresh path f .header last).map (.tables earlier)
      | some (.value _) => none

/-- Gives a key of a table a value.  A dotted key needs a table made by dotted keys, and any other
key a table that is not. -/
def defineHere (viaDots : Bool) (key : String) (v : Json) (origin : Origin) (ms : Members) :
    Option Members :=
  if viaDots ≠ (origin = .dotted) then none
  else
    alter ms key fun
      | none => some (.value v)
      | some _ => none

/-- Gives the key at the end of a dotted path a value, within the table that a header opened. -/
def define (ms : Members) (header path : List String) (key : String) (v : Json) : Option Members :=
  descend .implied header
    (descend .dotted path (defineHere (!path.isEmpty) key v)) .header ms

/-- Opens the table of a header. -/
def openTable (ms : Members) (path : List String) (key : String) : Option Members :=
  descend .implied path
    (fun _ ms ↦ alter ms key fun
      | none => some (.table .header [])
      | some (.table .implied inner) => some (.table .header inner)
      | some _ => none) .header ms

/-- Opens one more table of the array of tables of a header. -/
def openElement (ms : Members) (path : List String) (key : String) : Option Members :=
  descend .implied path
    (fun _ ms ↦ alter ms key fun
      | none => some (.tables [] [])
      | some (.tables earlier last) => some (.tables (earlier ++ [toJson last]) [])
      | some _ => none) .header ms

end Members

end Emend.Toml
