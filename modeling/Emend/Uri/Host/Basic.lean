import Emend.Uri.Host.Address
import Emend.Uri.Host.Label
import Emend.Uri.Percent

/-!
# Hosts

The host of a URI is a name or a numeric address.  `Host.parse?` reads it as it stands in a URI,
where it may have escapes.  Names that are spelt differently and mean the same host are read alike:
capitals do not matter, nor does how a character is written.
-/

set_option autoImplicit false

namespace Emend.Uri

open Unicode

/-- A host. -/
inductive Host where
  /-- A name, by its labels, in plain characters. -/
  | named (labels : List Text)
  /-- A numeric address. -/
  | address
  deriving DecidableEq, Repr

/-- Whether an ASCII character has no place in the name of a host. -/
def isForbiddenInHost (c : Char) : Bool := c.toNat ≤ 0x20 || "\x7f#%/:<>?[\\]@^|".contains c

/-- The labels of the name of a host. -/
def labels? (name : Text) : Option (List Text) := do
  let name := canonical (← name.mapM foldHostChar?).flatten
  if name.any isForbiddenInHost then none
  else
    let labels ← (name.splitOn '.').mapM decodeLabel?
    let isMixed := labels.any runsBackward
    if labels.all fun l ↦ isLabel l && (!isMixed || keepsDirection l) then some labels else none

namespace Host

/-- This machine. -/
def localhost : Host := named ["localhost".toList]

/-- The host with a name, which is an address if it ends in a number. -/
def ofName? (name : Text) : Option Host := do
  let labels ← labels? name
  if labels = [[]] then none
  else if endsInNumber labels then if isAddress32 labels then some address else none
  else some (named labels)

/-- Reads a host.  An address of 128 bits stands between brackets. -/
def parse? (t : Text) : Option Host :=
  match t with
  | '[' :: t => if t.getLast? = some ']' ∧ isAddress128 t.dropLast then some address else none
  | t => Text.ofUtf8? (percentDecode t.utf8) >>= ofName?

end Host

end Emend.Uri
