import Emend.Assembly.Revision
import Emend.Json.Reading

/-!
# Manifests

A manifest is a JSON text that lists revised files by where their texts are found.  It is read
strictly where it says something and leniently where it does not: a field that is known may come
only once, and what a field holds that is not known need not even be a value that could be read.

A structure is an object, or an array with all its fields in their order.
-/

set_option autoImplicit false

namespace Emend.Cli

/-- One revised file. -/
structure ManifestEntry where
  /-- The uri of the document. -/
  uri : Option String
  /-- The path of the document, which gives its uri if there is none. -/
  path : Option Text
  /-- The path of the text before the revision. -/
  before : Option Text
  /-- Whether the text before the revision is that of the document. -/
  beforeOnDisk : Bool
  /-- The path of the text after the revision. -/
  after : Option Text
  previousUri : Option String
  deriving DecidableEq, Repr

/-- The revised files, and a label if they are to be sent as a request. -/
structure Manifest where
  label : Option String
  files : List ManifestEntry
  deriving DecidableEq, Repr

/-! ## Fields -/

/-- The values of fields: from an object, which may lack any of them but has none twice, or from an
array, which has them all. -/
def fields? (names : List String) : RawJson → Option (List (Option RawJson))
  | .object ms => do
    let entries ← ms.mapM fun m ↦ (StringPiece.string? m.1).map fun key ↦ (key, m.2)
    let known := (entries.map Prod.fst).filter names.contains
    if known.Nodup then some (names.map (Entries.get? entries)) else none
  | .array xs => if xs.length = names.length then some (xs.map some) else none
  | _ => none

/-- A string that may be missing, or null in its place. -/
def optionalString? : Option RawJson → Option (Option String)
  | none | some .null => some none
  | some (.string ps) => (StringPiece.string? ps).map some
  | some _ => none

/-- A path that may be missing, or null in its place. -/
def optionalPath? (x : Option RawJson) : Option (Option Text) :=
  (optionalString? x).map fun s ↦ s.map String.toList

/-- A truth value, which is false if it is missing. -/
def flag? : Option RawJson → Option Bool
  | none => some false
  | some (.bool b) => some b
  | some _ => none

/-! ## The whole -/

/-- Reads an entry. -/
def ManifestEntry.ofRaw? (x : RawJson) : Option ManifestEntry := do
  match ← fields? ["uri", "path", "before", "before_on_disk", "after", "previous_uri"] x with
  | [uri, path, before, beforeOnDisk, after, previousUri] =>
    return ⟨← optionalString? uri, ← optionalPath? path, ← optionalPath? before,
      ← flag? beforeOnDisk, ← optionalPath? after, ← optionalString? previousUri⟩
  | _ => none

/-- Reads a manifest. -/
def Manifest.ofRaw? (x : RawJson) : Option Manifest := do
  match ← fields? ["label", "files"] x with
  | [label, some (.array files)] =>
    return ⟨← optionalString? label, ← files.mapM ManifestEntry.ofRaw?⟩
  | _ => none

/-- The manifest that a text describes. -/
def Manifest.parse? (t : Text) : Option Manifest := RawJson.parse? t >>= Manifest.ofRaw?

end Emend.Cli
