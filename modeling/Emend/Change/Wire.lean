import Emend.Change.Basic
import Emend.Diff.Lines
import Emend.Json.Decode

/-!
# Changes as JSON

The form in which changes travel between server and client.  Each type has an encoder `toJson` and
a decoder `ofJson`.  A file change has no tag that says which of its shapes it has: a *resource
operation* has a `kind`, and anything else is read as an update.

`WorkspaceEdit.parse` also accepts the older form of a workspace edit, an object `changes` from
documents to their edits.
-/

set_option autoImplicit false

namespace Emend

/-- A member that is left out when there is nothing to say. -/
def Json.optionalMember {α : Type} (key : String) (encode : α → Json) :
    Option α → List (String × Json)
  | none => []
  | some a => [(key, encode a)]

/-! ## Positions and edits -/

namespace Position

/-- A position as JSON. -/
def toJson (p : Position) : Json :=
  .obj [("character", .int p.character.toNat), ("line", .int p.line.toNat)]

/-- Reads a position. -/
def ofJson : Decoder Position :=
  Record.decoder "Position"
    (Position.mk <$> .required "line" Decoder.u32 <*> .required "character" Decoder.u32)

end Position

namespace Range

/-- A range as JSON. -/
def toJson (r : Range) : Json := .obj [("end", r.stop.toJson), ("start", r.start.toJson)]

/-- Reads a range. -/
def ofJson : Decoder Range :=
  Record.decoder "Range"
    (Range.mk <$> .required "start" Position.ofJson <*> .required "end" Position.ofJson)

end Range

namespace TextEdit

/-- A text edit as JSON. -/
def toJson (e : TextEdit) : Json :=
  .obj (Json.optionalMember "annotationId" .str e.annotationId ++
    [("newText", .str (String.ofList e.newText)), ("range", e.range.toJson)])

/-- Reads a text edit. -/
def ofJson : Decoder TextEdit :=
  Record.decoder "TextEdit"
    (TextEdit.mk <$> .required "range" Range.ofJson <*> .required "newText" Decoder.text
      <*> .optional "annotationId" Decoder.string.nullable none)

end TextEdit

/-! ## Documents and annotations -/

namespace DocumentIdentity

/-- A document identity as JSON. -/
def toJson (d : DocumentIdentity) : Json :=
  .obj [("uri", .str d.uri),
    ("version", match d.version with
      | some v => .int v.toInt
      | none => .null)]

/-- Reads a document identity. -/
def ofJson : Decoder DocumentIdentity :=
  Record.decoder "DocumentIdentity"
    (DocumentIdentity.mk <$> .required "uri" Decoder.string
      <*> .optional "version" Decoder.i32.nullable none)

end DocumentIdentity

namespace AnnotationDetails

/-- A change annotation as JSON. -/
def toJson (a : AnnotationDetails) : Json :=
  .obj (Json.optionalMember "description" .str a.description ++ [("label", .str a.label)] ++
    Json.optionalMember "needsConfirmation" .bool a.needsConfirmation)

/-- Reads a change annotation. -/
def ofJson : Decoder AnnotationDetails :=
  Record.decoder "ChangeAnnotation"
    (AnnotationDetails.mk <$> .required "label" Decoder.string
      <*> .optional "needsConfirmation" Decoder.bool.nullable none
      <*> .optional "description" Decoder.string.nullable none)

end AnnotationDetails

/-! ## File changes -/

namespace FileChange

/-- A file change as JSON. -/
def toJson : FileChange → Json
  | create uri => .obj [("kind", .str "create"), ("uri", .str uri)]
  | delete uri => .obj [("kind", .str "delete"), ("uri", .str uri)]
  | rename oldUri newUri =>
    .obj [("kind", .str "rename"), ("newUri", .str newUri), ("oldUri", .str oldUri)]
  | update document edits =>
    .obj [("edits", .arr (edits.map TextEdit.toJson)), ("textDocument", document.toJson)]

/-- The kinds of resource operations. -/
inductive ResourceKind where
  | create
  | rename
  | delete
  deriving DecidableEq, Repr

/-- The kind that a tag stands for, by its name or its number. -/
def ResourceKind.ofJson? : Json → Option ResourceKind
  | .str "create" | .int 0 => some create
  | .str "rename" | .int 1 => some rename
  | .str "delete" | .int 2 => some delete
  | _ => none

/-- The fields of a resource operation. -/
def resourceRecord : ResourceKind → Record FileChange
  | .create => create <$> .required "uri" Decoder.string
  | .rename => rename <$> .required "oldUri" Decoder.string <*> .required "newUri" Decoder.string
  | .delete => delete <$> .required "uri" Decoder.string

/-- Reads a resource operation: an object with a member `kind`, or an array that starts with the
kind, with the fields behind it. -/
def resourceOfJson? (j : Json) : Option FileChange := do
  let (tag, body) ← match j with
    | .obj ms => (Entries.get? ms "kind").map fun tag ↦ (tag, j)
    | .arr (tag :: xs) => some (tag, .arr xs)
    | _ => none
  let kind ← ResourceKind.ofJson? tag
  ((resourceRecord kind).decoder "ResourceOperation" body).toOption

/-- Reads an update. -/
def updateOfJson? (j : Json) : Option FileChange :=
  (Record.decoder "TextDocumentEdit"
    (update <$> .required "textDocument" DocumentIdentity.ofJson
      <*> .required "edits" TextEdit.ofJson.list) j).toOption

/-- Reads a file change. -/
def ofJson : Decoder FileChange := fun j ↦
  match resourceOfJson? j <|> updateOfJson? j with
  | some c => .ok c
  | none => .error (.noVariant "DocumentChange")

end FileChange

/-! ## Workspace edits -/

namespace WorkspaceEdit

/-- A workspace edit as JSON. -/
def toJson (w : WorkspaceEdit) : Json :=
  .obj ((if w.annotations.isEmpty then []
      else [("changeAnnotations",
        .obj (w.annotations.entries.map fun (id, a) ↦ (id, a.toJson)))]) ++
    [("documentChanges", .arr (w.changes.map FileChange.toJson))])

/-- Reads a workspace edit. -/
def ofJson : Decoder WorkspaceEdit :=
  Record.decoder "WorkspaceEditSet"
    (WorkspaceEdit.mk <$> .optional "documentChanges" FileChange.ofJson.list []
      <*> .optional "changeAnnotations" AnnotationDetails.ofJson.dict .empty)

/-- The members of a member that is an object. -/
def objectMembers (j : Json) (key : String) : List (String × Json) :=
  match j.member? key with
  | some (.obj ms) => ms
  | _ => []

/-- Reads a workspace edit in either of its forms.  Where `documentChanges` is absent, each member
of `changes` becomes an update of a document without a version. -/
def parse : Decoder WorkspaceEdit := fun j ↦
  match j.member? "documentChanges" with
  | some _ => ofJson j
  | none => do
    let changes ← (objectMembers j "changes").mapM fun (uri, edits) ↦
      (TextEdit.ofJson.list edits).map (FileChange.update (.unversioned uri))
    let annotations ← (objectMembers j "changeAnnotations").mapM fun (id, a) ↦
      (AnnotationDetails.ofJson a).map fun a ↦ (id, a)
    return ⟨changes, .ofEntries annotations⟩

end WorkspaceEdit

/-! ## Requests to the client -/

/-- The parameters of a request to apply a workspace edit, with an optional label. -/
def applyEditParams (label : Option String) (w : WorkspaceEdit) : Json :=
  .obj ([("edit", w.toJson)] ++ Json.optionalMember "label" .str label)

/-- A request from server to client. -/
structure Request where
  id : Nat
  method : String
  params : Option Json
  deriving DecidableEq

namespace Request

/-- A request as JSON. -/
def toJson (r : Request) : Json :=
  .obj ([("id", .int r.id), ("jsonrpc", .str "2.0"), ("method", .str r.method)] ++
    Json.optionalMember "params" (fun p ↦ p) r.params)

/-- The request to apply a workspace edit. -/
def applyEdit (id : Nat) (label : Option String) (w : WorkspaceEdit) : Request :=
  ⟨id, "workspace/applyEdit", some (applyEditParams label w)⟩

end Request

/-! ## Settings -/

/-- The encodings by name, in the order in which messages list them. -/
def PositionEncoding.variants : List (String × PositionEncoding) :=
  [PositionEncoding.utf8, .utf16, .utf32].map fun e ↦ (e.name, e)

/-- Reads the name of an encoding. -/
def PositionEncoding.ofJson : Decoder PositionEncoding :=
  Decoder.enumeration PositionEncoding.variants Decoder.unit

/-- The algorithms by name, in the order in which messages list them. -/
def Diff.Algorithm.variants : List (String × Diff.Algorithm) :=
  [Diff.Algorithm.myers, .patience, .lcs].map fun a ↦ (a.name, a)

/-- Reads the name of an algorithm. -/
def Diff.Algorithm.ofJson : Decoder Diff.Algorithm :=
  Decoder.enumeration Diff.Algorithm.variants Decoder.unit

end Emend
