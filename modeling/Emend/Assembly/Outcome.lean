import Emend.Assembly.Options
import Emend.Assembly.Report
import Emend.Assembly.Revision
import Emend.Edit.Projection
import Emend.Uri.File
import Emend.Workspace.Registry

/-!
# What one revision contributes

An `Assembler` turns revisions into changes.  This module says what it makes of a single one
(`Assembler.outcome`):

* a new file is created and then filled;
* a file that is gone is deleted;
* a file that has moved is renamed, and then updated if its text differs;
* any other file is updated, if its text differs.

An update addresses the text that an editor shows, if the registry has the document open, and
otherwise the text before the revision, which may have to be loaded.  Files that are created,
deleted or renamed must have a place on disk.
-/

set_option autoImplicit false

namespace Emend

open Diff

/-- A source of the texts of documents, by uri. -/
abbrev Loader := String → Except ErrorChain Text

/-- What turns revisions into changes. -/
structure Assembler where
  registry : Registry
  loader : Option Loader
  differ : Differ
  options : AssembleOptions

/-- The edits worked out for one document. -/
structure FileEdits where
  edits : List TextEdit
  spans : Nat
  droppedSpans : Nat
  stats : DiffStats
  deriving DecidableEq, Repr

/-- What one revision contributes. -/
structure FileOutcome where
  changes : List FileChange
  report : Option FileReport
  deriving DecidableEq, Repr

/-- The text that an update addresses, before any loading. -/
inductive Source where
  | live (snapshot : Snapshot) (version : Int32)
  | supplied (text : Text)
  | deferred
  deriving DecidableEq, Repr

/-- Refuses a uri that does not name a file on disk. -/
def requireFile (uri : String) : Except EditError Unit :=
  if Uri.namesFile uri then .ok () else .error (.identityMismatch uri)

namespace Assembler

/-- The assembler with a registry and nothing else set. -/
def new (registry : Registry) : Assembler :=
  ⟨registry, none, (default : AssembleOptions).algorithm.diff, default⟩

/-- Sets the options, and with them the algorithm of the diff. -/
def withOptions (a : Assembler) (options : AssembleOptions) : Assembler :=
  { a with options, differ := options.algorithm.diff }

/-- Sets the loader. -/
def withLoader (a : Assembler) (loader : Loader) : Assembler := { a with loader := some loader }

/-- Sets the source of spans. -/
def withDiffer (a : Assembler) (differ : Differ) : Assembler := { a with differ }

/-- Sets the annotation of every edit, and its id. -/
def annotating (a : Assembler) (id : String) (details : AnnotationDetails) : Assembler :=
  { a with options := { a.options with stamp := some (id, details) } }

/-! ## Edits of a document -/

/-- The edit that replaces a document. -/
def wholeDocumentEdit (a : Assembler) (old new : Text) : TextEdit :=
  (TextEdit.replace (.between .origin (old.endPosition a.options.encoding)) new).annotatedWith
    a.options.annotationId

/-- The edits that lead from a snapshot to a text. -/
def computeEdits (a : Assembler) (snapshot : Snapshot) (after : Text) :
    Except EditError FileEdits :=
  let spans := a.differ snapshot.content after
  let stats := DiffStats.ofSpans spans
  if spans.isEmpty then .ok ⟨[], 0, 0, stats⟩
  else
    match a.options.mode with
    | .wholeDocument =>
      .ok ⟨[a.wholeDocumentEdit snapshot.content after], spans.length, 0, stats⟩
    | .diff => do
      let projection := Projection.ofSpans snapshot.content after spans
      let accumulated ← (DocumentEdits.new snapshot false).pushAll projection.edits
      let edits ← accumulated.toTextEdits a.options.encoding a.options.annotationId
      return ⟨edits, spans.length, projection.dropped.length, stats⟩

/-- The update that leads from one text of a document to another, if they differ.  The registry
does not matter. -/
def singleFile (a : Assembler) (uri : String) (old new : Text) :
    Except EditError (Option FileChange) := do
  let snapshot := Snapshot.unversioned uri old
  let computed ← a.computeEdits snapshot new
  return if computed.edits.isEmpty then none else some (.update snapshot.identity computed.edits)

/-! ## Sources

The document that an editor has open is looked up before the text of the revision is considered, so
a loader is never asked for an open document.  What `source` answers is worked out without loading;
`resolve` loads if there is nothing else. -/

/-- The text that an update of a document addresses: what an editor shows, if one has the document
open, and otherwise the text before the revision. -/
def source (a : Assembler) (uri : String) (before : SourceText) : Source :=
  let given : Source := match before with
    | .inline text => .supplied text
    | .deferred => .deferred
  match a.registry.lookup? uri with
  | none => given
  | some snapshot =>
    match snapshot.version with
    | some v => if snapshot.isOpen then .live snapshot v else given
    | none => given

/-- The text that the loader has for a document. -/
def load (a : Assembler) (uri : String) : Except EditError Text :=
  match a.loader with
  | none => .error (.sourceUnavailable uri "no source loader configured")
  | some loader => (loader uri).mapError fun e ↦ .sourceUnavailable uri e.oneLine

/-- The snapshot that an update of a document addresses, and where its text came from. -/
def resolve (a : Assembler) (uri : String) (before : SourceText) :
    Except EditError (Snapshot × ContentSource) :=
  match a.source uri before with
  | .live snapshot version => .ok (snapshot, .liveSnapshot version)
  | .supplied text => .ok (.unversioned uri text, .supplied)
  | .deferred => (a.load uri).map fun text ↦ (.unversioned uri text, .loaded)

/-! ## Outcomes

The checks of each branch are made in front of everything else in it.  In particular a rename whose
uris have no place on disk fails before the text of the file is loaded. -/

/-- The outcome of a new file. -/
def createOutcome (a : Assembler) (uri : String) (after : Text) : Except EditError FileOutcome := do
  requireFile uri
  let edit := (TextEdit.insert .origin after).annotatedWith a.options.annotationId
  return ⟨[.create uri, .update (.unversioned uri) [edit]], some (.ofResource uri .created)⟩

/-- The outcome of a file that is gone. -/
def deleteOutcome (uri target : String) : Except EditError FileOutcome := do
  requireFile target
  return ⟨[.delete target], some (.ofResource uri .deleted)⟩

/-- The rename that a revision starts with, if the file has moved. -/
def renameChanges (r : FileRevision) : Except EditError (List FileChange) :=
  if r.isRename then do
    requireFile r.sourceUri
    requireFile r.uri
    return [.rename r.sourceUri r.uri]
  else .ok []

/-- The outcome of a file with a text before and a text after. -/
def updateOutcome (a : Assembler) (r : FileRevision) (before : SourceText) (after : Text) :
    Except EditError FileOutcome := do
  let renames ← renameChanges r
  let (snapshot, source) ← a.resolve r.sourceUri before
  let computed ← a.computeEdits snapshot after
  let document := if r.isRename then .unversioned r.uri else snapshot.identity
  let updates := if computed.edits.isEmpty then [] else [.update document computed.edits]
  return ⟨renames ++ updates,
    some ⟨r.uri, source, computed.spans, computed.droppedSpans, computed.stats⟩⟩

/-- What a revision contributes, or why it contributes nothing. -/
def outcome (a : Assembler) (r : FileRevision) : Except EditError FileOutcome :=
  match r.before, r.after with
  | none, none => .ok ⟨[], none⟩
  | none, some after => a.createOutcome r.uri after
  | some _, none => deleteOutcome r.uri r.sourceUri
  | some before, some after => a.updateOutcome r before after

/-- The document that working out a revision asks the loader for. -/
def loads? (a : Assembler) (r : FileRevision) : Option String :=
  match r.before, r.after with
  | some before, some _ =>
    match renameChanges r, a.loader, a.source r.sourceUri before with
    | .ok _, some _, .deferred => some r.sourceUri
    | _, _, _ => none
  | _, _ => none

end Assembler

end Emend
