import Emend.Dict
import Emend.Text.Position

/-!
# Changes to a workspace

A `WorkspaceEdit` is a list of `FileChange`s, which create, delete, rename and edit files, with the
annotations that edits may refer to.  A change of content is an update: a list of `TextEdit`s
addressed to one document, which a `DocumentIdentity` names together with the version an editor
knows it by.

* `DocumentIdentity.isOpen` says whether an editor has the document open, which is a matter of its
  version.
* `WorkspaceEdit.updateFor?` and `WorkspaceEdit.textEditsFor` look for what concerns one document.
  They go by its uri alone.

An edit refers to an annotation by an id, and nothing in the types says that there is an annotation
with that id.
-/

set_option autoImplicit false

namespace Emend

/-! ## Text edits -/

/-- Replaces the text of a range. -/
structure TextEdit where
  range : Range
  newText : Text
  annotationId : Option String
  deriving DecidableEq, Repr

namespace TextEdit

/-- Replaces a range, without an annotation. -/
def replace (range : Range) (newText : Text) : TextEdit := ⟨range, newText, none⟩

/-- Inserts text at a position. -/
def insert (position : Position) (newText : Text) : TextEdit := replace (.point position) newText

/-- Deletes a range. -/
def delete (range : Range) : TextEdit := replace range []

/-- The edit with another annotation, or with none. -/
def annotatedWith (e : TextEdit) (id : Option String) : TextEdit := { e with annotationId := id }

/-- Whether no text is replaced. -/
def isInsertion (e : TextEdit) : Bool := e.range.isEmpty

/-- Whether text is replaced by none. -/
def isDeletion (e : TextEdit) : Bool := e.newText.isEmpty && !e.range.isEmpty

end TextEdit

/-! ## Documents and annotations -/

/-- A document, and its version where an editor has it open. -/
structure DocumentIdentity where
  uri : String
  version : Option Int32
  deriving DecidableEq, Repr

namespace DocumentIdentity

/-- A document that no editor has opened. -/
def unversioned (uri : String) : DocumentIdentity := ⟨uri, none⟩

/-- Whether an editor owns the document: its version is known and positive. -/
def isOpen (d : DocumentIdentity) : Bool :=
  match d.version with
  | some v => 0 < v
  | none => false

end DocumentIdentity

/-- What a client may show beside the edits that refer to it. -/
structure AnnotationDetails where
  label : String
  needsConfirmation : Option Bool
  description : Option String
  deriving DecidableEq, Repr

/-- An annotation with nothing but a label. -/
def AnnotationDetails.ofLabel (label : String) : AnnotationDetails := ⟨label, none, none⟩

/-! ## File changes -/

/-- One operation of a workspace edit. -/
inductive FileChange where
  | create (uri : String)
  | delete (uri : String)
  | rename (oldUri newUri : String)
  | update (document : DocumentIdentity) (edits : List TextEdit)
  deriving DecidableEq, Repr

namespace FileChange

/-- The name of an operation. -/
def label : FileChange → String
  | create _ => "create"
  | delete _ => "delete"
  | rename _ _ => "rename"
  | update _ _ => "update"

/-- The file that a change is about: for a rename, under its new uri. -/
def uri : FileChange → String
  | create uri => uri
  | delete uri => uri
  | rename _ newUri => newUri
  | update document _ => document.uri

/-- The edits of an update. -/
def edits : FileChange → List TextEdit
  | update _ edits => edits
  | _ => []

/-- Whether a change updates a file. -/
def isUpdateOf (c : FileChange) (uri : String) : Bool :=
  match c with
  | update document _ => document.uri = uri
  | _ => false

end FileChange

/-! ## Workspace edits -/

/-- A change to any number of files. -/
structure WorkspaceEdit where
  changes : List FileChange
  annotations : Dict AnnotationDetails
  deriving DecidableEq

namespace WorkspaceEdit

/-- The edit that changes nothing. -/
def empty : WorkspaceEdit := ⟨[], .empty⟩

instance : Inhabited WorkspaceEdit := ⟨empty⟩

/-- Adds a change at the end. -/
def push (w : WorkspaceEdit) (c : FileChange) : WorkspaceEdit :=
  { w with changes := w.changes ++ [c] }

/-- Adds changes at the end. -/
def extend (w : WorkspaceEdit) (cs : List FileChange) : WorkspaceEdit :=
  { w with changes := w.changes ++ cs }

/-- Gives an id an annotation, in place of the one it may have. -/
def annotate (w : WorkspaceEdit) (id : String) (a : AnnotationDetails) : WorkspaceEdit :=
  { w with annotations := w.annotations.insert id a }

/-- The number of changes. -/
def size (w : WorkspaceEdit) : Nat := w.changes.length

/-- Whether there are no changes. -/
def isEmpty (w : WorkspaceEdit) : Bool := w.changes.isEmpty

/-- The first update of a file. -/
def updateFor? (w : WorkspaceEdit) (uri : String) : Option FileChange :=
  w.changes.find? fun c ↦ c.isUpdateOf uri

/-- All edits of a file, in the order of the changes. -/
def textEditsFor (w : WorkspaceEdit) (uri : String) : List TextEdit :=
  (w.changes.filter fun c ↦ c.isUpdateOf uri).flatMap FileChange.edits

end WorkspaceEdit

end Emend
