import Emend.Proofs.Change.Acceptance

/-!
# Two forms of a workspace edit

A client may list the changes of a workspace edit, or send an object from documents to their edits
in the older form.  The two are read by different means: records that are told apart by their
members on the one hand, and a walk over the members of an object on the other.  Both accept the
same edits and the same annotations and come to the same result
(`WorkspaceEdit.parse_legacyForm_iff`), which `WorkspaceEdit.SaysOf` describes.

The edits of a document and the annotations may be any values, also such that cannot be read.  So
neither form is assumed to be well formed, and the equivalence speaks of success and of the result
at once.  Both directions go through `SaysOf`: each form is read exactly as it says.
-/

set_option autoImplicit false

namespace Emend

open Decoder Record

namespace FileChange

/-- An update of a document without a version, where the edits may be any value. -/
def unversionedJson (uri : String) (edits : Json) : Json :=
  .obj [("edits", edits), ("textDocument", .obj [("uri", .str uri), ("version", .null)])]

variable {uri : String} {edits : Json} {c : FileChange}

theorem updateOfJson?_unversionedJson : updateOfJson? (unversionedJson uri edits) = some c ↔
    ∃ es, TextEdit.ofJson.list edits = .ok es ∧ update (.unversioned uri) es = c := by
  have hdocument : DocumentIdentity.ofJson (.obj [("uri", .str uri), ("version", .null)])
      = .ok (.unversioned uri) := DocumentIdentity.ofJson_inverts (.unversioned uri)
  rw [updateOfJson?, unversionedJson, toOption_eq_some_iff, decoder_obj_iff]
  simp (disch := decide) only [reads_seq_iff, reads_map_iff, reads_required_iff, member?_head_iff,
    member?_tail_iff, hdocument]
  simp

/-- The edits decide alone whether such an update can be read. -/
theorem ofJson_unversionedJson_iff : ofJson (unversionedJson uri edits) = .ok c ↔
    ∃ es, TextEdit.ofJson.list edits = .ok es ∧ update (.unversioned uri) es = c := by
  have hresource : resourceOfJson? (unversionedJson uri edits) = none := rfl
  rw [← updateOfJson?_unversionedJson, ofJson, hresource]
  cases updateOfJson? (unversionedJson uri edits) <;> simp

end FileChange

namespace WorkspaceEdit

/-- The older form: an object from documents to their edits. -/
def legacyForm (changes annotations : Dict Json) : Json :=
  .obj [("changeAnnotations", .obj annotations.entries), ("changes", .obj changes.entries)]

/-- The form that lists changes, with one update for each document in the order of the uris. -/
def listedForm (changes annotations : Dict Json) : Json :=
  .obj [("changeAnnotations", .obj annotations.entries),
    ("documentChanges", .arr (changes.entries.map fun m ↦ FileChange.unversionedJson m.1 m.2))]

/-- A workspace edit says what is to be read from two objects: it updates the documents of the one
in their order, none of which has a version, and has the annotations of the other. -/
structure SaysOf (changes annotations : Dict Json) (w : WorkspaceEdit) : Prop where
  changes : List.Forall₂ (fun m c ↦ ∃ es, TextEdit.ofJson.list m.2 = .ok es ∧
    FileChange.update (.unversioned m.1) es = c) changes.entries w.changes
  annotations : AnnotationDetails.ofJson.dict (.obj annotations.entries) = .ok w.annotations

variable {changes annotations : Dict Json} {w : WorkspaceEdit}

theorem parse_listedForm_eq_ok_iff :
    parse (listedForm changes annotations) = .ok w ↔ SaysOf changes annotations w := by
  have hupdates : ∀ cs, ReadsItems (.arr (changes.entries.map fun m ↦
      FileChange.unversionedJson m.1 m.2)) cs ↔ ReadsUpdates changes.entries cs := by
    intro cs
    simp [ReadsItems, ReadsUpdates, List.forall₂_map_left_iff,
      FileChange.ofJson_unversionedJson_iff]
  have hlist : (listedForm changes annotations).member? "documentChanges"
      = some (.arr (changes.entries.map fun m ↦ FileChange.unversionedJson m.1 m.2)) := rfl
  have hannotations : (listedForm changes annotations).member? "changeAnnotations"
      = some (.obj annotations.entries) := rfl
  rw [parse_list_iff hlist]
  constructor
  · intro h
    obtain ⟨hnone, -⟩ | ⟨_, hsome, has⟩ := h.annotations
    · cases hannotations.symm.trans hnone
    · cases hannotations.symm.trans hsome
      exact ⟨(hupdates _).1 h.changes, has⟩
  · intro h
    exact ⟨(hupdates _).2 h.changes, .inr ⟨_, hannotations, h.annotations⟩⟩

theorem parse_legacyForm_eq_ok_iff :
    parse (legacyForm changes annotations) = .ok w ↔ SaysOf changes annotations w := by
  have hlist : (legacyForm changes annotations).member? "documentChanges" = none := rfl
  rw [parse_objects_iff hlist]
  exact ⟨fun h ↦ ⟨h.changes, h.annotations⟩, fun h ↦ ⟨h.changes, h.annotations⟩⟩

/-- **The two forms of a workspace edit say the same**, or cannot be read, for all values that can
stand for edits and for annotations. -/
theorem parse_legacyForm_iff (changes annotations : Dict Json) (w : WorkspaceEdit) :
    (parse (legacyForm changes annotations) = .ok w ↔
      parse (listedForm changes annotations) = .ok w) ∧
    (parse (legacyForm changes annotations) = .ok w ↔ SaysOf changes annotations w) :=
  ⟨parse_legacyForm_eq_ok_iff.trans parse_listedForm_eq_ok_iff.symm, parse_legacyForm_eq_ok_iff⟩

end WorkspaceEdit

end Emend
