import Emend.Change.Wire
import Emend.Proofs.Json.Decode

/-!
# Changes survive JSON

What the encoders of changes write is read back as it was, from a position up to a whole workspace
edit (`WorkspaceEdit.parse_toJson`).

There is a theorem `ofJson_inverts` for each type, and that of a type uses those of its fields.
None of them has a hypothesis: texts may hold any characters, versions may be negative, and uris and
ids of annotations may be any strings.  In the other direction there is no such theorem: members
that are no field are ignored, and a missing version means the same as null.
-/

set_option autoImplicit false

namespace Emend

open Decoder Record

/-! ## Members that may be left out

An encoder leaves out a member without a value, and a decoder takes an absent member and null alike.
So there are two lists of members for one structure, and these lemmas are what keeps the proofs
below from splitting over each optional field. -/

section OptionalMember

variable {α β : Type} {key k : String} {d : Decoder α} {encode : β → Json} {ms : Entries Json}

/-- Past a member that may be there. -/
theorem Record.member?_skip {found : Option α} (hk : k ≠ key) (h : member? key d ms = .ok found)
    (b : Option β) : member? key d (Json.optionalMember k encode b ++ ms) = .ok found := by
  cases b with
  | none => exact h
  | some b => exact member?_tail hk h

/-- A member that may be there itself. -/
theorem Record.member?_optionalMember {encode : α → Json}
    (hd : ∀ a, d.nullable (encode a) = .ok (some a)) (h : member? key d.nullable ms = .ok none)
    (a : Option α) :
    member? key d.nullable (Json.optionalMember key encode a ++ ms) = .ok (a.map some) := by
  cases a with
  | none => exact h
  | some a => exact member?_head (hd a)

/-- Nothing is said by null, and by no member at all. -/
theorem Record.reads_nullable {a : Option α} (h : member? key d.nullable ms = .ok (a.map some)) :
    (Record.optional key d.nullable none).Reads ms a := by
  cases a with
  | none => exact reads_absent h none
  | some a => exact reads_optional h none

end OptionalMember

/-! ## Positions and edits -/

theorem Position.ofJson_inverts : Inverts ofJson toJson := by
  intro p
  refine decoder_obj (((reads_required ?_).map _).seq (reads_required ?_)) _
  · exact member?_tail (by decide) (member?_head (u32_inverts p.line))
  · exact member?_head (u32_inverts p.character)

theorem Range.ofJson_inverts : Inverts ofJson toJson := by
  intro r
  refine decoder_obj (((reads_required ?_).map _).seq (reads_required ?_)) _
  · exact member?_tail (by decide) (member?_head (Position.ofJson_inverts r.start))
  · exact member?_head (Position.ofJson_inverts r.stop)

theorem TextEdit.ofJson_inverts : Inverts ofJson toJson := by
  intro e
  refine decoder_obj ((((reads_required ?_).map _).seq (reads_required ?_)).seq ?_) _
  · exact member?_skip (by decide)
      (member?_tail (by decide) (member?_head (Range.ofJson_inverts e.range))) e.annotationId
  · exact member?_skip (by decide) (member?_head (text_inverts e.newText)) e.annotationId
  · refine reads_nullable (member?_optionalMember (fun _ ↦ rfl) ?_ e.annotationId)
    exact member?_tail (by decide) (member?_tail (by decide) rfl)

/-! ## Documents and annotations -/

theorem DocumentIdentity.ofJson_inverts : Inverts ofJson toJson := by
  intro d
  refine decoder_obj (((reads_required ?_).map _).seq (reads_optional ?_ none)) _
  · exact member?_head (string_inverts d.uri)
  · refine member?_tail (by decide) (member?_head ?_)
    cases d.version with
    | none => rfl
    | some v => exact congrArg (Except.map some) (i32_inverts v)

theorem AnnotationDetails.ofJson_inverts : Inverts ofJson toJson := by
  intro a
  have hmembers : a.toJson = .obj (Json.optionalMember "description" .str a.description ++
      ("label", .str a.label) ::
        (Json.optionalMember "needsConfirmation" .bool a.needsConfirmation ++ [])) := by
    simp [toJson]
  rw [hmembers]
  refine decoder_obj ((((reads_required ?_).map _).seq (reads_nullable ?_)).seq
    (reads_nullable ?_)) _
  · exact member?_skip (by decide) (member?_head (string_inverts a.label)) a.description
  · refine member?_skip (by decide) (member?_tail (by decide) ?_) a.description
    exact member?_optionalMember (fun _ ↦ rfl) rfl a.needsConfirmation
  · refine member?_optionalMember (fun _ ↦ rfl) (member?_tail (by decide) ?_) a.description
    exact member?_skip (by decide) rfl a.needsConfirmation

/-! ## File changes

A file change is read by trying a resource operation first and an update then, and the two are told
apart by a member that only the one has.  The proof for an update therefore begins with the first
attempt failing. -/

namespace FileChange

/-- A file change is no resource operation if it has no kind. -/
theorem resourceOfJson?_update (document : DocumentIdentity) (edits : List TextEdit) :
    resourceOfJson? (toJson (update document edits)) = none :=
  rfl

theorem updateOfJson?_update (document : DocumentIdentity) (edits : List TextEdit) :
    updateOfJson? (toJson (update document edits)) = some (update document edits) := by
  rw [updateOfJson?, toJson, decoder_obj (((reads_required ?_).map _).seq (reads_required ?_))]
  · rfl
  · exact member?_tail (by decide) (member?_head (DocumentIdentity.ofJson_inverts document))
  · exact member?_head (TextEdit.ofJson_inverts.list edits)

theorem ofJson_inverts : Inverts ofJson toJson := by
  intro c
  cases c with
  | create uri => rfl
  | delete uri => rfl
  | rename oldUri newUri => rfl
  | update document edits =>
    rw [ofJson, resourceOfJson?_update, updateOfJson?_update]
    rfl

end FileChange

/-! ## Workspace edits -/

namespace WorkspaceEdit

/-- Annotations without entries are left out, and read as none. -/
theorem ofJson_inverts : Inverts ofJson toJson := by
  intro w
  have hchanges := FileChange.ofJson_inverts.list w.changes
  obtain ⟨changes, annotations⟩ := w
  rw [toJson]
  cases h : annotations.isEmpty with
  | true =>
    obtain rfl : annotations = .empty := Dict.eq_empty_of_isEmpty h
    refine decoder_obj (((reads_optional ?_ []).map _).seq (reads_absent ?_ Dict.empty)) _
    · exact member?_head hchanges
    · exact member?_tail (by decide) rfl
  | false =>
    refine decoder_obj (((reads_optional ?_ []).map _).seq (reads_optional ?_ Dict.empty)) _
    · exact member?_tail (by decide) (member?_head hchanges)
    · exact member?_head (AnnotationDetails.ofJson_inverts.dict annotations)

/-- **A workspace edit survives JSON.** -/
theorem parse_toJson (w : WorkspaceEdit) : parse w.toJson = .ok w := by
  have hmember : ∃ j, w.toJson.member? "documentChanges" = some j := by
    rw [toJson]
    cases w.annotations.isEmpty <;> exact ⟨_, rfl⟩
  obtain ⟨j, hj⟩ := hmember
  rw [parse, hj]
  exact ofJson_inverts w

end WorkspaceEdit

end Emend
