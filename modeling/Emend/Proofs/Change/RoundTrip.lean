import Emend.Assembly.Options
import Emend.Assembly.Revision
import Emend.Proofs.Change.Wire

/-!
# What travels survives JSON

Requests to run a recipe and the names of options are read back as they were, like changes are, and
a client finds a workspace edit and its label in the request to apply it (`wire_roundTrip`).
-/

set_option autoImplicit false

namespace Emend

open Decoder Record

/-! ## Options -/

theorem PositionEncoding.ofJson_inverts : Inverts ofJson fun e ↦ .str e.name := by
  refine enumeration_inverts [utf8, utf16, utf32] (fun e ↦ ?_) (fun e f ↦ ?_) Decoder.unit
  · cases e <;> decide
  · cases e <;> cases f <;> decide

theorem Diff.Algorithm.ofJson_inverts : Inverts ofJson fun a ↦ .str a.name := by
  refine enumeration_inverts [myers, patience, lcs] (fun a ↦ ?_) (fun a b ↦ ?_) Decoder.unit
  · cases a <;> decide
  · cases a <;> cases b <;> decide

theorem EditMode.ofJson_inverts : Inverts ofJson fun m ↦ .str m.name := by
  refine enumeration_inverts [diff, wholeDocument] (fun m ↦ ?_) (fun m n ↦ ?_) Decoder.unit
  · cases m <;> decide
  · cases m <;> cases n <;> decide

/-! ## Requests

In a request to apply a workspace edit, the edit is found among the parameters, and read by the
function that also understands the older form.  That it does not take what was written for the older
form is because changes are always listed. -/

/-- The parameters of a recipe may be any value. -/
theorem RecipeRequest.ofJson_inverts : Inverts ofJson toJson := by
  intro r
  refine decoder_obj ((((reads_required ?_).map _).seq (reads_optional ?_ [])).seq
    (reads_optional ?_ Json.null)) _
  · exact member?_tail (by decide) (member?_head (string_inverts r.recipeId))
  · exact member?_tail (by decide) (member?_tail (by decide)
      (member?_head (string_inverts.list r.targets)))
  · exact member?_head (d := any) rfl

/-- A client finds the workspace edit in the request to apply it, and the label if there is one. -/
theorem Request.applyEdit_roundTrip (id : Nat) (label : Option String) (w : WorkspaceEdit) :
    ∃ params edit, (applyEdit id label w).toJson.member? "params" = some params ∧
      params.member? "edit" = some edit ∧ WorkspaceEdit.parse edit = .ok w ∧
      params.member? "label" = label.map .str := by
  refine ⟨applyEditParams label w, w.toJson, rfl, rfl, w.parse_toJson, ?_⟩
  cases label <;> rfl

/-- **All that travels is read back as it was.** -/
theorem wire_roundTrip :
    Inverts Position.ofJson Position.toJson ∧
    Inverts Range.ofJson Range.toJson ∧
    Inverts TextEdit.ofJson TextEdit.toJson ∧
    Inverts DocumentIdentity.ofJson DocumentIdentity.toJson ∧
    Inverts AnnotationDetails.ofJson AnnotationDetails.toJson ∧
    Inverts FileChange.ofJson FileChange.toJson ∧
    Inverts WorkspaceEdit.ofJson WorkspaceEdit.toJson ∧
    Inverts RecipeRequest.ofJson RecipeRequest.toJson ∧
    Inverts PositionEncoding.ofJson (fun e ↦ .str e.name) ∧
    Inverts Diff.Algorithm.ofJson (fun a ↦ .str a.name) ∧
    Inverts EditMode.ofJson (fun m ↦ .str m.name) ∧
    Inverts WorkspaceEdit.parse WorkspaceEdit.toJson ∧
    ∀ id label w, ∃ params edit,
      (Request.applyEdit id label w).toJson.member? "params" = some params ∧
      params.member? "edit" = some edit ∧ WorkspaceEdit.parse edit = .ok w ∧
      params.member? "label" = label.map .str :=
  ⟨Position.ofJson_inverts, Range.ofJson_inverts, TextEdit.ofJson_inverts,
    DocumentIdentity.ofJson_inverts, AnnotationDetails.ofJson_inverts, FileChange.ofJson_inverts,
    WorkspaceEdit.ofJson_inverts, RecipeRequest.ofJson_inverts, PositionEncoding.ofJson_inverts,
    Diff.Algorithm.ofJson_inverts, EditMode.ofJson_inverts, WorkspaceEdit.parse_toJson,
    Request.applyEdit_roundTrip⟩

end Emend
