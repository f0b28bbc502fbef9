import Emend.Proofs.Change.Wire
import Emend.Proofs.Result
import Mathlib.Tactic.MkIffOfInductiveProp

/-!
# What is accepted as a workspace edit

The two forms of a workspace edit are not equally strict about their own shape.

* Where changes are listed, everything is decoded: the list must be an array of file changes, and
  the annotations, if there are any, an object (`WorkspaceEdit.ReadsList`).
* In the older form only the members of objects are decoded (`WorkspaceEdit.ReadsObjects`).  What
  stands in the place of such an object counts as an object without members, and so does the value
  itself.

`WorkspaceEdit.parse_malformed` says what this makes of values that are no workspace edit.  A value
with a list of changes is never read in the older form, also if the list cannot be read; so which of
the two applies is a matter of one member.
-/

set_option autoImplicit false

namespace Emend

open Record

/-- A member that is there and is neither null nor an object. -/
def Json.HasStray (v : Json) (key : String) : Prop :=
  ∃ j, v.member? key = some j ∧ j ≠ .null ∧ ∀ ms, j ≠ .obj ms

namespace WorkspaceEdit

variable {v cs : Json} {w : WorkspaceEdit} {key : String}

/-- File changes are read from a list, one from each item. -/
def ReadsItems (j : Json) (cs : List FileChange) : Prop :=
  ∃ xs, j = .arr xs ∧ List.Forall₂ (fun x c ↦ FileChange.ofJson x = .ok c) xs cs

/-- Updates are read from the members of an object, one from each.  No document has a version. -/
def ReadsUpdates (ms : Entries Json) (cs : List FileChange) : Prop :=
  List.Forall₂ (fun m c ↦ ∃ es, TextEdit.ofJson.list m.2 = .ok es ∧
    FileChange.update (.unversioned m.1) es = c) ms cs

/-- What is read where changes are listed: all of them, and the annotations if there are any. -/
structure ReadsList (v cs : Json) (w : WorkspaceEdit) : Prop where
  changes : ReadsItems cs w.changes
  annotations : (v.member? "changeAnnotations" = none ∧ w.annotations = .empty) ∨
    ∃ as, v.member? "changeAnnotations" = some as ∧
      AnnotationDetails.ofJson.dict as = .ok w.annotations

/-- What is read in the older form: an update for each member of the one object, and an annotation
for each member of the other. -/
@[mk_iff]
structure ReadsObjects (v : Json) (w : WorkspaceEdit) : Prop where
  changes : ReadsUpdates (objectMembers v "changes") w.changes
  annotations : AnnotationDetails.ofJson.dict (.obj (objectMembers v "changeAnnotations"))
    = .ok w.annotations

/-! ## What is decoded

The two equivalences say what is read, for any value at all.  Each follows the decoder: where
changes are listed the value is a record of two fields, and in the older form it is asked for two
members, each of which is walked over as an object if it is one. -/

theorem readsItems_iff {j : Json} {cs : List FileChange} :
    FileChange.ofJson.list j = .ok cs ↔ ReadsItems j cs := by
  cases j with
  | arr xs =>
    show xs.mapM FileChange.ofJson = _ ↔ _
    simp [ReadsItems, mapM_eq_ok_iff]
  | _ =>
    constructor
    · intro h
      cases h
    · rintro ⟨xs, h, -⟩
      cases h

/-- **Where changes are listed, everything is decoded.** -/
theorem parse_list_iff (hlist : v.member? "documentChanges" = some cs) :
    parse v = .ok w ↔ ReadsList v cs w := by
  cases v with
  | obj ms =>
    have hparse : parse (.obj ms) = ofJson (.obj ms) := by rw [parse, hlist]
    have hkey : Entries.get? ms "documentChanges" = some cs := hlist
    rw [hparse, ofJson, decoder_obj_iff]
    simp only [reads_seq_iff, reads_map_iff, reads_optional_get?_iff, hkey, readsItems_iff]
    constructor
    · rintro ⟨_, as, ⟨cs', hcs, rfl⟩, has, rfl⟩
      obtain ⟨hnone, -⟩ | ⟨_, hsome, hcs⟩ := hcs
      · cases hnone
      · cases hsome
        exact ⟨hcs, has⟩
    · intro h
      exact ⟨_, _, ⟨_, .inr ⟨cs, rfl, h.changes⟩, rfl⟩, h.annotations, rfl⟩
  | _ => cases hlist

/-- **In the older form the members of objects are decoded**, and nothing else is looked at. -/
theorem parse_objects_iff (hlist : v.member? "documentChanges" = none) :
    parse v = .ok w ↔ ReadsObjects v w := by
  have hannotations : ∀ as, AnnotationDetails.ofJson.dict
      (.obj (objectMembers v "changeAnnotations")) = .ok as ↔
      ∃ es, (objectMembers v "changeAnnotations").mapM
        (fun m ↦ (AnnotationDetails.ofJson m.2).map fun a ↦ (m.1, a)) = .ok es ∧
        Dict.ofEntries es = as :=
    fun as ↦ map_eq_ok_iff
  rw [parse, hlist]
  simp only [bind_eq_ok_iff]
  constructor
  · rintro ⟨cs, hcs, es, hes, h⟩
    cases h
    simp only [mapM_eq_ok_iff, map_eq_ok_iff] at hcs
    exact ⟨hcs, (hannotations _).2 ⟨es, hes, rfl⟩⟩
  · intro h
    obtain ⟨es, hes, has⟩ := (hannotations _).1 h.annotations
    refine ⟨w.changes, ?_, es, hes, has ▸ rfl⟩
    simp only [mapM_eq_ok_iff, map_eq_ok_iff]
    exact h.changes

/-! ## Malformed values

The difference between the two forms is in `objectMembers`, which answers with no members where
there is no object.  Everything said about malformed values in the older form comes of that. -/

/-- Nothing is read from what stands in the place of an object. -/
theorem objectMembers_of_hasStray (h : v.HasStray key) : objectMembers v key = [] := by
  obtain ⟨j, hj, -, hobj⟩ := h
  rw [objectMembers, hj]
  cases j with
  | obj ms => exact absurd rfl (hobj ms)
  | _ => rfl

/-- Where changes are listed, what stands in the place of the list or of the annotations is
refused. -/
theorem exists_parse_eq_error (hlist : v.member? "documentChanges" = some cs)
    (h : (∀ xs, cs ≠ .arr xs) ∨
      ∃ as, v.member? "changeAnnotations" = some as ∧ ∀ ms, as ≠ .obj ms) :
    ∃ e, parse v = .error e := by
  cases hparse : parse v with
  | error e => exact ⟨e, rfl⟩
  | ok w =>
    have hreads := (parse_list_iff hlist).1 hparse
    rcases h with harr | ⟨as, has, hobj⟩
    · obtain ⟨xs, hxs, -⟩ := hreads.changes
      exact absurd hxs (harr xs)
    · obtain ⟨hnone, -⟩ | ⟨_, hsome, hdict⟩ := hreads.annotations
      · cases has.symm.trans hnone
      · cases has.symm.trans hsome
        cases as with
        | obj ms => exact absurd rfl (hobj ms)
        | _ => cases hdict

/-- **What becomes of values that are no workspace edit.**  Where changes are listed, they are
refused.  In the older form a value that stands in the place of an object is passed over instead, as
if there were no changes, or no annotations, and a value that is no object at all is read as the
edit that does nothing. -/
theorem parse_malformed (v : Json) :
    (∀ cs, v.member? "documentChanges" = some cs →
      (∀ w, parse v = .ok w ↔ ReadsList v cs w) ∧
      ((∀ xs, cs ≠ .arr xs) ∨ (∃ as, v.member? "changeAnnotations" = some as ∧
        ∀ ms, as ≠ .obj ms) → ∃ e, parse v = .error e)) ∧
    (v.member? "documentChanges" = none →
      (∀ w, parse v = .ok w ↔ ReadsObjects v w) ∧
      (v.HasStray "changes" → ∀ w, parse v = .ok w ↔ w.changes = [] ∧
        AnnotationDetails.ofJson.dict (.obj (objectMembers v "changeAnnotations"))
          = .ok w.annotations) ∧
      (v.HasStray "changeAnnotations" → ∀ w, parse v = .ok w ↔
        ReadsUpdates (objectMembers v "changes") w.changes ∧ w.annotations = .empty) ∧
      ((∀ ms, v ≠ .obj ms) → parse v = .ok .empty)) := by
  refine ⟨fun cs hlist ↦ ⟨fun w ↦ parse_list_iff hlist, exists_parse_eq_error hlist⟩,
    fun hlist ↦ ⟨fun w ↦ parse_objects_iff hlist, fun hstray w ↦ ?_, fun hstray w ↦ ?_,
      fun hobj ↦ ?_⟩⟩
  · have hnone : ReadsUpdates [] w.changes ↔ w.changes = [] := List.forall₂_nil_left_iff
    rw [parse_objects_iff hlist, readsObjects_iff, objectMembers_of_hasStray hstray, hnone]
  · have hempty : AnnotationDetails.ofJson.dict (.obj []) = .ok w.annotations ↔
        w.annotations = .empty :=
      ⟨fun h ↦ (Except.ok.inj h).symm, fun h ↦ h ▸ rfl⟩
    rw [parse_objects_iff hlist, readsObjects_iff, objectMembers_of_hasStray hstray, hempty]
  · cases v with
    | obj ms => exact absurd rfl (hobj ms)
    | _ => rfl

/-- Edits in an array, where an object says which document is meant, are passed over. -/
theorem parse_stray_changes :
    let v := Json.obj [("changes", .arr [(TextEdit.mk ⟨⟨0, 0⟩, ⟨0, 3⟩⟩ ['i'] none).toJson])]
    v.HasStray "changes" ∧ v.member? "documentChanges" = none ∧ parse v = .ok .empty :=
  ⟨⟨_, rfl, nofun, nofun⟩, rfl, rfl⟩

end WorkspaceEdit

end Emend
