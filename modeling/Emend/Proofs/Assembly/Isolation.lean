import Emend.Proofs.Assembly.Batch

/-!
# One revision of a batch, and the others

The result of a batch is put together from what each of its revisions contributes, in their order
(`Assembler.isJoinOf_assemble`).  What a revision contributes depends on the text that it starts
from, and on nothing that is known of other documents (`Assembler.outcome_congr`).  So no revision
disturbs another one, and neither does one that fails (`Assembler.assemble_isolates`).

Annotations are the exception: they belong to the whole result, and are there as soon as one
revision contributes a change.  `AssembledEdit.IsJoinOf` therefore leaves them out, and
`Assembler.annotations_gather` says when they are there.

Nothing is assumed of the uris.  Two revisions of one document do not disturb each other either, in
the sense that each contributes what it would contribute alone; that the two may contradict each
other is another matter (`Assembler.updates_assemble`).
-/

set_option autoImplicit false

namespace Emend

/-- A result lists what some results list, one after the other.  Annotations are not looked at. -/
structure AssembledEdit.IsJoinOf (whole : AssembledEdit) (parts : List AssembledEdit) : Prop where
  changes : whole.edit.changes = parts.flatMap fun part ↦ part.edit.changes
  problems : whole.problems = parts.flatMap problems
  reports : whole.reports = parts.flatMap reports

namespace Assembler

variable {a b : Assembler} {r : FileRevision}

/-! ## Putting results together -/

/-- What became of revisions can be put together in parts. -/
theorem isJoinOf_gather (a : Assembler) (parts : List (List Settled)) :
    (a.gather parts.flatten).IsJoinOf (parts.map a.gather) where
  changes := by
    simp only [changes_gather, List.flatMap_map]
    rw [List.flatMap_def, List.map_flatten, List.flatten_flatten, List.map_map]
    rfl
  problems := by
    rw [List.flatMap_map, List.flatMap_def]
    exact List.filterMap_flatten
  reports := by
    rw [List.flatMap_map, List.flatMap_def]
    exact List.filterMap_flatten

/-- **A batch is assembled as its parts are.** -/
theorem isJoinOf_assemble (a : Assembler) (parts : List (List FileRevision)) :
    (a.assemble parts.flatten).IsJoinOf (parts.map a.assemble) := by
  have h := a.isJoinOf_gather (parts.map fun part ↦ part.map a.settle)
  rw [← List.map_flatten, List.map_map] at h
  exact h

/-- The annotation is there exactly if there is something to annotate. -/
theorem annotations_gather (a : Assembler) (batch : List Settled) :
    (a.gather batch).edit.annotations = if (a.gather batch).edit.changes = [] then .empty
      else .ofEntries a.options.stamp.toList := by
  rw [changes_gather, gather]
  cases a.options.stamp with
  | none => simp [Dict.ofEntries]
  | some stamp =>
    cases batch.flatMap Settled.changes with
    | nil => rfl
    | cons change changes => rfl

/-! ## What one revision depends on

`AgreesOn` is agreement of two assemblers as far as one uri goes: the same options and spans, the
same entry of the registry, and the same answer of the loader.  The uri is that of the text a
revision starts from.  For a file that has moved this is the uri that it had before, and nothing is
looked up under the new one. -/

/-- Two assemblers work alike and know the same of one document.  They may know different things of
others. -/
structure AgreesOn (a b : Assembler) (uri : String) : Prop where
  options : a.options = b.options
  differ : a.differ = b.differ
  lookup : a.registry.lookup? uri = b.registry.lookup? uri
  load : a.loader.map (fun loader ↦ loader uri) = b.loader.map fun loader ↦ loader uri

theorem AgreesOn.resolve {uri : String} (h : a.AgreesOn b uri) (before : SourceText) :
    a.resolve uri before = b.resolve uri before := by
  have hload : a.load uri = b.load uri := by
    have hloader := h.load
    rw [Assembler.load, Assembler.load]
    cases ha : a.loader with
    | none =>
      rw [ha] at hloader
      rw [Option.map_eq_none_iff.1 hloader.symm]
    | some loader =>
      rw [ha] at hloader
      obtain ⟨loader', hb, hanswer⟩ := Option.map_eq_some_iff.1 hloader.symm
      rw [hb]
      exact congrArg (Except.mapError _) hanswer.symm
  have hsource : a.source uri before = b.source uri before := by
    simp only [source, h.lookup]
  rw [Assembler.resolve, Assembler.resolve, hsource, hload]

theorem AgreesOn.computeEdits {uri : String} (h : a.AgreesOn b uri) (snapshot : Snapshot)
    (after : Text) : a.computeEdits snapshot after = b.computeEdits snapshot after := by
  simp only [Assembler.computeEdits, wholeDocumentEdit, h.options, h.differ]

/-- **What becomes of a revision depends on the document that it starts from alone.** -/
theorem outcome_congr (h : a.AgreesOn b r.sourceUri) : a.outcome r = b.outcome r := by
  rw [outcome, outcome]
  cases r.before with
  | none =>
    cases r.after with
    | none => rfl
    | some after =>
      show a.createOutcome r.uri after = b.createOutcome r.uri after
      rw [createOutcome, createOutcome, h.options]
  | some before =>
    cases r.after with
    | none => rfl
    | some after =>
      show a.updateOutcome r before after = b.updateOutcome r before after
      simp only [updateOutcome, h.resolve, h.computeEdits]

theorem assemble_singleton_congr (h : a.AgreesOn b r.sourceUri) :
    a.assemble [r] = b.assemble [r] := by
  rw [assemble, assemble, List.map_singleton, List.map_singleton, settle, settle, outcome_congr h,
    gather, gather, h.options]

/-! ## Batches -/

/-- **No revision disturbs another one.**  The results of two batches in a row are those of each of
them, in their order.  A revision that fails contributes one problem, under its own uri, and nothing
else; one that does not, its changes and its report.  In any batch, and whatever is known of
documents other than the one that it starts from, a revision contributes what it contributes alone.
The annotation is added exactly if there is any change. -/
theorem assemble_isolates (a : Assembler) :
    (∀ xs ys, (a.assemble (xs ++ ys)).IsJoinOf [a.assemble xs, a.assemble ys]) ∧
    (∀ r e, a.outcome r = .error e → (a.assemble [r]).edit.changes = [] ∧
      (a.assemble [r]).problems = [⟨r.uri, e⟩] ∧ (a.assemble [r]).reports = []) ∧
    (∀ r o, a.outcome r = .ok o → (a.assemble [r]).edit.changes = o.changes ∧
      (a.assemble [r]).problems = [] ∧ (a.assemble [r]).reports = o.report.toList) ∧
    (∀ b r, a.AgreesOn b r.sourceUri → ∀ xs ys,
      (b.assemble (xs ++ r :: ys)).IsJoinOf [b.assemble xs, a.assemble [r], b.assemble ys]) ∧
    ∀ batch, (a.assemble batch).edit.annotations =
      if (a.assemble batch).edit.changes = [] then .empty
      else .ofEntries a.options.stamp.toList := by
  refine ⟨fun xs ys ↦ ?_, fun r e he ↦ ?_, fun r o ho ↦ ?_, fun b r h xs ys ↦ ?_,
    fun batch ↦ a.annotations_gather _⟩
  · simpa using a.isJoinOf_assemble [xs, ys]
  · rw [assemble, List.map_singleton, settle, he, changes_gather]
    exact ⟨rfl, rfl, rfl⟩
  · rw [assemble, List.map_singleton, settle, ho, changes_gather]
    refine ⟨List.flatMap_singleton .., rfl, ?_⟩
    cases hreport : o.report <;> simp [gather, Settled.report?, hreport]
  · rw [assemble_singleton_congr h]
    simpa using b.isJoinOf_assemble [xs, [r], ys]

/-- A file that cannot be loaded is left out.  The open one beside it is updated as it would be
alone, by an assembler that knows of no other document and can load everything. -/
theorem assemble_isolates_beside_failure :
    let options : AssembleOptions := ⟨.patience, .utf32, .wholeDocument, none⟩
    let buffer := Registry.empty.upsert "file:///a" ['x'] (some 1)
    let a := configured buffer (some fun _ ↦ .ok ['y']) options
    let b := configured (buffer.upsert "file:///b" ['z'] (some 0))
      (some fun uri ↦ if uri = "file:///a" then .ok ['y'] else .error (.ofMessage "gone")) options
    let r := FileRevision.updated "file:///a" .deferred ['y']
    let failing := FileRevision.updated "file:///b" .deferred ['y']
    (b.assemble [failing]).edit.changes = [] ∧
    (b.assemble [failing]).problems = [⟨"file:///b", .sourceUnavailable "file:///b" "gone"⟩] ∧
    (b.assemble [failing, r]).IsJoinOf [b.assemble [failing], a.assemble [r], b.assemble []] := by
  intro options buffer a b r failing
  obtain ⟨-, hfails, -⟩ := assemble_isolates b
  obtain ⟨-, -, -, hjoin, -⟩ := assemble_isolates a
  have hfailing := hfails failing (.sourceUnavailable "file:///b" "gone") (by rfl)
  have hagree : a.AgreesOn b r.sourceUri := ⟨rfl, rfl, by rfl, by rfl⟩
  exact ⟨hfailing.1, hfailing.2.1, hjoin b r hagree [failing] []⟩

end Assembler

end Emend
