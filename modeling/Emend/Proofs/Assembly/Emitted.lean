import Emend.Proofs.Assembly.Isolation
import Emend.Proofs.Assembly.Updates

/-!
# Updates from any spans

Spans may come from anywhere, and be out of order, out of range or contradictory.  The edits of an
update are edits of whole lines all the same (`Assembler.onLines_of_mem_offsetEdits`), and go
through the form of the protocol (`Assembler.map_edits_computeEdits`).  So updates are in good shape
whatever spans are found, and the only way for spans to make a revision fail is that two edits
overlap (`Assembler.assemble_wellFormed`).

Nothing here uses that spans are faithful.  What the edits of an update lead to cannot be said
without it; what they look like can.

* `Assembler.offsetEdits` are the edits by offsets of either mode.  Computing edits is rendering
  these, and so the theorems about accumulators apply.
* `Assembler.succeedsIff_computeEdits` says when edits are computed for two texts, and what is known
  of them then.
* `Assembler.Origin` says where the edits of an update come from: a new file that is filled, or
  edits by offsets whose ends they address.
* `Assembler.assemble_wellFormed` carries this over to batches, and adds what becomes of revisions
  that fail.
-/

set_option autoImplicit false

namespace Emend

open Text

namespace Assembler

variable {a : Assembler} {r : FileRevision} {batch : List FileRevision} {snapshot : Snapshot}
  {after : Text}

/-! ## Edits by offsets

`computeEdits` branches over the mode, and within a mode over whether there is anything to do.
`offsetEdits` is what both modes have in common, and `map_edits_computeEdits` says that the branches
make no other difference.  The edit of the whole document is one more edit by offsets: its last
position is where the last offset is rendered. -/

/-- The edits by offsets that lead from one text to another: what spans project to, without edits
that replace nothing by nothing, or, for any span at all, the one edit that replaces everything. -/
def offsetEdits (a : Assembler) (old new : Text) : List OffsetEdit :=
  match a.options.mode with
  | .wholeDocument => if (a.differ old new).isEmpty then [] else [⟨0, byteLen old, new⟩]
  | .diff => (Projection.ofSpans old new (a.differ old new)).edits.filter fun e ↦ !e.isNoop

/-- **All edits are edits of whole lines.** -/
theorem onLines_of_mem_offsetEdits (a : Assembler) (old new : Text) :
    ∀ e ∈ a.offsetEdits old new, e.OnLines old := by
  rw [offsetEdits]
  cases a.options.mode with
  | wholeDocument =>
    intro e he
    obtain ⟨-, he⟩ : _ ∧ e ∈ [_] := List.mem_ite_nil_left.1 he
    obtain rfl := List.mem_singleton.1 he
    exact OffsetEdit.onLines_whole old new
  | diff => exact fun e he ↦ Projection.onLines old new _ e (List.mem_filter.1 he).1

/-- Edits of a snapshot, collected without tracking. -/
def collected (a : Assembler) (snapshot : Snapshot) (after : Text) : DocumentEdits :=
  { DocumentEdits.new snapshot false with edits := a.offsetEdits snapshot.content after }

theorem toTextEdits_collected_of_nil (h : a.offsetEdits snapshot.content after = [])
    (encoding : PositionEncoding) (annotationId : Option String) :
    (a.collected snapshot after).toTextEdits encoding annotationId = .ok [] := by
  have horder : (a.collected snapshot after).inOrder = .ok (a.collected snapshot after).edits :=
    DocumentEdits.inOrder_of_writes (t := snapshot.content) (by rw [collected, h]; rfl)
  rw [DocumentEdits.toTextEdits, horder, collected, h]
  rfl

/-- The edit that replaces everything runs from the origin to the last position. -/
theorem toTextEdits_collected_of_whole
    (h : a.offsetEdits snapshot.content after = [⟨0, byteLen snapshot.content, after⟩]) :
    (a.collected snapshot after).toTextEdits a.options.encoding a.options.annotationId
      = .ok [a.wholeDocumentEdit snapshot.content after] := by
  have hwrites : OffsetEdit.Writes 0 snapshot.content [⟨0, byteLen snapshot.content, after⟩]
      after := ⟨[], snapshot.content, [], [], by simp, by simp, rfl, by simp, rfl⟩
  have horder : (a.collected snapshot after).inOrder = .ok (a.collected snapshot after).edits :=
    DocumentEdits.inOrder_of_writes (by rw [collected, h]; exact hwrites)
  rw [DocumentEdits.toTextEdits, horder, collected, h]
  show EditError.ofText ([_].mapM (DocumentEdits.toTextEdit _ _ _)) = _
  rw [List.mapM_cons, DocumentEdits.toTextEdit, DocumentEdits.new, positionOfOffset_zero,
    positionOfOffset_byteLen]
  rfl

/-- All that is projected is taken in. -/
theorem pushAll_projection (hmode : a.options.mode = .diff) :
    (DocumentEdits.new snapshot false).pushAll (Projection.ofSpans snapshot.content after
      (a.differ snapshot.content after)).edits = .ok (a.collected snapshot after) := by
  have hsound : ∀ e ∈ (Projection.ofSpans snapshot.content after
      (a.differ snapshot.content after)).edits, e.Sound snapshot.content :=
    fun e he ↦ (Projection.onLines snapshot.content after _ e he).addressable.sound
  rw [DocumentEdits.pushAll_untracked rfl hsound, collected, offsetEdits, hmode]
  rfl

/-- **The edits of an update are the collected ones in the form of the protocol.** -/
theorem map_edits_computeEdits (a : Assembler) (snapshot : Snapshot) (after : Text) :
    (a.computeEdits snapshot after).map FileEdits.edits
      = (a.collected snapshot after).toTextEdits a.options.encoding a.options.annotationId := by
  by_cases hspans : a.differ snapshot.content after = []
  · have hnil : a.offsetEdits snapshot.content after = [] := by
      rw [offsetEdits, hspans]
      cases a.options.mode <;> rfl
    rw [computeEdits_of_nil hspans, toTextEdits_collected_of_nil hnil]
    rfl
  · -- with any span at all, the mode decides where the edits come from
    cases hmode : a.options.mode with
    | wholeDocument =>
      have hwhole : a.offsetEdits snapshot.content after
          = [⟨0, byteLen snapshot.content, after⟩] := by
        rw [offsetEdits, hmode, if_neg (by rwa [List.isEmpty_iff])]
      rw [computeEdits_of_wholeDocument hmode hspans, toTextEdits_collected_of_whole hwhole]
      rfl
    | diff =>
      rw [computeEdits, hmode, if_neg (by rwa [List.isEmpty_iff])]
      show ((DocumentEdits.new snapshot false).pushAll _ >>= _).map _ = _
      rw [pushAll_projection hmode]
      show ((a.collected snapshot after).toTextEdits _ _ >>= _).map _ = _
      cases (a.collected snapshot after).toTextEdits a.options.encoding a.options.annotationId <;>
        rfl

/-! ## Computed edits

`SucceedsIff` states at once when edits are computed and what is known of them then.  An edit that
replaces nothing by nothing is left out before the accumulator sees it, so it cannot conflict with
another one.  Two edits of one byte do, and neither of them is such an edit. -/

/-- **Edits are computed exactly if no two edits by offsets overlap**, and then go from line bound
to line bound. -/
theorem succeedsIff_computeEdits (hsize : byteLen snapshot.content < UInt32.size)
    (a : Assembler) (after : Text) :
    SucceedsIff ((a.offsetEdits snapshot.content after).Pairwise fun e f ↦ ¬ e.Overlaps f)
      (a.computeEdits snapshot after) fun computed ↦
        (∀ f ∈ computed.edits, f.annotationId = a.options.annotationId) ∧
        TextEdit.Ascending computed.edits ∧ ∃ es,
          OffsetEdit.inOrder (a.offsetEdits snapshot.content after) = .ok es ∧
          snapshot.content.LinewiseBy a.options.encoding es computed.edits := by
  have h := DocumentEdits.succeedsIff_toTextEdits (d := a.collected snapshot after)
    (a.onLines_of_mem_offsetEdits snapshot.content after) hsize a.options.encoding
    a.options.annotationId
  rw [← a.map_edits_computeEdits] at h
  exact h.of_map.imp fun computed hcomputed ↦ hcomputed.2

/-- Spans can do no other harm. -/
theorem overlaps_of_computeEdits_eq_error {error : EditError}
    (h : a.computeEdits snapshot after = .error error) :
    ∃ e f, e ∈ a.offsetEdits snapshot.content after ∧ f ∈ a.offsetEdits snapshot.content after ∧
      e.Overlaps f ∧ error = .overlappingEdits ⟨e.start, e.stop⟩ ⟨f.start, f.stop⟩ := by
  have hmap := a.map_edits_computeEdits snapshot after
  rw [h] at hmap
  exact DocumentEdits.overlaps_of_toTextEdits_eq_error (d := a.collected snapshot after)
    (a.onLines_of_mem_offsetEdits snapshot.content after) hmap.symm

/-- Spans that project to two edits of one byte do that harm. -/
theorem exists_computeEdits_eq_error_of_covers (hmode : a.options.mode = .diff)
    (hcovers : ¬ (Projection.ofSpans snapshot.content after
      (a.differ snapshot.content after)).edits.Pairwise fun e f ↦
        ¬ ∃ n, e.Covers n ∧ f.Covers n)
    (hsize : byteLen snapshot.content < UInt32.size) :
    ∃ error, a.computeEdits snapshot after = .error error := by
  cases h : a.computeEdits snapshot after with
  | error error => exact ⟨error, rfl⟩
  | ok computed =>
    refine absurd ?_ hcovers
    have hapart := (a.succeedsIff_computeEdits hsize after).1.1 ⟨computed, h⟩
    rw [offsetEdits, hmode, List.pairwise_filter] at hapart
    refine hapart.imp fun {e f} hef hboth ↦ ?_
    -- edits that replace a byte have not been left out
    obtain ⟨n, he, hf⟩ := hboth
    refine hef ?_ ?_ (OffsetEdit.overlaps_of_covers he hf)
    · rw [OffsetEdit.isNoop_of_covers he]
      rfl
    · rw [OffsetEdit.isNoop_of_covers hf]
      rfl

/-- The whole document is replaced by one edit, which can overlap no other. -/
theorem mode_of_computeEdits_eq_error {error : EditError}
    (hsize : byteLen snapshot.content < UInt32.size)
    (h : a.computeEdits snapshot after = .error error) : a.options.mode = .diff := by
  have hnot := (a.succeedsIff_computeEdits hsize after).not_of_error h
  cases hmode : a.options.mode with
  | diff => rfl
  | wholeDocument =>
    refine absurd ?_ hnot
    rw [offsetEdits, hmode]
    cases (a.differ snapshot.content after).isEmpty <;> simp

/-! ## Revisions -/

/-- What is behind the edits in an update. -/
inductive Origin (a : Assembler) (r : FileRevision) (document : DocumentIdentity)
    (es : List TextEdit) : Prop where
  /-- A new file is filled. -/
  | fills (hbefore : r.before = none)
      (hchanges : (a.settle r).changes = [.create r.uri, .update document es])
  /-- They run between line bounds of the text that the revision starts from, and lead back to
  edits by offsets. -/
  | edits (snapshot : Snapshot) (after : Text) (offsets : List OffsetEdit)
      (h : a.Compares r snapshot after)
      (horder : OffsetEdit.inOrder (a.offsetEdits snapshot.content after) = .ok offsets)
      (hlines : snapshot.content.LinewiseBy a.options.encoding offsets es)

theorem Compares.outcome_eq_error_iff (h : a.Compares r snapshot after) {error : EditError} :
    a.outcome r = .error error ↔ a.computeEdits snapshot after = .error error := by
  obtain ⟨renames, document, source, -, -, houtcome⟩ := h.outcome
  rw [houtcome]
  cases a.computeEdits snapshot after <;> simp [Except.map]

theorem Compares.exists_outcome_iff (h : a.Compares r snapshot after) :
    (∃ o, a.outcome r = .ok o) ↔ ∃ computed, a.computeEdits snapshot after = .ok computed := by
  obtain ⟨renames, document, source, -, -, houtcome⟩ := h.outcome
  rw [houtcome]
  cases a.computeEdits snapshot after <;> simp [Except.map]

/-- **The edits in an update are in good shape.** -/
theorem origin_of_mem_settle (hsize : ∀ base, a.base r = .ok base → byteLen base < UInt32.size)
    {document : DocumentIdentity} {es : List TextEdit}
    (hmem : .update document es ∈ (a.settle r).changes) :
    a.Origin r document es ∧ es ≠ [] ∧ TextEdit.Ascending es ∧
      ∀ e ∈ es, e.annotationId = a.options.annotationId := by
  have hupdate : (FileChange.update document es).isUpdateOf document.uri = true :=
    decide_eq_true rfl
  obtain ⟨o, ho, hmem⟩ := mem_changes_settle.1 hmem
  cases a.fate r with
  | fails error houtcome => cases (houtcome a.differ).symm.trans ho
  | ends o' hafter houtcome hnone =>
    obtain rfl : o' = o := Except.ok.inj (houtcome.symm.trans ho)
    cases (hnone _ hmem document.uri).symm.trans hupdate
  | fills after hbefore hafter hfile =>
    have hfills := outcome_of_fills (a := a) hbefore hafter hfile
    obtain rfl := Except.ok.inj (hfills.symm.trans ho)
    obtain ⟨rfl, rfl⟩ : document = .unversioned r.uri ∧
        es = [(TextEdit.insert .origin after).annotatedWith a.options.annotationId] := by
      simpa [fillChanges] using hmem
    refine ⟨.fills hbefore ?_, List.cons_ne_nil _ _, List.pairwise_singleton _ _,
      List.forall_mem_singleton.2 rfl⟩
    rw [settle, hfills]
    rfl
  | compares snapshot after h =>
    obtain ⟨renames, document', source, hrenames, -, houtcome⟩ := h.outcome
    obtain ⟨computed, hcomputed, rfl⟩ := map_eq_ok_iff.1 (houtcome.symm.trans ho)
    obtain ⟨hannotated, hascending, offsets, horder, hlines⟩ :=
      (a.succeedsIff_computeEdits (hsize _ h.base) after).2 computed hcomputed
    rcases List.mem_append.1 hmem with hmem | hmem
    · cases (hrenames _ hmem document.uri).symm.trans hupdate
    · obtain ⟨hne, hmem⟩ : _ ∧ _ ∈ [_] := List.mem_ite_nil_left.1 hmem
      obtain ⟨rfl, rfl⟩ := FileChange.update.inj (List.mem_singleton.1 hmem)
      exact ⟨.edits snapshot after offsets h horder hlines, by rwa [List.isEmpty_iff] at hne,
        hascending, hannotated⟩

/-- A revision that fails does so for any spans, or gets as far as to compare two texts. -/
theorem fails_of_outcome_eq_error {error : EditError} (herror : a.outcome r = .error error) :
    (∀ differ, (a.withDiffer differ).outcome r = .error error) ∨
      ∃ snapshot after, a.Compares r snapshot after := by
  cases a.fate r with
  | fails error' houtcome =>
    obtain rfl : error' = error := Except.error.inj ((houtcome a.differ).symm.trans herror)
    exact .inl houtcome
  | ends o hafter houtcome hnone => cases houtcome.symm.trans herror
  | fills after hbefore hafter hfile =>
    cases (outcome_of_fills hbefore hafter hfile).symm.trans herror
  | compares snapshot after h => exact .inr ⟨snapshot, after, h⟩

/-! ## Batches -/

/-- The id of the annotation is known wherever a change refers to it. -/
theorem mem_keys_annotations {change : FileChange} {id : String}
    (hmem : change ∈ (a.assemble batch).edit.changes) (hid : a.options.annotationId = some id) :
    id ∈ (a.assemble batch).edit.annotations.keys := by
  obtain ⟨stamp, hstamp, rfl⟩ := Option.map_eq_some_iff.1 hid
  rw [assemble] at hmem ⊢
  rw [annotations_gather, if_neg (List.ne_nil_of_mem hmem), hstamp]
  exact List.mem_cons_self

/-- **Updates are in good shape whatever spans are found.**  An update has edits, they ascend, and
they carry the id of the annotation, which is known.  Either the update comes with a new file, or
its edits run between line bounds of the text that they address, and lead back to the very offsets
that they come from.

A revision that fails contributes nothing and is named among the problems.  Spans can make it fail
in one way only: two of the edits that they project to overlap, which is then the error.  Edits that
replace nothing by nothing do not count, but two that replace the same byte always do. -/
theorem assemble_wellFormed (a : Assembler) (batch : List FileRevision)
    (hsize : ∀ r ∈ batch, ∀ base, a.base r = .ok base → byteLen base < UInt32.size) :
    let result := a.assemble batch
    (result.edit.changes = batch.flatMap fun r ↦ (a.settle r).changes) ∧
    ∀ r ∈ batch,
      (∀ document es, .update document es ∈ (a.settle r).changes →
        es ≠ [] ∧ TextEdit.Ascending es ∧ a.Origin r document es ∧
        (∀ e ∈ es, e.annotationId = a.options.annotationId) ∧
        ∀ id, a.options.annotationId = some id → id ∈ result.edit.annotations.keys) ∧
      (∀ error, a.outcome r = .error error →
        (a.settle r).changes = [] ∧ ⟨r.uri, error⟩ ∈ result.problems ∧
        ((∀ differ, (a.withDiffer differ).outcome r = .error error) ∨
          ∃ snapshot after, a.Compares r snapshot after)) ∧
      ∀ snapshot after, a.Compares r snapshot after →
        ((∃ o, a.outcome r = .ok o) ↔
          (a.offsetEdits snapshot.content after).Pairwise fun e f ↦ ¬ e.Overlaps f) ∧
        (∀ error, a.outcome r = .error error → a.options.mode = .diff ∧
          ∃ e f, e ∈ a.offsetEdits snapshot.content after ∧
            f ∈ a.offsetEdits snapshot.content after ∧ e.Overlaps f ∧
            error = .overlappingEdits ⟨e.start, e.stop⟩ ⟨f.start, f.stop⟩) ∧
        (a.options.mode = .diff →
          ¬ (Projection.ofSpans snapshot.content after
            (a.differ snapshot.content after)).edits.Pairwise
              (fun e f ↦ ¬ ∃ n, e.Covers n ∧ f.Covers n) →
          ∃ error, a.outcome r = .error error) := by
  intro result
  refine ⟨a.changes_assemble batch, fun r hr ↦ ⟨?_, ?_, ?_⟩⟩
  · intro document es hmem
    obtain ⟨horigin, hne, hascending, hannotated⟩ := origin_of_mem_settle (hsize r hr) hmem
    have hchange : .update document es ∈ result.edit.changes := by
      rw [a.changes_assemble]
      exact List.mem_flatMap.2 ⟨r, hr, hmem⟩
    exact ⟨hne, hascending, horigin, hannotated, fun id hid ↦ mem_keys_annotations hchange hid⟩
  · intro error herror
    refine ⟨by rw [settle, herror]; rfl, ?_, fails_of_outcome_eq_error herror⟩
    refine List.mem_filterMap.2 ⟨a.settle r, List.mem_map_of_mem hr, ?_⟩
    rw [settle, herror]
    rfl
  · intro snapshot after h
    have hbase := hsize r hr _ h.base
    refine ⟨h.exists_outcome_iff.trans (a.succeedsIff_computeEdits hbase after).1, ?_, ?_⟩
    · intro error herror
      have hcomputed := h.outcome_eq_error_iff.1 herror
      exact ⟨mode_of_computeEdits_eq_error hbase hcomputed,
        overlaps_of_computeEdits_eq_error hcomputed⟩
    · intro hmode hcovers
      obtain ⟨error, herror⟩ := exists_computeEdits_eq_error_of_covers hmode hcovers hbase
      exact ⟨error, h.outcome_eq_error_iff.2 herror⟩

/-- The same spans for two files, in no order and partly inverted.  In the one a span goes beyond
the last line and is dropped; in the other the same span overlaps another one. -/
theorem assemble_wellFormed_stray_spans :
    let spans : List Diff.Span :=
      [⟨⟨1, 2⟩, ⟨0, 1⟩⟩, ⟨⟨9, 7⟩, ⟨0, 1⟩⟩, ⟨⟨0, 0⟩, ⟨0, 1⟩⟩, ⟨⟨1, 3⟩, ⟨0, 1⟩⟩]
    let a : Assembler :=
      ((new .empty).annotating "cleanup" (.ofLabel "Clean up")).withDiffer fun _ _ ↦ spans
    let r := FileRevision.updated "file:///a" (.inline ['a', '\r', '\n', 'b']) ['c', '\n']
    let r' := FileRevision.updated "file:///b" (.inline ['a', '\n', 'b', '\n', 'd']) ['c', '\n']
    let es : List TextEdit := [⟨⟨⟨0, 0⟩, ⟨0, 0⟩⟩, ['c', '\n'], some "cleanup"⟩,
      ⟨⟨⟨1, 0⟩, ⟨1, 1⟩⟩, ['c', '\n'], some "cleanup"⟩]
    TextEdit.Ascending es ∧ a.Origin r (.unversioned "file:///a") es ∧
      "cleanup" ∈ (a.assemble [r, r']).edit.annotations.keys ∧
      ⟨"file:///b", .overlappingEdits ⟨2, 4⟩ ⟨2, 5⟩⟩ ∈ (a.assemble [r, r']).problems := by
  intro spans a r r' es
  have hsize : ∀ s ∈ [r, r'], ∀ base, a.base s = .ok base → byteLen base < UInt32.size := by
    have hbase : a.base r = .ok ['a', '\r', '\n', 'b'] := by rfl
    have hbase' : a.base r' = .ok ['a', '\n', 'b', '\n', 'd'] := by rfl
    intro s hs base h
    rcases List.mem_pair.1 hs with rfl | rfl
    · cases hbase.symm.trans h
      decide
    · cases hbase'.symm.trans h
      decide
  obtain ⟨-, h⟩ := assemble_wellFormed a [r, r'] hsize
  have hchanges : (a.settle r).changes = [.update (.unversioned "file:///a") es] := by cbv
  have herror : a.outcome r' = .error (.overlappingEdits ⟨2, 4⟩ ⟨2, 5⟩) := by cbv
  obtain ⟨-, hascending, horigin, -, hkey⟩ :=
    (h r (by simp)).1 (.unversioned "file:///a") es (by rw [hchanges]; exact List.mem_cons_self)
  exact ⟨hascending, horigin, hkey "cleanup" rfl, ((h r' (by simp)).2.1 _ herror).2.1⟩

end Assembler

end Emend
