import Emend.Proofs.Assembly.Batch
import Emend.Proofs.Diff.Changes

/-!
# No change, no update

The edits between two texts of a document can always be worked out, and there are none exactly if
the texts are the same (`Assembler.singleFile_eq_none_iff`).  One case is different: between two
empty texts the table diff finds an empty span, and for any span at all the whole document is
replaced if that is how edits are put.

That there are no edits without a change is a matter of the spans, and rests on
`Diff.Algorithm.diff_eq_nil_iff`.  That the text stays the same where there are no edits follows
from the edits being right: without any, a text is rewritten into itself.
-/

set_option autoImplicit false

namespace Emend

open Diff Text

namespace Assembler

/-- Without spans there are no edits. -/
theorem computeEdits_of_nil {a : Assembler} {snapshot : Snapshot} {after : Text}
    (h : a.differ snapshot.content after = []) :
    a.computeEdits snapshot after = .ok ⟨[], 0, 0, .ofSpans []⟩ := by
  rw [computeEdits, h]
  rfl

/-- With any span, the whole document is replaced if that is how edits are put. -/
theorem computeEdits_of_wholeDocument {a : Assembler} {snapshot : Snapshot} {after : Text}
    (hmode : a.options.mode = .wholeDocument) (h : a.differ snapshot.content after ≠ []) :
    a.computeEdits snapshot after = .ok ⟨[a.wholeDocumentEdit snapshot.content after],
      (a.differ snapshot.content after).length, 0,
      .ofSpans (a.differ snapshot.content after)⟩ := by
  rw [computeEdits, hmode, if_neg (by rwa [List.isEmpty_iff])]

/-- Between two empty texts the table diff finds a span, but no line to edit. -/
theorem exists_computeEdits_nil_nil {a : Assembler} {snapshot : Snapshot}
    (ha : a.differ = Algorithm.lcs.diff) (hempty : snapshot.content = []) :
    ∃ f, a.computeEdits snapshot [] = .ok f ∧
      (f.edits = [] ↔ a.options.mode ≠ .wholeDocument) := by
  have hspans : a.differ snapshot.content [] = [⟨⟨0, 0⟩, ⟨0, 0⟩⟩] := by
    rw [ha, hempty, Algorithm.diff_lcs_nil_nil]
  cases hmode : a.options.mode with
  | wholeDocument =>
    have hcomputed := computeEdits_of_wholeDocument hmode (hspans ▸ List.cons_ne_nil _ _)
    exact ⟨_, hcomputed, fun h ↦ absurd h (List.cons_ne_nil _ _), fun h ↦ absurd rfl h⟩
  | diff =>
    rw [computeEdits, hspans, hmode, hempty]
    have horder : (DocumentEdits.new snapshot false).inOrder = .ok [] :=
      DocumentEdits.inOrder_of_writes (t := snapshot.content) rfl
    refine ⟨⟨[], 1, 0, ⟨0, 0⟩⟩, ?_, fun _ ↦ by decide, fun _ ↦ rfl⟩
    show ((DocumentEdits.new snapshot false).toTextEdits _ _ >>= _) = _
    rw [DocumentEdits.toTextEdits, horder]
    rfl

/-- **Edits are worked out for all texts, and there are none exactly if the text stays the same**,
but for one case. -/
theorem exists_computeEdits_eq_nil_iff (registry : Registry) (loader : Option Loader)
    (options : AssembleOptions) (snapshot : Snapshot) (after : Text) :
    ∃ f, (configured registry loader options).computeEdits snapshot after = .ok f ∧
      (f.edits = [] ↔ snapshot.content = after ∧ ¬ (options.algorithm = .lcs ∧
        options.mode = .wholeDocument ∧ snapshot.content = [])) := by
  obtain ⟨f, hf, hnil, -⟩ := exists_computeEdits (a := configured registry loader options)
    options.algorithm.faithful_diff snapshot after
  refine ⟨f, hf, ?_⟩
  by_cases hempty : options.algorithm = .lcs ∧ snapshot.content = []
  · obtain ⟨halgorithm, hcontent⟩ := hempty
    by_cases hsame : snapshot.content = after
    · obtain rfl : after = [] := hsame.symm.trans hcontent
      obtain ⟨g, hg, hiff⟩ := exists_computeEdits_nil_nil
        (a := configured registry loader options) (congrArg Algorithm.diff halgorithm) hcontent
      obtain rfl : g = f := Except.ok.inj (hg.symm.trans hf)
      rw [hiff]
      exact ⟨fun hmode ↦ ⟨hsame, fun h ↦ hmode h.2.1⟩,
        fun h hmode ↦ h.2 ⟨halgorithm, hmode, hcontent⟩⟩
    · exact ⟨fun h ↦ absurd (hnil h) hsame, fun h ↦ absurd h.1 hsame⟩
  · refine ⟨fun h ↦ ⟨hnil h, fun hcase ↦ hempty ⟨hcase.1, hcase.2.2⟩⟩, ?_⟩
    rintro ⟨rfl, -⟩
    have hnone := computeEdits_of_nil (a := configured registry loader options)
      (Algorithm.diff_self hempty)
    obtain rfl := Except.ok.inj (hnone.symm.trans hf)
    rfl

/-- **No change means no update, and only then**, but for two empty texts under the table diff.
There is no span exactly if the texts are the same, no span is empty, and there is no update exactly
if the texts are the same.  Between two empty texts the table diff finds one empty span, which makes
an update if the whole document is replaced. -/
theorem singleFile_eq_none_iff (registry : Registry) (loader : Option Loader)
    (options : AssembleOptions) (uri : String) (old new : Text) :
    (options.algorithm.diff old new = [] ↔ old = new ∧ ¬ (options.algorithm = .lcs ∧ old = [])) ∧
    ((∃ s ∈ options.algorithm.diff old new, s.kind = .empty) ↔
      options.algorithm = .lcs ∧ old = [] ∧ new = []) ∧
    ∃ update, (configured registry loader options).singleFile uri old new = .ok update ∧
      (update = none ↔ old = new ∧
        ¬ (options.algorithm = .lcs ∧ options.mode = .wholeDocument ∧ old = [])) := by
  refine ⟨options.algorithm.diff_eq_nil_iff old new,
    options.algorithm.exists_kind_eq_empty_iff old new, ?_⟩
  obtain ⟨f, hf, hiff⟩ :=
    exists_computeEdits_eq_nil_iff registry loader options (.unversioned uri old) new
  have hnone : (if f.edits.isEmpty then none
      else some (FileChange.update (.unversioned uri) f.edits)) = none ↔ f.edits = [] := by
    simp
  exact ⟨_, by rw [singleFile, hf]; rfl, hnone.trans hiff⟩

/-- Two empty texts differ in nothing, and still there is an update of the whole document. -/
theorem singleFile_lcs_nil_nil :
    (configured .empty none ⟨.lcs, .utf32, .wholeDocument, none⟩).singleFile "file:///a" [] []
      = .ok (some (.update (.unversioned "file:///a") [⟨.point .origin, [], none⟩])) ∧
    Algorithm.lcs.diff [] [] = [⟨⟨0, 0⟩, ⟨0, 0⟩⟩] := by
  refine ⟨?_, Algorithm.diff_lcs_nil_nil⟩
  have hspans : Algorithm.lcs.diff [] [] ≠ [] := by
    rw [Algorithm.diff_lcs_nil_nil]
    exact List.cons_ne_nil _ _
  rw [singleFile, computeEdits_of_wholeDocument rfl hspans]
  rfl

end Assembler

end Emend
