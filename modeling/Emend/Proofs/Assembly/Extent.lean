import Emend.Proofs.Assembly.Unchanged

/-!
# How far a text reaches

Line numbers bound the parts of a text from both sides: `Text.offsetOfLine` gives the start of a
part and `Text.endOfLines` its stop.  The end of the whole text is given once more, as a position
(`Text.endPosition`), and an edit of the whole document relies on it
(`Assembler.edits_computeEdits_of_wholeDocument`).  `Text.bounds_agree` says that all of these are
the same bounds.
-/

set_option autoImplicit false

namespace Emend

open Text

/-! ## Edits of a whole document -/

namespace Assembler

variable {a : Assembler} {snapshot : Snapshot} {after : Text}

/-- The edit that replaces a document, by the positions that it runs between. -/
theorem wholeDocumentEdit_eq (a : Assembler) (old new : Text) :
    a.wholeDocumentEdit old new
      = ⟨⟨.origin, endPosition old a.options.encoding⟩, new, a.options.annotationId⟩ := by
  rw [wholeDocumentEdit, Range.between_origin]
  rfl

/-- **One edit replaces the document**, from its first position to its last, if there is any span
at all. -/
theorem edits_computeEdits_of_wholeDocument (hmode : a.options.mode = .wholeDocument) :
    ∃ computed, a.computeEdits snapshot after = .ok computed ∧
      computed.edits = if a.differ snapshot.content after = [] then []
        else [⟨⟨.origin, endPosition snapshot.content a.options.encoding⟩, after,
          a.options.annotationId⟩] := by
  by_cases hspans : a.differ snapshot.content after = []
  · exact ⟨_, computeEdits_of_nil hspans, by rw [if_pos hspans]⟩
  · refine ⟨_, computeEdits_of_wholeDocument hmode hspans, ?_⟩
    rw [if_neg hspans, ← wholeDocumentEdit_eq]

end Assembler

/-! ## The bounds of a text

The bounds have been characterised where they are defined, each by the lines in front of it.  What
is left here is to put the characterisations side by side, and to add the one that goes through
positions. -/

namespace Text

/-- **All bounds of a text agree.**  The lines in front of a line end where that line starts, also
if it is the line past the last one, and behind that neither bound exists, with the same error.  A
bound is the length of the lines in front of it, so later ones are no less, and it is never inside a
character.

The last position is that of the last offset, in every encoding and however long the text is.  So an
edit of the whole document, which runs from the origin to there, runs from the first byte to the
last if the text is shorter than lines and columns can count. -/
theorem bounds_agree (t : Text) :
    (∀ i, endOfLines t i = offsetOfLine t i) ∧
    (∀ i n, offsetOfLine t i = .ok n ↔
      i ≤ lineCount t ∧ n = byteLen (((lines t).take i).map Line.text).flatten) ∧
    (∀ i error, offsetOfLine t i = .error error ↔
      lineCount t < i ∧ error = .lineOutOfRange i (lineCount t)) ∧
    (∀ i j m n, i ≤ j → offsetOfLine t i = .ok m → offsetOfLine t j = .ok n → m ≤ n) ∧
    (∀ i n, offsetOfLine t i = .ok n → isBoundary t n = true) ∧
    (∀ e, positionOfOffset t e (byteLen t) = .ok (endPosition t e)) ∧
    (∀ (a : Assembler) (document : DocumentIdentity) (after : Text),
      a.options.mode = .wholeDocument →
      ∃ computed, a.computeEdits ⟨document, t⟩ after = .ok computed ∧
        computed.edits = if a.differ t after = [] then []
          else [⟨⟨.origin, endPosition t a.options.encoding⟩, after, a.options.annotationId⟩]) ∧
    (byteLen t < UInt32.size → ∀ e, offsetOfPosition t e .origin = .ok 0 ∧
      offsetOfPosition t e (endPosition t e) = .ok (byteLen t)) := by
  refine ⟨endOfLines_eq_offsetOfLine t, fun i n ↦ offsetOfLine_eq_ok_iff,
    fun i error ↦ offsetOfLine_eq_error_iff, fun i j m n ↦ offset_le_of_offsetOfLine,
    fun i n ↦ isBoundary_of_offsetOfLine, positionOfOffset_byteLen t, fun a document after ↦ ?_,
    fun hsize e ↦ ⟨offsetOfPosition_origin hsize, offsetOfPosition_endPosition hsize⟩⟩
  exact Assembler.edits_computeEdits_of_wholeDocument

/-- The bounds of a text whose last line has no ending, and the edit that deletes all of it. -/
theorem bounds_agree_unterminated :
    let t : Text := ['é', '\r', '\n', '😀']
    let a := Assembler.configured .empty none ⟨.patience, .utf16, .wholeDocument, none⟩
    offsetOfLine t 1 = .ok 4 ∧ endOfLines t 2 = .ok 8 ∧ 4 ≤ 8 ∧ isBoundary t 8 = true ∧
      a.options.mode = .wholeDocument ∧
      (∃ computed, a.computeEdits (.unversioned "file:///a" t) [] = .ok computed ∧
        computed.edits = [⟨⟨⟨0, 0⟩, ⟨1, 2⟩⟩, [], none⟩]) ∧
      byteLen t < UInt32.size ∧ offsetOfPosition t .utf16 ⟨1, 2⟩ = .ok 8 := by
  intro t a
  obtain ⟨hends, -, -, hmono, hboundary, -, hwhole, hback⟩ := bounds_agree t
  have hstart : offsetOfLine t 1 = .ok 4 := rfl
  have hstop : offsetOfLine t 2 = .ok 8 := rfl
  have hsize : byteLen t < UInt32.size := by decide
  have hspans : a.differ t [] ≠ [] := mt Diff.Algorithm.eq_of_diff_eq_nil (by decide)
  obtain ⟨computed, hcomputed, hedits⟩ := hwhole a (.unversioned "file:///a") [] rfl
  rw [if_neg hspans] at hedits
  exact ⟨hstart, (hends 2).trans hstop, hmono 1 2 4 8 (by decide) hstart hstop,
    hboundary 2 8 hstop, rfl, ⟨computed, hcomputed, hedits⟩, hsize, (hback hsize .utf16).2⟩

end Text

end Emend
