import Emend.Proofs.Edit.Conflict
import Emend.Proofs.Edit.Protocol
import Emend.Proofs.Result
import Emend.Proofs.Text.Bounds

/-!
# Edits of whole lines

An edit that runs from one line bound to another (`OffsetEdit.OnLines`) cuts no character, and
positions can address its ends.  Every span projects to such an edit, if it projects to one at all,
no matter what lines it names (`Projection.onLines`).  So edits of whole lines can be put in the
form of the protocol exactly if no two of them overlap, and then they ascend from line bound to line
bound (`DocumentEdits.succeedsIff_toTextEdits`).

What spans may look like plays no part here: they need not be in order, nor lie within the texts,
nor come from a diff.  The properties of an edit that matter later (it fits the snapshot, its ends
are not inside a line ending, its positions stand at line bounds) all follow from
`OffsetEdit.OnLines`, so this is the one thing that has to be shown of an edit.
-/

set_option autoImplicit false

namespace Emend

open Text Diff

/-- An edit runs forwards, from where a line starts or the text ends to another such place. -/
structure OffsetEdit.OnLines (t : Text) (e : OffsetEdit) : Prop where
  start : ∃ i, offsetOfLine t i = .ok e.start
  stop : ∃ j, offsetOfLine t j = .ok e.stop
  le : e.start ≤ e.stop

namespace OffsetEdit

variable {t : Text} {e : OffsetEdit}

theorem Addressable.sound (h : e.Addressable t) : e.Sound t := by
  obtain ⟨i, q, hstart⟩ := h.start
  obtain ⟨j, r, hstop⟩ := h.stop
  exact ⟨h.le, hstart.within.isBoundary, hstop.within.isBoundary⟩

theorem OnLines.addressable (h : e.OnLines t) : e.Addressable t := by
  obtain ⟨i, hstart⟩ := h.start
  obtain ⟨j, hstop⟩ := h.stop
  obtain ⟨i', q, hstart, -⟩ := exists_at_of_offsetOfLine hstart
  obtain ⟨j', r, hstop, -⟩ := exists_at_of_offsetOfLine hstop
  exact ⟨⟨i', q, hstart⟩, ⟨j', r, hstop⟩, h.le⟩

/-- The whole text lies between line bounds. -/
theorem onLines_whole (t text : Text) : OnLines t ⟨0, byteLen t, text⟩ where
  start := ⟨0, offsetOfLine_eq_ok_iff.2 ⟨Nat.zero_le _, rfl⟩⟩
  stop := by
    refine ⟨lineCount t, offsetOfLine_eq_ok_iff.2 ⟨Nat.le_refl _, ?_⟩⟩
    rw [lineCount, List.take_length, total_lines]
  le := Nat.zero_le _

end OffsetEdit

/-! ## Projected spans

The offsets of an edit come from a look-up of lines, so they are line bounds, whatever the span is.
That the edit runs forwards needs a look at the kind: only a span with old lines takes its stop from
them, and an insertion stops where it starts. -/

section Projecting

variable {old new : Text}

theorem Interval.onLines_of_offsets {r : Interval} {t : Text} {start stop : Nat}
    (hr : r.isEmpty = false) (h : r.offsets t = .ok (start, stop)) (text : Text) :
    OffsetEdit.OnLines t ⟨start, stop, text⟩ := by
  obtain ⟨m, hm, h⟩ := exists_of_bind_eq_ok h
  obtain ⟨n, hn, h⟩ := exists_of_bind_eq_ok h
  cases h
  rw [endOfLines_eq_offsetOfLine] at hn
  have hlt : ¬ r.stop ≤ r.start := of_decide_eq_false hr
  exact ⟨⟨r.start, hm⟩, ⟨r.stop, hn⟩,
    offset_le_of_offsetOfLine (Nat.le_of_not_le hlt) hm hn⟩

/-- What a span projects to runs between line bounds. -/
theorem Diff.Span.onLines_of_project {s : Span} {e : OffsetEdit}
    (h : s.project old new = .ok (some e)) : e.OnLines old := by
  rw [project] at h
  -- only a span with old lines takes its stop from them, so it cannot run backwards
  have hlines : s.kind = .delete ∨ s.kind = .replace → s.old.isEmpty = false := by
    intro hkind
    rw [kind] at hkind
    cases hold : s.old.isEmpty <;> cases hnew : s.new.isEmpty <;> simp_all
  split at h
  · cases h
  · next hkind =>
    obtain ⟨⟨start, stop⟩, hoffsets, h⟩ := exists_of_bind_eq_ok h
    cases h
    exact Interval.onLines_of_offsets (hlines (.inl hkind)) hoffsets _
  · obtain ⟨start, hstart, h⟩ := exists_of_bind_eq_ok h
    obtain ⟨text, -, h⟩ := exists_of_bind_eq_ok h
    cases h
    exact ⟨⟨_, hstart⟩, ⟨_, hstart⟩, Nat.le_refl _⟩
  · next hkind =>
    obtain ⟨⟨start, stop⟩, hoffsets, h⟩ := exists_of_bind_eq_ok h
    obtain ⟨text, -, h⟩ := exists_of_bind_eq_ok h
    cases h
    exact Interval.onLines_of_offsets (hlines (.inr hkind)) hoffsets _

/-- **Projected edits run between line bounds, whoever has found the spans.** -/
theorem Projection.onLines (old new : Text) (spans : List Span) :
    ∀ e ∈ (Projection.ofSpans old new spans).edits, e.OnLines old := by
  induction spans with
  | nil => simp [Projection.ofSpans]
  | cons s spans ih =>
    rw [Projection.ofSpans]
    cases hproject : s.project old new with
    | error error => exact ih
    | ok projected =>
      cases projected with
      | none => exact ih
      | some e => exact List.forall_mem_cons.2 ⟨s.onLines_of_project hproject, ih⟩

end Projecting

/-! ## The form of the protocol

Whether edits have a form of the protocol is a matter of their order alone, since a line bound can
always be addressed.  Each edit of the form belongs to one by offsets, so that the edits ascend
follows from the order of their offsets. -/

/-- Each edit by positions stops before the next one starts. -/
def TextEdit.Ascending (fs : List TextEdit) : Prop :=
  fs.Pairwise fun f g ↦ f.range.stop ≤ g.range.start

/-- Edits by positions run between line bounds of a text, and stand for certain edits by offsets. -/
structure Text.LinewiseBy (t : Text) (encoding : PositionEncoding) (es : List OffsetEdit)
    (fs : List TextEdit) : Prop where
  bounds : ∀ f ∈ fs, t.IsLineBound encoding f.range.start ∧ t.IsLineBound encoding f.range.stop
  offsets : fs.mapM (DocumentEdits.offsetEditOf t encoding) = .ok es

namespace DocumentEdits

open OffsetEdit

variable {d : DocumentEdits} {encoding : PositionEncoding} {annotationId : Option String}
  {e : OffsetEdit} {f : TextEdit}

/-- The ends of a range are the positions of the ends of the edit. -/
theorem range_of_toTextEdit (h : d.toTextEdit encoding annotationId e = .ok f)
    (hle : e.start ≤ e.stop) (hsize : byteLen d.document.content < UInt32.size) :
    d.document.content.positionOfOffset encoding e.start = .ok f.range.start ∧
      d.document.content.positionOfOffset encoding e.stop = .ok f.range.stop := by
  obtain ⟨p, hp, h⟩ := exists_of_bind_eq_ok h
  obtain ⟨q, hq, h⟩ := exists_of_bind_eq_ok h
  cases h
  have hpq : ¬ q < p := position_le_position hp hq hle hsize
  simp only [TextEdit.replace, TextEdit.annotatedWith, Range.between, if_neg hpq]
  exact ⟨hp, hq⟩

theorem annotationId_of_toTextEdit (h : d.toTextEdit encoding annotationId e = .ok f) :
    f.annotationId = annotationId := by
  obtain ⟨p, -, h⟩ := exists_of_bind_eq_ok h
  obtain ⟨q, -, h⟩ := exists_of_bind_eq_ok h
  cases h
  rfl

/-- **Edits of whole lines have a form of the protocol exactly if no two of them overlap.**  It
ascends from line bound to line bound, and leads back to the edits in order. -/
theorem succeedsIff_toTextEdits (hes : ∀ e ∈ d.edits, e.OnLines d.document.content)
    (hsize : byteLen d.document.content < UInt32.size) (encoding : PositionEncoding)
    (annotationId : Option String) :
    SucceedsIff (d.edits.Pairwise fun e f ↦ ¬ e.Overlaps f) (d.toTextEdits encoding annotationId)
      fun fs ↦ (fs = [] ↔ d.edits = []) ∧ (∀ f ∈ fs, f.annotationId = annotationId) ∧
        TextEdit.Ascending fs ∧ ∃ es, OffsetEdit.inOrder d.edits = .ok es ∧
          d.document.content.LinewiseBy encoding es fs := by
  have hle : ∀ e ∈ d.edits, e.start ≤ e.stop := fun e he ↦ (hes e he).le
  have hiff := exists_inOrder_iff hle
  rw [toTextEdits, inOrder]
  cases horder : OffsetEdit.inOrder d.edits with
  | error pair =>
    refine .of_error (fun hapart ↦ ?_) rfl
    obtain ⟨es, hes⟩ := hiff.2 hapart
    cases horder.symm.trans hes
  | ok es =>
    obtain ⟨hperm, hpairwise⟩ := pairwise_of_inOrder hle horder
    have honLines : ∀ e ∈ es, e.OnLines d.document.content :=
      fun e he ↦ hes e (hperm.mem_iff.1 he)
    obtain ⟨fs, hfs, hlength, hback⟩ := exists_mapM_toTextEdit
      (fun e he ↦ (honLines e he).addressable.sound) encoding annotationId
    -- each edit by positions belongs to one by offsets, in the same order
    have hforall := mapM_eq_ok_iff.1 hfs
    have hsame : es.map (OffsetEdit.addressed d.document.content) = es :=
      map_addressed_eq_self fun e he ↦ (honLines e he).addressable.addressed_eq_self
    refine .of_ok (hiff.1 ⟨es, horder⟩) (a := fs) ?_ ⟨?_, fun f hf ↦ ?_, ?_, es, rfl, ?_, ?_⟩
    · show EditError.ofText (es.mapM (d.toTextEdit encoding annotationId)) = _
      rw [hfs]
      rfl
    · rw [← List.length_eq_zero_iff, hlength, List.length_eq_zero_iff]
      exact ⟨fun h ↦ (h ▸ hperm).symm.eq_nil, fun h ↦ (h ▸ hperm).eq_nil⟩
    · obtain ⟨e, -, he⟩ := exists_of_mem_of_forall₂ hforall hf
      exact annotationId_of_toTextEdit he
    · refine pairwise_of_forall₂ hforall hpairwise fun e he e' he' f f' hf hf' hle ↦ ?_
      have hstop := (range_of_toTextEdit hf (honLines e he).le hsize).2
      have hstart := (range_of_toTextEdit hf' (honLines e' he').le hsize).1
      exact position_le_position hstop hstart hle hsize
    · intro f hf
      obtain ⟨e, he, hf⟩ := exists_of_mem_of_forall₂ hforall hf
      obtain ⟨hstart, hstop⟩ := range_of_toTextEdit hf (honLines e he).le hsize
      obtain ⟨i, hi⟩ := (honLines e he).start
      obtain ⟨j, hj⟩ := (honLines e he).stop
      exact ⟨isLineBound_of_offsetOfLine hi hstart hsize,
        isLineBound_of_offsetOfLine hj hstop hsize⟩
    · rw [hback hsize, hsame]

/-- Only two edits that overlap stand in the way. -/
theorem overlaps_of_toTextEdits_eq_error {error : EditError}
    (hes : ∀ e ∈ d.edits, e.OnLines d.document.content)
    (h : d.toTextEdits encoding annotationId = .error error) :
    ∃ e f, e ∈ d.edits ∧ f ∈ d.edits ∧ e.Overlaps f ∧
      error = .overlappingEdits ⟨e.start, e.stop⟩ ⟨f.start, f.stop⟩ := by
  have happly := (toTextEdits_eq_error_iff (fun e he ↦ (hes e he).addressable.sound) encoding
    annotationId error).1 h
  obtain ⟨⟨e, f⟩, hpair, rfl⟩ := exists_of_mapError_eq_error (error_of_map_eq_error happly)
  obtain ⟨he, hf, hoverlaps, -⟩ := overlaps_of_inOrder_eq_error (fun e he ↦ (hes e he).le) hpair
  exact ⟨e, f, he, hf, hoverlaps, rfl⟩

end DocumentEdits

end Emend
