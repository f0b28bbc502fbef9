import Emend.Edit.Projection
import Emend.Proofs.Edit.Rendering
import Emend.Proofs.Text.Lines

/-!
# Projected spans do to bytes what they do to lines

Spans are carried out in two ways.  On two lists of tokens `splice?` puts runs of new tokens in the
place of old ones.  On a text they are projected first: each span becomes an edit by byte offsets,
and an accumulator takes these in and applies them.  The two agree, whoever has found the spans.

* `Interval.tokens` is a run of tokens, and `Interval.textOf_eq` says that cutting it out of the
  text by its lines gives the same as putting the tokens together.
* `Diff.Span.Fits` says that a span stays within two lists, and `Diff.Span.project_eq` what it
  projects to then.
* `OffsetEdit.Writes.ofSpans` says that the projected edits write the spliced tokens.
* `DocumentEdits.apply_projection` puts it together.

Nothing is assumed of the spans but that they run forwards on the old side and can be spliced.  They
may touch, be empty, or insert at the end of a text without a last line ending.
-/

set_option autoImplicit false

namespace Emend

open Text Diff

/-! ## Runs of lines -/

namespace Interval

variable {r : Interval} {t : Text}

theorem offsets_eq (h : r.start ≤ r.stop) (h' : r.stop ≤ (diffTokens t).length) :
    r.offsets t = .ok (byteLen (firstLines t r.start), byteLen (firstLines t r.stop)) := by
  rw [offsets, offsetOfLine_eq (Nat.le_trans h h'), endOfLines_eq h']
  rfl

/-- The tokens of an interval. -/
def tokens (r : Interval) (t : Text) : List Text := ((diffTokens t).take r.stop).drop r.start

/-- A run of tokens ends where the text of the tokens behind it begins. -/
theorem byteLen_tokens (h : r.start ≤ r.stop) :
    byteLen (firstLines t r.stop)
      = byteLen (firstLines t r.start) + byteLen (r.tokens t).flatten := by
  rw [← firstLines_between t h, byteLen_append, tokens]

/-- The text of a run of lines is that of its tokens. -/
theorem textOf_eq (h : r.start ≤ r.stop) (h' : r.stop ≤ (diffTokens t).length) :
    r.textOf t = .ok (r.tokens t).flatten := by
  have ht : firstLines t r.start ++ ((r.tokens t).flatten ++ ((diffTokens t).drop r.stop).flatten)
      = t := by
    rw [tokens, ← List.append_assoc, firstLines_between t h, firstLines_append]
  have hslice := slice_append (firstLines t r.start) (r.tokens t).flatten
    ((diffTokens t).drop r.stop).flatten rfl (byteLen_tokens h)
  rw [ht] at hslice
  rw [textOf, offsets_eq h h']
  exact hslice

theorem tokens_of_isEmpty (h : r.isEmpty = true) : r.tokens t = [] := by
  rw [isEmpty, decide_eq_true_eq] at h
  exact List.drop_eq_nil_of_le (Nat.le_trans (List.length_take_le _ _) h)

/-- The tokens from one number on, split behind those of an interval. -/
theorem tokens_append_drop (h : r.start ≤ r.stop) :
    r.tokens t ++ (diffTokens t).drop r.stop = (diffTokens t).drop r.start := by
  obtain ⟨n, hn⟩ := Nat.exists_eq_add_of_le h
  rw [tokens, List.drop_take, hn, Nat.add_sub_cancel_left, ← List.drop_drop, List.take_append_drop]

end Interval

/-! ## One span

A span has four kinds, and each projects in its own way: a deletion has no new lines to cut out, and
an insertion has no old ones.  They all come to one edit, since a run of no lines has no tokens. -/

namespace Diff.Span

variable {s : Span} {old new : Text}

/-- A span stays within the tokens of two texts. -/
structure Fits (old new : Text) (s : Span) : Prop where
  old_le : s.old.start ≤ s.old.stop
  old_stop_le : s.old.stop ≤ (diffTokens old).length
  new_le : s.new.start ≤ s.new.stop
  new_stop_le : s.new.stop ≤ (diffTokens new).length

/-- The edit that puts the new tokens of a span in the place of the old ones. -/
def edit (old new : Text) (s : Span) : OffsetEdit :=
  ⟨byteLen (firstLines old s.old.start), byteLen (firstLines old s.old.stop),
    (s.new.tokens new).flatten⟩

theorem isEmpty_of_kind_eq_empty (h : s.kind = .empty) :
    s.old.isEmpty = true ∧ s.new.isEmpty = true := by
  rw [kind] at h
  cases hold : s.old.isEmpty <;> cases hnew : s.new.isEmpty <;> simp_all

/-- **A span that stays within the texts projects to its edit**, unless it is empty. -/
theorem project_eq (h : s.Fits old new) :
    s.project old new = .ok (if s.kind = .empty then none else some (s.edit old new)) := by
  rw [project]
  cases hold : s.old.isEmpty with
  | false =>
    cases hnew : s.new.isEmpty with
    | false =>
      have hkind : s.kind = .replace := by rw [kind, hold, hnew]
      rw [hkind, Interval.offsets_eq h.old_le h.old_stop_le,
        Interval.textOf_eq h.new_le h.new_stop_le]
      rfl
    | true =>
      have hkind : s.kind = .delete := by rw [kind, hold, hnew]
      rw [hkind, Interval.offsets_eq h.old_le h.old_stop_le, edit, Interval.tokens_of_isEmpty hnew]
      rfl
  | true =>
    cases hnew : s.new.isEmpty with
    | false =>
      have hkind : s.kind = .insert := by rw [kind, hold, hnew]
      have hstart : s.old.stop = s.old.start := by
        rw [Interval.isEmpty, decide_eq_true_eq] at hold
        exact Nat.le_antisymm hold h.old_le
      rw [hkind, offsetOfLine_eq (Nat.le_trans h.old_le h.old_stop_le),
        Interval.textOf_eq h.new_le h.new_stop_le, edit, hstart]
      rfl
    | true =>
      have hkind : s.kind = .empty := by rw [kind, hold, hnew]
      rw [hkind]
      rfl

end Diff.Span

/-! ## All spans

By induction on the spans, from a token of the old text on.  What `splice?` writes in front of the
first span are the tokens that are kept, which is the gap of the first edit; the tokens that the
span puts in are the text of that edit; and what is written behind the span is what the others write
from there. -/

section Splicing

variable {old new : Text} {cursor : Nat} {spans : List Span} {ts : List Text}

theorem cursor_le_of_spliceFrom? {α : Type} {old new : List α} {spans : List Span} {ts : List α}
    (h : spliceFrom? old new cursor spans = some ts) : cursor ≤ old.length := by
  cases spans with
  | nil =>
    rw [spliceFrom?, slice?] at h
    split at h
    · next hle => exact hle.1
    · cases h
  | cons s spans =>
    rw [spliceFrom?, slice?] at h
    split at h
    · next hle => exact Nat.le_trans hle.1 hle.2
    · cases h

/-- The parts that a spliced list is made of. -/
theorem spliceFrom?_cons {s : Span} (hs : s.old.start ≤ s.old.stop)
    (h : spliceFrom? (diffTokens old) (diffTokens new) cursor (s :: spans) = some ts) :
    s.Fits old new ∧ cursor ≤ s.old.start ∧ ∃ rest,
      spliceFrom? (diffTokens old) (diffTokens new) s.old.stop spans = some rest ∧
      ts = Interval.tokens ⟨cursor, s.old.start⟩ old ++ s.new.tokens new ++ rest := by
  rw [spliceFrom?] at h
  obtain ⟨kept, hkept, h⟩ := Option.bind_eq_some_iff.1 h
  obtain ⟨inserted, hinserted, h⟩ := Option.bind_eq_some_iff.1 h
  obtain ⟨rest, hrest, h⟩ := Option.bind_eq_some_iff.1 h
  rw [slice?, Option.ite_none_right_eq_some] at hkept hinserted
  obtain ⟨hcursor, hkept⟩ := hkept
  obtain ⟨hnew, hinserted⟩ := hinserted
  refine ⟨⟨hs, cursor_le_of_spliceFrom? hrest, hnew.1, hnew.2⟩, hcursor.1, rest, hrest, ?_⟩
  cases hkept
  cases hinserted
  exact (Option.some.inj h).symm

/-- **Projected edits write what splicing gives.**  By induction on the spans: between two of them
stand the tokens that are kept. -/
theorem OffsetEdit.Writes.ofSpans (hspans : ∀ s ∈ spans, s.old.start ≤ s.old.stop)
    (h : spliceFrom? (diffTokens old) (diffTokens new) cursor spans = some ts) :
    (Projection.ofSpans old new spans).dropped = [] ∧
      Writes (byteLen (firstLines old cursor)) ((diffTokens old).drop cursor).flatten
        (Projection.ofSpans old new spans).edits ts.flatten := by
  induction spans generalizing cursor ts with
  | nil =>
    rw [spliceFrom?, slice?, Option.ite_none_right_eq_some, List.take_length] at h
    obtain ⟨-, h⟩ := h
    cases h
    exact ⟨rfl, rfl⟩
  | cons s spans ih =>
    have hs := hspans s List.mem_cons_self
    obtain ⟨hfits, hcursor, rest, hrest, rfl⟩ := spliceFrom?_cons hs h
    obtain ⟨hdropped, hwrites⟩ := ih (fun f hf ↦ hspans f (List.mem_cons_of_mem _ hf)) hrest
    have hold : ((diffTokens old).drop cursor).flatten
        = (Interval.tokens ⟨cursor, s.old.start⟩ old).flatten ++
          ((s.old.tokens old).flatten ++ ((diffTokens old).drop s.old.stop).flatten) := by
      rw [← List.flatten_append, Interval.tokens_append_drop hs, ← List.flatten_append]
      exact congrArg List.flatten
        (Interval.tokens_append_drop (r := ⟨cursor, s.old.start⟩) hcursor).symm
    have hgap := Interval.byteLen_tokens (r := ⟨cursor, s.old.start⟩) (t := old) hcursor
    rw [Projection.ofSpans, s.project_eq hfits]
    by_cases hkind : s.kind = .empty
    · obtain ⟨holdEmpty, hnewEmpty⟩ := Span.isEmpty_of_kind_eq_empty hkind
      have hstop : s.old.stop = s.old.start :=
        Nat.le_antisymm (of_decide_eq_true holdEmpty) hs
      rw [if_pos hkind]
      refine ⟨hdropped, ?_⟩
      rw [hold, Interval.tokens_of_isEmpty holdEmpty, Interval.tokens_of_isEmpty hnewEmpty,
        List.append_nil, List.flatten_append]
      refine Writes.gap_append _ ?_
      rwa [← hgap, List.flatten_nil, List.nil_append, ← hstop]
    · rw [if_neg hkind]
      refine ⟨hdropped, (Interval.tokens ⟨cursor, s.old.start⟩ old).flatten,
        (s.old.tokens old).flatten, ((diffTokens old).drop s.old.stop).flatten, rest.flatten, hold,
        ?_, ?_, ?_, hwrites⟩
      · simp [Span.edit]
      · exact hgap
      · rw [← hgap]
        exact Interval.byteLen_tokens hs

theorem OffsetEdit.Writes.ofSplice (hspans : ∀ s ∈ spans, s.old.start ≤ s.old.stop)
    (h : splice? (diffTokens old) (diffTokens new) spans = some ts) :
    (Projection.ofSpans old new spans).dropped = [] ∧
      Writes 0 old (Projection.ofSpans old new spans).edits ts.flatten := by
  have := ofSpans hspans h
  rwa [List.drop_zero, flatten_diffTokens, firstLines, List.take_zero] at this

end Splicing

/-! ## Accumulating -/

namespace DocumentEdits

open OffsetEdit

variable {d : DocumentEdits} {t : Text}

/-- An edit of the snapshot is taken in as it is, unless it does nothing. -/
theorem push_untracked {e : OffsetEdit} (hd : d.tracked = false)
    (he : e.Sound d.document.content) :
    d.push e = .ok { d with edits := d.edits ++ [e].filter fun e ↦ !e.isNoop } := by
  have hle := he.le
  rw [push_eq, replace_eq, if_neg (by omega), if_neg (by simp [hd]), replaceUntracked_eq,
    checkOffset_of_isBoundary he.start, checkOffset_of_isBoundary he.stop]
  show EditError.ofText (if e.start = e.stop ∧ e.text = [] then .ok d
    else .ok { d with edits := d.edits ++ [e] }) = _
  by_cases hnoop : e.start = e.stop ∧ e.text = []
  · have h : e.isNoop = true := by simp [isNoop, hnoop]
    rw [if_pos hnoop, List.filter_cons_of_neg (by simp [h]), List.filter_nil, List.append_nil]
    rfl
  · have h : e.isNoop = false := by
      rw [isNoop, Bool.and_eq_false_iff, decide_eq_false_iff_not, List.isEmpty_eq_false_iff]
      exact Decidable.not_and_iff_not_or_not.1 hnoop
    rw [if_neg hnoop, List.filter_cons_of_pos (by simp [h]), List.filter_nil]
    rfl

theorem pushAll_untracked {es : List OffsetEdit} (hd : d.tracked = false)
    (hes : ∀ e ∈ es, e.Sound d.document.content) :
    d.pushAll es = .ok { d with edits := d.edits ++ es.filter fun e ↦ !e.isNoop } := by
  induction es generalizing d with
  | nil => simp [pushAll, List.foldlM]; rfl
  | cons e es ih =>
    obtain ⟨he, hes'⟩ := List.forall_mem_cons.1 hes
    rw [pushAll, List.foldlM_cons, push_untracked hd he]
    show pushAll { d with edits := d.edits ++ [e].filter fun e ↦ !e.isNoop } es = _
    rw [ih (d := { d with edits := d.edits ++ [e].filter fun e ↦ !e.isNoop }) hd hes']
    rw [List.append_assoc, ← List.filter_append]
    rfl

/-- **Edits that write a text are taken in by an accumulator that does not track, and applied to
give that text.** -/
theorem pushAll_of_writes {document : Snapshot} {es : List OffsetEdit}
    (h : Writes 0 document.content es t) :
    ∃ d, (DocumentEdits.new document false).pushAll es = .ok d ∧ d.document = document ∧
      d.edits = (es.filter fun e ↦ !e.isNoop) ∧ d.apply = .ok t := by
  exact ⟨_, pushAll_untracked rfl h.sound, rfl, rfl, apply_of_writes h.filter⟩

/-- **Projecting refines splicing.**  Whatever spans are given, if they can be spliced then all of
them are projected, the edits are taken in, and applying these gives the spliced text.  Splicing
itself refuses a span whose new lines go backwards. -/
theorem apply_projection {document : Snapshot} {new : Text} {spans : List Span} {ts : List Text}
    (hspans : ∀ s ∈ spans, s.old.start ≤ s.old.stop)
    (h : splice? (diffTokens document.content) (diffTokens new) spans = some ts) :
    (Projection.ofSpans document.content new spans).dropped = [] ∧
      ∃ d, (DocumentEdits.new document false).pushAll
          (Projection.ofSpans document.content new spans).edits = .ok d ∧
        d.apply = .ok ts.flatten := by
  obtain ⟨hdropped, hwrites⟩ := Writes.ofSplice hspans h
  obtain ⟨d, hd, -, -, happly⟩ := pushAll_of_writes hwrites
  exact ⟨hdropped, d, hd, happly⟩

/-- An insertion and a replacement that touch, an empty span, and a last line without ending. -/
theorem apply_projection_touching :
    let document := Snapshot.unversioned "file:///a" ['a', '\n', 'b', '\n', 'c']
    let new : Text := ['x', '\n', 'y', '\n', 'b', '\n', 'd']
    let spans : List Span :=
      [⟨⟨0, 0⟩, ⟨0, 1⟩⟩, ⟨⟨0, 1⟩, ⟨1, 2⟩⟩, ⟨⟨2, 2⟩, ⟨2, 2⟩⟩, ⟨⟨2, 3⟩, ⟨3, 4⟩⟩]
    (Projection.ofSpans document.content new spans).dropped = [] ∧
      ∃ d, (DocumentEdits.new document false).pushAll
          (Projection.ofSpans document.content new spans).edits = .ok d ∧
        d.apply = .ok new :=
  @apply_projection (.unversioned "file:///a" ['a', '\n', 'b', '\n', 'c'])
    ['x', '\n', 'y', '\n', 'b', '\n', 'd']
    [⟨⟨0, 0⟩, ⟨0, 1⟩⟩, ⟨⟨0, 1⟩, ⟨1, 2⟩⟩, ⟨⟨2, 2⟩, ⟨2, 2⟩⟩, ⟨⟨2, 3⟩, ⟨3, 4⟩⟩]
    [['x', '\n'], ['y', '\n'], ['b', '\n'], ['d']] (by decide) (by decide)

end DocumentEdits

end Emend
