import Emend.Proofs.Edit.Projecting
import Emend.Proofs.Edit.WholeLines

/-!
# Only spans that reach outside are dropped

`Diff.Span.ReachesOut` says, without projecting anything, that a span uses a line bound that its
text does not have.  Whatever spans are given, these are the ones that cannot be projected, and the
line number is the only thing that is ever wrong with one: the text of a run of lines, once both of
its ends are found, is there (`Interval.offsets_cases`, `Interval.textOf_cases`).

Which bounds a span uses depends on its kind.  A deletion takes nothing from the new text and an
insertion looks only for the start of the old lines, so a span may name lines that do not exist and
still be projected, as long as its kind does not ask for them.

`Projection.sorts_ofSpans` says that each span that holds lines ends up on one of the two sides, in
the order in which the spans came, and `Projection.drops_iff_reachesOut` puts it together with what
becomes of the edits.
-/

set_option autoImplicit false

namespace Emend

open Text Diff

/-! ## Runs of lines that end outside

A run of lines is looked up by its two bounds, and a bound fails exactly if it is beyond the number
of lines.  A run that is not empty cannot start beyond the last line and stop within the text, so it
has offsets exactly if it stops within the text. -/

section Runs

variable {t : Text} {r : Interval} {start stop : Nat}

/-- The error is about a line number of the interval that the text does not have. -/
def Interval.Misses (t : Text) (r : Interval) (error : TextError) : Prop :=
  ∃ i, (i = r.start ∨ i = r.stop) ∧ lineCount t < i ∧ error = .lineOutOfRange i (lineCount t)

namespace Interval

/-- A run of lines has offsets if it stops within the text. -/
theorem offsets_cases (hr : r.isEmpty = false) (t : Text) :
    (r.stop ≤ lineCount t ∧ ∃ start stop, r.offsets t = .ok (start, stop)) ∨
      lineCount t < r.stop ∧ ∃ error, r.offsets t = .error error ∧ r.Misses t error := by
  have hlt : ¬ r.stop ≤ r.start := of_decide_eq_false hr
  rw [offsets, endOfLines_eq_offsetOfLine]
  rcases Nat.lt_or_ge (lineCount t) r.stop with hstop | hstop
  · refine .inr ⟨hstop, ?_⟩
    rcases Nat.lt_or_ge (lineCount t) r.start with hstart | hstart
    · rw [offsetOfLine_of_lt hstart]
      exact ⟨_, rfl, r.start, .inl rfl, hstart, rfl⟩
    · rw [offsetOfLine_of_le hstart, offsetOfLine_of_lt hstop]
      exact ⟨_, rfl, r.stop, .inr rfl, hstop, rfl⟩
  · rw [offsetOfLine_of_le (by omega), offsetOfLine_of_le hstop]
    exact .inl ⟨hstop, _, _, rfl⟩

/-- **The text of a run of lines is there once both of its ends are.**  They are boundaries, and in
order. -/
theorem exists_slice_of_offsets (hr : r.isEmpty = false) (h : r.offsets t = .ok (start, stop)) :
    ∃ text, t.slice start stop = .ok text := by
  have hsound := (onLines_of_offsets hr h []).addressable.sound
  exact ⟨_, slice_of_isBoundary hsound.le hsound.start hsound.stop⟩

/-- A run of lines has a text if it stops within the text it is cut from. -/
theorem textOf_cases (hr : r.isEmpty = false) (t : Text) :
    (r.stop ≤ lineCount t ∧ ∃ text, r.textOf t = .ok text) ∨
      lineCount t < r.stop ∧ ∃ error, r.textOf t = .error error ∧ r.Misses t error := by
  rcases r.offsets_cases hr t with ⟨hstop, start, stop, h⟩ | ⟨hstop, error, h, hmisses⟩
  · obtain ⟨text, htext⟩ := exists_slice_of_offsets hr h
    refine .inl ⟨hstop, text, ?_⟩
    rw [textOf, h]
    exact htext
  · refine .inr ⟨hstop, error, ?_, hmisses⟩
    rw [textOf, h]
    rfl

end Interval

end Runs

/-! ## One span

`Fate` goes through the kinds once.  What makes a span fail, and what the error says, can then be
read off it without opening `project` again. -/

namespace Diff.Span

variable {old new : Text} {s : Span} {error : TextError}

/-- A span uses a line bound that its text does not have: where the old lines stop or, for an
insertion, where they start, and where the new lines stop. -/
def ReachesOut (old new : Text) (s : Span) : Prop :=
  (s.kind = .delete ∨ s.kind = .replace) ∧ lineCount old < s.old.stop ∨
    s.kind = .insert ∧ lineCount old < s.old.start ∨
    (s.kind = .insert ∨ s.kind = .replace) ∧ lineCount new < s.new.stop

instance (old new : Text) : DecidablePred (ReachesOut old new) := fun s ↦
  inferInstanceAs (Decidable ((s.kind = .delete ∨ s.kind = .replace) ∧ lineCount old < s.old.stop ∨
    s.kind = .insert ∧ lineCount old < s.old.start ∨
    (s.kind = .insert ∨ s.kind = .replace) ∧ lineCount new < s.new.stop))

/-- What becomes of a span: it is empty, or it reaches outside and there is an error about a line
number, or it has an edit. -/
inductive Fate (old new : Text) (s : Span) : Prop
  | empty (hkind : s.kind = .empty) (h : s.project old new = .ok none)
  | dropped (hkind : s.kind ≠ .empty) (hout : s.ReachesOut old new) (error : TextError)
      (h : s.project old new = .error error)
      (hmisses : s.old.Misses old error ∨ s.new.Misses new error)
  | projected (hkind : s.kind ≠ .empty) (hin : ¬ s.ReachesOut old new) (e : OffsetEdit)
      (h : s.project old new = .ok (some e))

/-- **A span that holds lines is projected exactly if it does not reach outside.** -/
theorem fate (old new : Text) (s : Span) : s.Fate old new := by
  cases hold : s.old.isEmpty with
  | false =>
    cases hnew : s.new.isEmpty with
    | false =>
      have hkind : s.kind = .replace := by rw [kind, hold, hnew]
      have hne : s.kind ≠ .empty := by simp [hkind]
      have hout : s.ReachesOut old new ↔
          lineCount old < s.old.stop ∨ lineCount new < s.new.stop := by
        simp [ReachesOut, hkind]
      rcases s.old.offsets_cases hold old with ⟨hle, start, stop, h⟩ | ⟨hlt, error, h, hmisses⟩
      · rcases s.new.textOf_cases hnew new with ⟨hle', text, h'⟩ | ⟨hlt', error, h', hmisses⟩
        · have hin := mt hout.1 (by omega)
          exact .projected hne hin ⟨start, stop, text⟩ (by rw [project, hkind, h, h']; rfl)
        · have hproject : s.project old new = .error error := by rw [project, hkind, h, h']; rfl
          exact .dropped hne (hout.2 (.inr hlt')) error hproject (.inr hmisses)
      · have hproject : s.project old new = .error error := by rw [project, hkind, h]; rfl
        exact .dropped hne (hout.2 (.inl hlt)) error hproject (.inl hmisses)
    | true =>
      have hkind : s.kind = .delete := by rw [kind, hold, hnew]
      have hne : s.kind ≠ .empty := by simp [hkind]
      have hout : s.ReachesOut old new ↔ lineCount old < s.old.stop := by simp [ReachesOut, hkind]
      rcases s.old.offsets_cases hold old with ⟨hle, start, stop, h⟩ | ⟨hlt, error, h, hmisses⟩
      · have hin := mt hout.1 (Nat.not_lt_of_le hle)
        exact .projected hne hin ⟨start, stop, []⟩ (by rw [project, hkind, h]; rfl)
      · have hproject : s.project old new = .error error := by rw [project, hkind, h]; rfl
        exact .dropped hne (hout.2 hlt) error hproject (.inl hmisses)
  | true =>
    cases hnew : s.new.isEmpty with
    | false =>
      have hkind : s.kind = .insert := by rw [kind, hold, hnew]
      have hne : s.kind ≠ .empty := by simp [hkind]
      have hout : s.ReachesOut old new ↔
          lineCount old < s.old.start ∨ lineCount new < s.new.stop := by
        simp [ReachesOut, hkind]
      rcases Nat.lt_or_ge (lineCount old) s.old.start with hlt | hle
      · have hproject : s.project old new
            = .error (.lineOutOfRange s.old.start (lineCount old)) := by
          rw [project, hkind, offsetOfLine_of_lt hlt]
          rfl
        exact .dropped hne (hout.2 (.inl hlt)) _ hproject (.inl ⟨_, .inl rfl, hlt, rfl⟩)
      · have h := offsetOfLine_of_le hle
        rcases s.new.textOf_cases hnew new with ⟨hle', text, h'⟩ | ⟨hlt', error, h', hmisses⟩
        · have hin := mt hout.1 (by omega)
          exact .projected hne hin ⟨_, _, text⟩ (by rw [project, hkind, h, h']; rfl)
        · have hproject : s.project old new = .error error := by rw [project, hkind, h, h']; rfl
          exact .dropped hne (hout.2 (.inr hlt')) error hproject (.inr hmisses)
    | true =>
      have hkind : s.kind = .empty := by rw [kind, hold, hnew]
      exact .empty hkind (by rw [project, hkind])

theorem project_eq_error_iff : (∃ error, s.project old new = .error error) ↔
    s.ReachesOut old new := by
  cases s.fate old new with
  | empty hkind h => simp [h, ReachesOut, hkind]
  | dropped hkind hout error h hmisses => exact ⟨fun _ ↦ hout, fun _ ↦ ⟨error, h⟩⟩
  | projected hkind hin e h => simp [h, hin]

theorem misses_of_project_eq_error (h : s.project old new = .error error) :
    s.old.Misses old error ∨ s.new.Misses new error := by
  cases s.fate old new with
  | empty hkind h' => cases h.symm.trans h'
  | dropped hkind hout error' h' hmisses =>
    obtain rfl := Except.error.inj (h.symm.trans h')
    exact hmisses
  | projected hkind hin e h' => cases h.symm.trans h'

end Diff.Span

/-! ## All spans -/

namespace Projection

variable {old new : Text}

/-- Edits and dropped spans come from the spans that hold lines, each side in the order of its
spans, and no such span is on neither side. -/
structure Sorts (old new : Text) (spans : List Span) (p : Projection) : Prop where
  edits : List.Forall₂ (fun s e ↦ s.project old new = .ok (some e))
    (spans.filter fun s ↦ s.kind ≠ .empty ∧ ¬ s.ReachesOut old new) p.edits
  dropped : List.Forall₂ (fun s d ↦ d.span = s ∧ s.project old new = .error d.error)
    (spans.filter fun s ↦ s.kind ≠ .empty ∧ s.ReachesOut old new) p.dropped
  length : p.edits.length + p.dropped.length = (spans.filter fun s ↦ s.kind ≠ .empty).length

/-- By induction on the spans: each adds to the side that it belongs to. -/
theorem sorts_ofSpans (old new : Text) (spans : List Span) :
    (ofSpans old new spans).Sorts old new spans := by
  induction spans with
  | nil => exact ⟨.nil, .nil, rfl⟩
  | cons s spans ih =>
    obtain ⟨hedits, hdropped, hlength⟩ := ih
    rw [ofSpans]
    cases s.fate old new with
    | empty hkind h =>
      rw [h]
      exact ⟨by simpa [add, hkind] using hedits, by simpa [add, hkind] using hdropped,
        by simpa [add, hkind] using hlength⟩
    | dropped hkind hout error h hmisses =>
      rw [h]
      refine ⟨by simpa [add, hkind, hout] using hedits, ?_, ?_⟩
      · rw [List.filter_cons_of_pos (by simp [hkind, hout])]
        exact .cons ⟨rfl, h⟩ hdropped
      · rw [List.filter_cons_of_pos (by simp [hkind])]
        simp only [add, List.length_cons]
        omega
    | projected hkind hin e h =>
      rw [h]
      refine ⟨?_, by simpa [add, hkind, hin] using hdropped, ?_⟩
      · rw [List.filter_cons_of_pos (by simp [hkind, hin])]
        exact .cons h hedits
      · rw [List.filter_cons_of_pos (by simp [hkind])]
        simp only [add, List.length_cons]
        omega

/-- **Projection drops the spans that reach outside, and nothing else.**  A span fails exactly if it
uses a line bound that its text does not have, and the error says so.  The spans that hold lines
are shared out between edits and dropped spans, in order, and none is lost.  Each edit lies in the
old text, between boundaries, and an accumulator of edits of that text takes it in. -/
theorem drops_iff_reachesOut (old new : Text) (spans : List Span) :
    (∀ s : Span, (∃ error, s.project old new = .error error) ↔ s.ReachesOut old new) ∧
    (∀ (s : Span) (error : TextError), s.project old new = .error error →
      s.old.Misses old error ∨ s.new.Misses new error) ∧
    (ofSpans old new spans).Sorts old new spans ∧
    ∀ e ∈ (ofSpans old new spans).edits,
      (e.start ≤ e.stop ∧ e.stop ≤ byteLen old) ∧
      (isBoundary old e.start = true ∧ isBoundary old e.stop = true) ∧
      ∀ d : DocumentEdits, d.tracked = false → d.document.content = old →
        ∃ d', d.push e = .ok d' := by
  refine ⟨fun s ↦ s.project_eq_error_iff, fun s error ↦ s.misses_of_project_eq_error,
    sorts_ofSpans old new spans, fun e he ↦ ?_⟩
  have hsound := (onLines old new spans e he).addressable.sound
  refine ⟨⟨hsound.le, le_byteLen_of_isBoundary hsound.stop⟩, ⟨hsound.start, hsound.stop⟩,
    fun d hd hcontent ↦ ?_⟩
  subst hcontent
  exact ⟨_, d.push_untracked hd hsound⟩

end Projection

end Emend
