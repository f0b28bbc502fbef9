import Emend.Proofs.Edit.Untracked
import Emend.Proofs.Text.Addressing

/-!
# Which edits of the protocol are taken in

Edits by positions may name lines that do not exist, run backwards, overlap, and have any columns.
What becomes of them is decided in three stages, and each of them can fail in one way:

* All ranges are looked up, before the first edit is taken in.  So a line that does not exist is
  what a refusal names first (`DocumentEdits.mapM_offsetEditOf_eq_error_iff`).
* The edits are taken in one by one, and one that runs backwards is refused
  (`DocumentEdits.exists_of_ofTextEdits_eq_error`).
* The accumulator is applied, and edits that overlap stand in the way
  (`DocumentEdits.exists_apply_of_apart`).

Columns never do any harm.  They are rounded to boundaries of the text, so a refusal is never about
an offset outside the text or inside a character; and rounding keeps the order of positions, so
edits that lie apart by their positions do not overlap by their offsets either.
`DocumentEdits.ofTextEdits_refusals` says all of this of any list of edits.
-/

set_option autoImplicit false

namespace Emend

open Text

/-- Whether a position is on a line that a text does not have. -/
def Text.lacksLine (t : Text) (p : Position) : Bool := lineCount t ≤ p.line.toNat

namespace TextEdit

/-- The ends of the ranges of edits, in order. -/
def ends (fs : List TextEdit) : List Position := fs.flatMap fun f ↦ [f.range.start, f.range.stop]

/-- One of two edits stops where the other one starts, or before. -/
def Apart (f g : TextEdit) : Prop := f.range.stop ≤ g.range.start ∨ g.range.stop ≤ f.range.start

instance (f g : TextEdit) : Decidable (f.Apart g) :=
  inferInstanceAs (Decidable (f.range.stop ≤ g.range.start ∨ g.range.stop ≤ f.range.start))

end TextEdit

namespace DocumentEdits

open OffsetEdit

variable {d : DocumentEdits} {content : Text} {encoding : PositionEncoding} {f g : TextEdit}
  {fs : List TextEdit} {e e' : OffsetEdit} {es : List OffsetEdit}

/-! ## Looking up ranges

The only thing that can be wrong with a position is its line; a column is rounded, whatever it is.
So the ends of all ranges are looked up one after the other, and the first one on a line that does
not exist is the failure. -/

theorem offsetEditOf_eq_ok_iff : offsetEditOf content encoding f = .ok e ↔
    offsetOfPosition content encoding f.range.start = .ok e.start ∧
    offsetOfPosition content encoding f.range.stop = .ok e.stop ∧ e.text = f.newText := by
  constructor
  · intro h
    obtain ⟨start, hstart, h⟩ := exists_of_bind_eq_ok h
    obtain ⟨stop, hstop, h⟩ := exists_of_bind_eq_ok h
    obtain rfl := Except.ok.inj h
    exact ⟨hstart, hstop, rfl⟩
  · rintro ⟨hstart, hstop, htext⟩
    rw [offsetEditOf, hstart, hstop, ← htext]
    rfl

/-- An edit cannot be looked up exactly if an end of it is on a line that does not exist; the start
is looked up first. -/
theorem offsetEditOf_eq_error_iff {error : TextError} :
    offsetEditOf content encoding f = .error error ↔
      ([f.range.start, f.range.stop].find? content.lacksLine).map
        (fun p ↦ .lineOutOfRange p.line.toNat (lineCount content)) = some error := by
  have hfound {p : Position} {n : Nat} (h : offsetOfPosition content encoding p = .ok n) :
      ¬ content.lacksLine p = true := by
    rw [lacksLine, decide_eq_true_eq]
    intro hlacks
    cases h.symm.trans (offsetOfPosition_eq_error_iff.2 ⟨hlacks, rfl⟩)
  have hmissing {p : Position} {error' : TextError}
      (h : offsetOfPosition content encoding p = .error error') :
      content.lacksLine p = true ∧ error' = .lineOutOfRange p.line.toNat (lineCount content) := by
    rw [lacksLine, decide_eq_true_eq]
    exact offsetOfPosition_eq_error_iff.1 h
  rw [offsetEditOf]
  cases hstart : offsetOfPosition content encoding f.range.start with
  | error error' =>
    obtain ⟨hlacks, rfl⟩ := hmissing hstart
    rw [List.find?_cons_of_pos hlacks, Option.map_some, Option.some.injEq]
    exact ⟨Except.error.inj, congrArg Except.error⟩
  | ok start =>
    rw [List.find?_cons_of_neg (hfound hstart)]
    show (offsetOfPosition content encoding f.range.stop >>= _) = _ ↔ _
    cases hstop : offsetOfPosition content encoding f.range.stop with
    | error error' =>
      obtain ⟨hlacks, rfl⟩ := hmissing hstop
      rw [List.find?_cons_of_pos hlacks, Option.map_some, Option.some.injEq]
      exact ⟨Except.error.inj, congrArg Except.error⟩
    | ok stop =>
      rw [List.find?_cons_of_neg (hfound hstop)]
      constructor <;> intro h <;> cases h

/-- **Ranges cannot be looked up exactly if one of their ends is on a line that does not exist**,
and the first such end is named. -/
theorem mapM_offsetEditOf_eq_error_iff {error : TextError} :
    fs.mapM (offsetEditOf content encoding) = .error error ↔
      ∃ p, (TextEdit.ends fs).find? content.lacksLine = some p ∧
        error = .lineOutOfRange p.line.toNat (lineCount content) := by
  rw [mapM_eq_error_iff fun _ _ ↦ offsetEditOf_eq_error_iff, TextEdit.ends, List.find?_flatMap]
  have hmap := List.map_findSome?
    (f := fun f : TextEdit ↦ [f.range.start, f.range.stop].find? content.lacksLine)
    (g := fun p : Position ↦ TextError.lineOutOfRange p.line.toNat (lineCount content)) (l := fs)
  rw [Function.comp_def] at hmap
  rw [← hmap, Option.map_eq_some_iff]
  exact exists_congr fun p ↦ and_congr_right fun _ ↦ eq_comm

theorem exists_offsets (encoding : PositionEncoding)
    (hlines : (TextEdit.ends fs).find? content.lacksLine = none) :
    ∃ es, fs.mapM (offsetEditOf content encoding) = .ok es ∧
      List.Forall₂ (fun f e ↦ offsetEditOf content encoding f = .ok e) fs es := by
  cases hoffsets : fs.mapM (offsetEditOf content encoding) with
  | error e =>
    obtain ⟨p, hp, -⟩ := mapM_offsetEditOf_eq_error_iff.1 hoffsets
    cases hlines.symm.trans hp
  | ok es => exact ⟨es, rfl, mapM_eq_ok_iff.1 hoffsets⟩

/-- The ends of an edit that is looked up are boundaries. -/
theorem onBoundaries_of_offsetEditOf (h : offsetEditOf content encoding f = .ok e) :
    isBoundary content e.start = true ∧ isBoundary content e.stop = true := by
  obtain ⟨hstart, hstop, -⟩ := offsetEditOf_eq_ok_iff.1 h
  obtain ⟨q, hq, -⟩ := exists_at_of_offsetOfPosition hstart
  obtain ⟨r, hr, -⟩ := exists_at_of_offsetOfPosition hstop
  exact ⟨hq.within.isBoundary, hr.within.isBoundary⟩

theorem le_of_offsetEditOf (h : offsetEditOf content encoding f = .ok e)
    (hle : f.range.start ≤ f.range.stop) : e.start ≤ e.stop := by
  obtain ⟨hstart, hstop, -⟩ := offsetEditOf_eq_ok_iff.1 h
  exact offset_le_of_position_le hle hstart hstop

/-- Edits that lie apart do so by offset too. -/
theorem not_overlaps_of_apart (h : offsetEditOf content encoding f = .ok e)
    (h' : offsetEditOf content encoding g = .ok e') (hapart : f.Apart g) : ¬ e.Overlaps e' := by
  obtain ⟨hstart, hstop, -⟩ := offsetEditOf_eq_ok_iff.1 h
  obtain ⟨hstart', hstop', -⟩ := offsetEditOf_eq_ok_iff.1 h'
  rcases hapart with hle | hle
  · exact not_overlaps_of_le (offset_le_of_position_le hle hstop hstart')
  · exact fun hoverlaps ↦
      not_overlaps_of_le (offset_le_of_position_le hle hstop' hstart) hoverlaps.symm

/-! ## Taking edits in

What has been looked up lies on boundaries.  So a range that runs backwards is all that can be wrong
when the edits are taken in, and the first such edit is the failure.  Looking up keeps the order of
positions: a range that runs forwards still does so by its offsets, and ranges that lie apart still
do. -/

/-- Edits between boundaries of the snapshot are refused only for one that runs backwards. -/
theorem exists_of_pushAll_eq_error {error : EditError} (hd : d.tracked = false)
    (hes : ∀ e ∈ es, isBoundary d.document.content e.start = true ∧
      isBoundary d.document.content e.stop = true) (h : d.pushAll es = .error error) :
    ∃ e ∈ es, e.stop < e.start ∧ error = .outOfRange (.invertedRange e.start e.stop) := by
  induction es generalizing d with
  | nil => cases h
  | cons e es ih =>
    obtain ⟨⟨hstart, hstop⟩, hes⟩ := List.forall_mem_cons.1 hes
    rw [pushAll, List.foldlM_cons] at h
    by_cases hlt : e.stop < e.start
    · have hpush : d.push e = .error (.outOfRange (.invertedRange e.start e.stop)) := by
        rw [push_eq, replace_eq, if_pos hlt]
        rfl
      rw [hpush] at h
      exact ⟨e, List.mem_cons_self, hlt, (Except.error.inj h).symm⟩
    · rw [push_untracked hd ⟨Nat.le_of_not_lt hlt, hstart, hstop⟩] at h
      obtain ⟨f, hf, hlt, herror⟩ :=
        ih (d := { d with edits := d.edits ++ [e].filter fun e ↦ !e.isNoop }) hd hes h
      exact ⟨f, List.mem_cons_of_mem _ hf, hlt, herror⟩

/-- Edits that can be looked up are refused only for one whose range runs backwards. -/
theorem exists_of_ofTextEdits_eq_error {document : Snapshot} {error : EditError}
    (hlines : (TextEdit.ends fs).find? document.content.lacksLine = none)
    (h : ofTextEdits document fs encoding = .error error) :
    ∃ f ∈ fs, f.range.stop < f.range.start ∧ ∃ start stop,
      offsetOfPosition document.content encoding f.range.start = .ok start ∧
      offsetOfPosition document.content encoding f.range.stop = .ok stop ∧
      error = .outOfRange (.invertedRange start stop) := by
  obtain ⟨es, hoffsets, hforall⟩ := exists_offsets encoding hlines
  have hboundaries : ∀ e ∈ es, isBoundary document.content e.start = true ∧
      isBoundary document.content e.stop = true := by
    intro e he
    obtain ⟨f, -, hf⟩ := exists_of_mem_of_forall₂ hforall he
    exact onBoundaries_of_offsetEditOf hf
  rw [ofTextEdits_of_offsets hoffsets] at h
  obtain ⟨e, he, hlt, rfl⟩ :=
    exists_of_pushAll_eq_error (d := new document false) rfl hboundaries h
  obtain ⟨f, hf, hfe⟩ := exists_of_mem_of_forall₂ hforall he
  obtain ⟨hstart, hstop, -⟩ := offsetEditOf_eq_ok_iff.1 hfe
  refine ⟨f, hf, Decidable.byContradiction fun hle ↦ ?_, _, _, hstart, hstop, rfl⟩
  exact absurd (le_of_offsetEditOf hfe hle) (Nat.not_le_of_lt hlt)

/-- **Edits that lie apart are taken in and can be applied**, if all their lines exist and none of
them runs backwards. -/
theorem exists_apply_of_apart {document : Snapshot}
    (hlines : (TextEdit.ends fs).find? document.content.lacksLine = none)
    (hle : ∀ f ∈ fs, f.range.start ≤ f.range.stop) (hapart : fs.Pairwise TextEdit.Apart) :
    ∃ d t, ofTextEdits document fs encoding = .ok d ∧ d.apply = .ok t := by
  obtain ⟨es, hoffsets, hforall⟩ := exists_offsets encoding hlines
  have hsound : ∀ e ∈ es, e.Sound document.content := by
    intro e he
    obtain ⟨f, hf, hfe⟩ := exists_of_mem_of_forall₂ hforall he
    obtain ⟨hstart, hstop⟩ := onBoundaries_of_offsetEditOf hfe
    exact ⟨le_of_offsetEditOf hfe (hle f hf), hstart, hstop⟩
  have hes : es.Pairwise fun e e' ↦ ¬ e.Overlaps e' :=
    pairwise_of_forall₂ hforall hapart fun f _ g _ e e' hf hg ↦ not_overlaps_of_apart hf hg
  have hstored : ∀ e ∈ es.filter fun e ↦ !e.isNoop, e.start ≤ e.stop :=
    fun e he ↦ (hsound e (List.mem_filter.1 he).1).le
  obtain ⟨gs, hgs⟩ := (exists_inOrder_iff hstored).2 (hes.filter _)
  refine ⟨{ new document false with edits := es.filter fun e ↦ !e.isNoop },
    render document.content gs, ?_, ?_⟩
  · rw [ofTextEdits_of_offsets hoffsets]
    exact pushAll_untracked (d := new document false) rfl hsound
  · rw [apply, inOrder, hgs]
    rfl

/-- **Which edits of the protocol are taken in.**  They are refused for a line that does not exist
exactly if an end of a range is on one, and the first such end is named.  Otherwise they are refused
only for a range that runs backwards, and never for an offset outside the text or inside a
character, whatever their columns are.  If all lines exist, no range runs backwards and any two
edits lie apart, then they are taken in and can be applied. -/
theorem ofTextEdits_refusals (document : Snapshot) (fs : List TextEdit)
    (encoding : PositionEncoding) :
    let missing := (TextEdit.ends fs).find? document.content.lacksLine
    (∀ line count, ofTextEdits document fs encoding
      = .error (.outOfRange (.lineOutOfRange line count)) ↔
        ∃ p, missing = some p ∧ line = p.line.toNat ∧ count = lineCount document.content) ∧
    (∀ error, missing = none → ofTextEdits document fs encoding = .error error →
      ∃ f ∈ fs, f.range.stop < f.range.start ∧ ∃ start stop,
        offsetOfPosition document.content encoding f.range.start = .ok start ∧
        offsetOfPosition document.content encoding f.range.stop = .ok stop ∧
        error = .outOfRange (.invertedRange start stop)) ∧
    (∀ offset len, ofTextEdits document fs encoding
      ≠ .error (.outOfRange (.offsetOutOfRange offset len))) ∧
    (∀ offset, ofTextEdits document fs encoding
      ≠ .error (.outOfRange (.notCharBoundary offset))) ∧
    (missing = none → (∀ f ∈ fs, f.range.start ≤ f.range.stop) → fs.Pairwise TextEdit.Apart →
      ∃ d t, ofTextEdits document fs encoding = .ok d ∧ d.apply = .ok t) := by
  intro missing
  have hmissing : ∀ p, missing = some p → ofTextEdits document fs encoding
      = .error (.outOfRange (.lineOutOfRange p.line.toNat (lineCount document.content))) := by
    intro p hp
    rw [ofTextEdits, mapM_offsetEditOf_eq_error_iff.2 ⟨p, hp, rfl⟩]
    rfl
  have hcases : ∀ error, ofTextEdits document fs encoding = .error (.outOfRange error) →
      (∃ p, missing = some p ∧ error = .lineOutOfRange p.line.toNat (lineCount document.content)) ∨
      ∃ start stop, error = .invertedRange start stop := by
    intro error h
    cases hfind : missing with
    | some p =>
      rw [hmissing p hfind] at h
      cases h
      exact .inl ⟨p, rfl, rfl⟩
    | none =>
      obtain ⟨f, -, -, start, stop, -, -, herror⟩ := exists_of_ofTextEdits_eq_error hfind h
      cases herror
      exact .inr ⟨start, stop, rfl⟩
  refine ⟨fun line count ↦ ⟨fun h ↦ ?_, ?_⟩, fun error ↦ exists_of_ofTextEdits_eq_error,
    fun offset len h ↦ ?_, fun offset h ↦ ?_, exists_apply_of_apart⟩
  · rcases hcases _ h with ⟨p, hp, herror⟩ | ⟨start, stop, herror⟩
    · cases herror
      exact ⟨p, hp, rfl, rfl⟩
    · cases herror
  · rintro ⟨p, hp, rfl, rfl⟩
    exact hmissing p hp
  · rcases hcases _ h with ⟨p, -, herror⟩ | ⟨start, stop, herror⟩ <;> cases herror
  · rcases hcases _ h with ⟨p, -, herror⟩ | ⟨start, stop, herror⟩ <;> cases herror

/-- Columns inside a character and past the end of a line, where edits touch. -/
theorem ofTextEdits_refusals_rounded :
    let document := Snapshot.unversioned "file:///a" ['a', '😀', '\r', '\n', 'b']
    let fs := [.replace ⟨⟨0, 9⟩, ⟨1, 0⟩⟩ [], .insert ⟨0, 2⟩ ['x'], .replace ⟨⟨0, 3⟩, ⟨0, 9⟩⟩ ['y']]
    (TextEdit.ends fs).find? document.content.lacksLine = none ∧
      (∀ f ∈ fs, f.range.start ≤ f.range.stop) ∧ fs.Pairwise TextEdit.Apart ∧
      ∃ d t, ofTextEdits document fs .utf16 = .ok d ∧ d.apply = .ok t := by
  intro document fs
  have hlines : (TextEdit.ends fs).find? document.content.lacksLine = none := by decide
  have hle : ∀ f ∈ fs, f.range.start ≤ f.range.stop := by decide
  have hapart : fs.Pairwise TextEdit.Apart := by decide
  exact ⟨hlines, hle, hapart, (ofTextEdits_refusals document fs .utf16).2.2.2.2 hlines hle hapart⟩

end DocumentEdits

end Emend
