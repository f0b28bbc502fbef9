import Emend.Proofs.Edit.Arrangement
import Emend.Proofs.Edit.Exchange

/-!
# Edits that all address the snapshot

An accumulator that does not track stores the edits of its calls as they are, if they fit the
snapshot and change anything (`DocumentEdits.edits_afterCalls`).  What it makes of them is told by
their one arrangement (`OffsetEdit.Arranges`):

* `DocumentEdits.apply_untracked`: they can be applied exactly if no two of them overlap, and then
  the result is what comes of carrying them out one at a time, from the last to the first.
* `DocumentEdits.apply_reordered`: calls may come in any order, as long as those with one range keep
  theirs.

`OffsetEdit.carryOut` and `OffsetEdit.renderChecked` cut texts with checks where the accumulator
does without.  The accumulator writes the edited text in one pass and never looks whether a cut is
good.  The two checked ways say that it need not: no check on the way fails, since every offset was
checked against the snapshot when its edit was taken in, and each edit is carried out where the text
in front of it is still that of the snapshot.
-/

set_option autoImplicit false

namespace Emend

open Text

namespace OffsetEdit

variable {base : Nat} {c p t : Text} {es : List OffsetEdit}

/-- Carries out one edit on a text, in which its ends must be boundaries. -/
def carryOut (e : OffsetEdit) (t : Text) : Except TextError Text :=
  (t.slice e.start e.stop).map fun _ ↦ replaceBetween t e.start e.stop e.text

/-- Carries out edits in one pass from an offset on, where all that is copied must lie between
boundaries. -/
def renderChecked (content : Text) (cursor : Nat) : List OffsetEdit → Except TextError Text
  | [] => content.slice cursor content.byteLen
  | e :: es => do
    let gap ← content.slice cursor e.start
    let rest ← renderChecked content e.stop es
    return gap ++ e.text ++ rest

/-- **Edits one behind the other can be carried out one at a time**, from the last to the first.
What stands in front of an edit is then as it was, so its offsets still hold. -/
theorem Writes.foldrM_carryOut (h : Writes base c es t) (hp : byteLen p = base) :
    es.foldrM carryOut (p ++ c) = .ok (p ++ t) := by
  induction es generalizing base c t p with
  | nil =>
    obtain rfl : t = c := h
    rfl
  | cons e es ih =>
    obtain ⟨gap, replaced, rest, out, rfl, rfl, hstart, hstop, h⟩ := h
    have hrest : es.foldrM carryOut (p ++ (gap ++ (replaced ++ rest)))
        = .ok (p ++ gap ++ (replaced ++ out)) := by
      have := ih (p := p ++ gap ++ replaced) h (by simp [hstop, hp, Nat.add_assoc])
      simpa using this
    have hstart' : e.start = byteLen (p ++ gap) := by rw [hstart, byteLen_append, hp]
    have hstop' : e.stop = byteLen (p ++ gap) + byteLen replaced := by
      rw [hstop, byteLen_append, hp]
    rw [List.foldrM_cons, hrest]
    show carryOut e (p ++ gap ++ (replaced ++ out)) = _
    rw [carryOut, slice_append _ _ _ hstart' hstop', replaceBetween_append _ _ _ _ hstart' hstop']
    simp [Except.map]

/-- No cut of the one pass is outside the text or inside a character. -/
theorem Writes.renderChecked (h : Writes base c es t) (hp : byteLen p = base) :
    OffsetEdit.renderChecked (p ++ c) base es = .ok t := by
  induction es generalizing base c t p with
  | nil =>
    obtain rfl : t = c := h
    have hslice := slice_append p t [] hp.symm (byteLen_append p t)
    rwa [List.append_nil] at hslice
  | cons e es ih =>
    obtain ⟨gap, replaced, rest, out, rfl, rfl, hstart, hstop, h⟩ := h
    have hgap : (p ++ (gap ++ (replaced ++ rest))).slice base e.start = .ok gap :=
      slice_append p gap (replaced ++ rest) hp.symm (by rw [hstart, hp])
    have hrest : OffsetEdit.renderChecked (p ++ (gap ++ (replaced ++ rest))) e.stop es
        = .ok out := by
      have := ih (p := p ++ gap ++ replaced) h (by simp [hstop, hp, Nat.add_assoc])
      simpa using this
    rw [OffsetEdit.renderChecked, hgap, hrest, ← List.append_assoc]
    rfl

instance (t : Text) (e : OffsetEdit) : Decidable (e.Sound t) :=
  decidable_of_iff (e.start ≤ e.stop ∧ isBoundary t e.start = true ∧ isBoundary t e.stop = true)
    ⟨fun h ↦ ⟨h.1, h.2.1, h.2.2⟩, fun h ↦ ⟨h.le, h.start, h.stop⟩⟩

/-- Whether an edit is stored by an accumulator that does not track: it fits the snapshot, and it
changes something. -/
def isStored (content : Text) (e : OffsetEdit) : Bool := e.Sound content && !e.isNoop

end OffsetEdit

/-- The part of a line in front of an offset can be cut out, to measure its column. -/
def Text.CutsLine (t : Text) (offset : Nat) : Prop :=
  ∃ i start q, lineOfOffset t offset = .ok i ∧ offsetOfLine t i = .ok start ∧
    slice t start offset = .ok q

theorem Text.cutsLine_of_isBoundary {t : Text} {offset : Nat} (h : isBoundary t offset = true) :
    CutsLine t offset := by
  obtain ⟨i, q, hwithin, -⟩ := exists_within h
  obtain ⟨start, hstart, hslice⟩ := hwithin.exists_slice
  exact ⟨i, start, q, hwithin.lineOfOffset, hstart, hslice⟩

namespace DocumentEdits

open OffsetEdit

variable {d : DocumentEdits}

/-! ## What is stored -/

/-- A call adds its edit, or nothing. -/
theorem edits_attempt (hd : d.tracked = false) (c : EditCall) :
    (d.attempt c).edits = d.edits ++ [c.edit].filter (isStored d.document.content) := by
  have hpush := push_untracked_iff hd c.edit
  rw [attempt_eq, c.perform_eq]
  by_cases hsound : c.edit.Sound d.document.content
  · obtain ⟨d', hd'⟩ := hpush.1.2 hsound
    have hstored : [c.edit].filter (isStored d.document.content)
        = [c.edit].filter fun e ↦ !e.isNoop := by
      refine List.filter_congr fun e he ↦ ?_
      obtain rfl := List.mem_singleton.1 he
      simp [isStored, hsound]
    rw [hstored, show d.replace c.edit.start c.edit.stop c.edit.text = .ok d' from hd',
      hpush.2 d' hd']
  · have hrefused : [c.edit].filter (isStored d.document.content) = [] :=
      List.filter_cons_of_neg (by simp [isStored, hsound])
    rw [hrefused, List.append_nil]
    cases h : d.replace c.edit.start c.edit.stop c.edit.text with
    | ok d' => exact absurd (hpush.1.1 ⟨d', h⟩) hsound
    | error e => rfl

theorem edits_attemptAll (hd : d.tracked = false) (calls : List EditCall) :
    (calls.foldl attempt d).edits
      = d.edits ++ (calls.map EditCall.edit).filter (isStored d.document.content) := by
  induction calls generalizing d with
  | nil => simp
  | cons c calls ih =>
    obtain ⟨hdocument, htracked⟩ := d.document_attempt c
    rw [List.foldl_cons, ih (htracked.trans hd), edits_attempt hd, hdocument, List.map_cons,
      List.append_assoc, ← List.filter_append]
    rfl

/-- **The stored edits are those of the calls**, in the order of the calls, but for those that do
not fit the snapshot and those that change nothing. -/
theorem edits_afterCalls (document : Snapshot) (calls : List EditCall) :
    (afterCalls document false calls).edits
      = (calls.map EditCall.edit).filter (isStored document.content) :=
  edits_attemptAll (d := new document false) rfl calls

/-! ## Applying and sending

What is stored is sorted by place, and there is one way to do that.  So all is said of the
arrangement: whether it can be carried out, what it writes, and which pair stands in the way.  The
two ways of carrying edits out with checks, one at a time from the last one on or in one pass, come
to the same text. -/

/-- Edits can be applied exactly if each stops before every later one starts, in whatever way they
are arranged. -/
theorem apply_iff_of_arranges {es : List OffsetEdit}
    (hsound : ∀ e ∈ d.edits, e.Sound d.document.content) (harranges : Arranges es d.edits) :
    SucceedsIff (es.Pairwise fun e f ↦ e.stop ≤ f.start) d.apply
      fun t ↦ Writes 0 d.document.content es t := by
  have hiff : ∀ gs, OffsetEdit.inOrder d.edits = .ok gs ↔
      gs = es ∧ es.Pairwise fun e f ↦ e.stop ≤ f.start :=
    fun gs ↦ harranges.inOrder_eq_ok_iff fun e he ↦ (hsound e he).le
  rw [apply, inOrder]
  cases horder : OffsetEdit.inOrder d.edits with
  | ok gs =>
    obtain ⟨rfl, hpairwise⟩ := (hiff gs).1 horder
    exact .of_ok hpairwise rfl (Writes.of_inOrder horder hsound).2
  | error pair =>
    refine .of_error (fun hpairwise ↦ ?_) rfl
    cases horder.symm.trans ((hiff es).2 ⟨rfl, hpairwise⟩)

/-- **What becomes of edits that all address the snapshot.**  The calls that are accepted have one
arrangement by range and then by call.  They can be applied exactly if none of them starts before an
earlier one stops.  The result is then that of carrying them out one at a time, from the last to the
first, and every cut on the way is between boundaries.  Otherwise the refusal names two of them that
overlap.  They cannot be sent exactly if they cannot be applied, and for the same reason. -/
theorem apply_untracked (document : Snapshot) (calls : List EditCall) :
    let d := afterCalls document false calls
    d.edits = (calls.map EditCall.edit).filter (isStored document.content) ∧
    ∃ es, Arranges es d.edits ∧ (∀ fs, Arranges fs d.edits → fs = es) ∧
      ((∃ t, d.apply = .ok t) ↔ es.Pairwise fun e f ↦ ¬ f.start < e.stop) ∧
      (∀ t, d.apply = .ok t → es.foldrM carryOut document.content = .ok t ∧
        renderChecked document.content 0 es = .ok t) ∧
      (∀ error, d.apply = .error error → ∃ e f, [e, f].Sublist es ∧ f.start < e.stop ∧
        e.Overlaps f ∧ error = .overlappingEdits ⟨e.start, e.stop⟩ ⟨f.start, f.stop⟩) ∧
      (∀ e ∈ es, document.content.CutsLine e.start ∧ document.content.CutsLine e.stop) ∧
      ∀ encoding annotationId error,
        d.toTextEdits encoding annotationId = .error error ↔ d.apply = .error error := by
  intro d
  have hdocument : d.document = document := document_afterCalls document false calls
  have hsound : ∀ e ∈ d.edits, e.Sound document.content := sound_afterCalls document false calls
  refine ⟨edits_afterCalls document calls, ?_⟩
  clear_value d
  subst hdocument
  have harranges := arranges_mergeSort d.edits
  have happly := apply_iff_of_arranges hsound harranges
  refine ⟨_, harranges, fun fs hfs ↦ hfs.eq harranges, ?_, fun t ht ↦ ?_, fun error herror ↦ ?_,
    fun e he ↦ ?_, toTextEdits_eq_error_iff hsound⟩
  · simpa only [Nat.not_lt] using happly.1
  · have hwrites := happly.2 t ht
    exact ⟨hwrites.foldrM_carryOut (p := []) rfl, hwrites.renderChecked (p := []) rfl⟩
  · obtain ⟨⟨e, f⟩, hpair, rfl⟩ := exists_of_mapError_eq_error (error_of_map_eq_error herror)
    obtain ⟨hsublist, hlt⟩ := harranges.sublist_of_inOrder_eq_error hpair
    obtain ⟨-, -, hoverlaps, -⟩ := overlaps_of_inOrder_eq_error (fun e he ↦ (hsound e he).le) hpair
    exact ⟨e, f, hsublist, hlt, hoverlaps, rfl⟩
  · have he := hsound e (harranges.agree.mem_iff.1 he)
    exact ⟨cutsLine_of_isBoundary he.start, cutsLine_of_isBoundary he.stop⟩

/-! ## The order of calls

A call stores its edit or nothing, and whether it does depends on the snapshot alone.  So two series
of calls that agree at every range store edits that agree there, and edits that agree have one
arrangement. -/

/-- **The order of calls does not matter** to an accumulator that does not track, as long as those
with one range keep theirs.  The same edits are stored, applying them gives the same text or names
the same two that overlap, and what is sent is the same in every encoding. -/
theorem apply_reordered (document : Snapshot) {calls calls' : List EditCall}
    (h : Agree (calls.map EditCall.edit) (calls'.map EditCall.edit)) :
    let d := afterCalls document false calls
    let d' := afterCalls document false calls'
    d.edits.Perm d'.edits ∧ d.apply = d'.apply ∧
      ∀ encoding annotationId,
        d.toTextEdits encoding annotationId = d'.toTextEdits encoding annotationId := by
  intro d d'
  have hdocument : d.document = d'.document :=
    (document_afterCalls document false calls).trans
      (document_afterCalls document false calls').symm
  have hagree : Agree d.edits d'.edits := by
    rw [edits_afterCalls, edits_afterCalls]
    exact h.filter _
  have horder : d.inOrder = d'.inOrder := by
    rw [inOrder, inOrder, inOrder_congr hagree]
  refine ⟨hagree.perm, ?_, fun encoding annotationId ↦ ?_⟩
  · rw [apply, apply, horder, hdocument]
  · have hsame : d.toTextEdit encoding annotationId = d'.toTextEdit encoding annotationId := by
      funext e
      rw [toTextEdit, toTextEdit, hdocument]
    rw [toTextEdits, toTextEdits, horder, hsame]

/-- A replacement asked for before two insertions where it starts, or after them.  The insertions
go in front of it either way, in their own order. -/
theorem apply_reordered_around_insertions :
    let document := Snapshot.unversioned "file:///a" ['a', 'b', 'c']
    let calls := [.replace 1 2 ['y'], .insert 1 ['x'], .insert 1 ['z']]
    let calls' := [.insert 1 ['x'], .insert 1 ['z'], .replace 1 2 ['y']]
    Agree (calls.map EditCall.edit) (calls'.map EditCall.edit) ∧
      (afterCalls document false calls).apply = .ok ['a', 'x', 'z', 'y', 'c'] := by
  intro document calls calls'
  have hagree : Agree (calls.map EditCall.edit) (calls'.map EditCall.edit) := by
    intro start stop
    by_cases hreplace : OffsetEdit.isAt start stop ⟨1, 2, ['y']⟩ = true
    · obtain ⟨rfl, rfl⟩ := isAt_iff.1 hreplace
      rfl
    · simp [calls, calls', EditCall.edit, List.filter_cons, hreplace]
  have happly : (afterCalls document false calls').apply = .ok ['a', 'x', 'z', 'y', 'c'] :=
    apply_of_writes ⟨['a'], [], ['b', 'c'], ['z', 'y', 'c'], rfl, rfl, rfl, rfl,
      [], [], ['b', 'c'], ['y', 'c'], rfl, rfl, rfl, rfl,
      [], ['b'], ['c'], ['c'], rfl, rfl, rfl, rfl, rfl⟩
  exact ⟨hagree, (apply_reordered document hagree).2.1.trans happly⟩

end DocumentEdits

end Emend
