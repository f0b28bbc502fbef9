import Emend.Proofs.Edit.Untracked

/-!
# Sent edits rebuild the accumulator

The form of the protocol keeps all that an accumulator stores.  Taken in again over the same
document, the edits are the stored ones once more, arranged by place
(`DocumentEdits.ofTextEdits_rebuilds`), as long as no two of them overlap and no line ending is cut.
If one is, the edits come back with their ends moved out of it (`DocumentEdits.exists_rebuilt`).

The accumulator that comes back is one without tracking, whichever mode the edits were collected in.
It holds the same edits because a tracked store is in order already and all of its edits address the
snapshot, and because nothing that changes the document stops doing so on the way.
-/

set_option autoImplicit false

namespace Emend

open Text

namespace DocumentEdits

open OffsetEdit

variable {d : DocumentEdits} {es : List OffsetEdit}

/-- Whatever calls are made, each collected edit changes something. -/
theorem effective_afterCalls (document : Snapshot) (tracked : Bool) (calls : List EditCall) :
    ∀ e ∈ (afterCalls document tracked calls).edits, e.isNoop = false := by
  cases tracked with
  | true => exact (follows_session document calls).store.effective
  | false =>
    intro e he
    rw [edits_afterCalls, List.mem_filter, isStored, Bool.and_eq_true] at he
    simpa using he.2.2

/-- What is taken in again of edits that were sent: each with its ends moved out of line endings,
unless it changes nothing then. -/
theorem exists_rebuilt (horder : d.inOrder = .ok es) (hes : ∀ e ∈ es, e.Sound d.document.content)
    (hsize : byteLen d.document.content < UInt32.size) (encoding : PositionEncoding)
    (annotationId : Option String) :
    ∃ fs, d.toTextEdits encoding annotationId = .ok fs ∧
      ofTextEdits d.document fs encoding = .ok { new d.document false with
        edits := (es.map (addressed d.document.content)).filter fun e ↦ !e.isNoop } := by
  obtain ⟨fs, hfs, -, hoffsets⟩ := exists_mapM_toTextEdit hes encoding annotationId
  have hsound : ∀ e ∈ es.map (addressed d.document.content), e.Sound d.document.content := by
    intro f hf
    obtain ⟨e, he, rfl⟩ := List.mem_map.1 hf
    exact (hes e he).addressed
  exact ⟨fs, toTextEdits_of_inOrder horder hfs, (ofTextEdits_of_offsets (hoffsets hsize)).trans
    (pushAll_untracked (d := new d.document false) rfl hsound)⟩

/-- **Sent edits rebuild the accumulator.**  If no two stored edits overlap and none has an end
inside a line ending, then they can be sent, and what is taken in again over the same document are
the stored edits in the one order by place in which those at the same place stay as they were. -/
theorem ofTextEdits_rebuilds (document : Snapshot) (tracked : Bool) (calls : List EditCall)
    (encoding : PositionEncoding) (annotationId : Option String)
    (hsize : byteLen document.content < UInt32.size)
    (hapart : (afterCalls document tracked calls).edits.Pairwise fun e f ↦ ¬ e.Overlaps f)
    (hends : ∀ e ∈ (afterCalls document tracked calls).edits,
      splitsEnding document.content e.start = false ∧
      splitsEnding document.content e.stop = false) :
    ∃ fs es, (afterCalls document tracked calls).toTextEdits encoding annotationId = .ok fs ∧
      ofTextEdits document fs encoding = .ok { new document false with edits := es } ∧
      Arranges es (afterCalls document tracked calls).edits ∧
      ∀ gs, Arranges gs (afterCalls document tracked calls).edits → gs = es := by
  have hdocument := document_afterCalls document tracked calls
  have hsound := sound_afterCalls document tracked calls
  have heffective := effective_afterCalls document tracked calls
  generalize afterCalls document tracked calls = d at *
  subst hdocument
  have hle : ∀ e ∈ d.edits, e.start ≤ e.stop := fun e he ↦ (hsound e he).le
  have harranges := arranges_mergeSort d.edits
  generalize d.edits.mergeSort precedes = es at harranges
  have hmem : ∀ e, e ∈ es ↔ e ∈ d.edits := fun e ↦ harranges.agree.mem_iff
  have horder : d.inOrder = .ok es := by
    obtain ⟨gs, hgs⟩ := (exists_inOrder_iff hle).2 hapart
    obtain ⟨rfl, -⟩ := (harranges.inOrder_eq_ok_iff hle).1 hgs
    exact congrArg (Except.mapError _) hgs
  have hsame : es.map (addressed d.document.content) = es :=
    map_addressed_eq_self fun e he ↦
      let ⟨hstart, hstop⟩ := hends e ((hmem e).1 he)
      addressed_eq_self hstart hstop
  have hall : (es.filter fun e ↦ !e.isNoop) = es :=
    List.filter_eq_self.2 fun e he ↦ by simp [heffective e ((hmem e).1 he)]
  obtain ⟨fs, hfs, hd⟩ :=
    exists_rebuilt horder (fun e he ↦ hsound e ((hmem e).1 he)) hsize encoding annotationId
  rw [hsame, hall] at hd
  exact ⟨fs, es, hfs, hd, harranges, fun gs hgs ↦ hgs.eq harranges⟩

/-- Two insertions in front of a line ending that is replaced, and a deletion asked for last. -/
theorem ofTextEdits_rebuilds_around_ending :
    let document := Snapshot.unversioned "file:///a" ['a', '😀', '\r', '\n', 'b']
    let calls := [.replace 5 7 ['\n'], .insert 5 ['x'], .insert 5 ['y'], .delete 1 5]
    ∃ fs, (afterCalls document false calls).toTextEdits .utf16 (some "id") = .ok fs ∧
      ofTextEdits document fs .utf16 = .ok { new document false with
        edits := [⟨1, 5, []⟩, ⟨5, 5, ['x']⟩, ⟨5, 5, ['y']⟩, ⟨5, 7, ['\n']⟩] } := by
  intro document calls
  obtain ⟨fs, es, hfs, hd, -, hunique⟩ := ofTextEdits_rebuilds document false calls .utf16
    (some "id") (by decide) (by decide) (by decide)
  have harranges : Arranges [⟨1, 5, []⟩, ⟨5, 5, ['x']⟩, ⟨5, 5, ['y']⟩, ⟨5, 7, ['\n']⟩]
      (afterCalls document false calls).edits := by
    have hedits : (afterCalls document false calls).edits = calls.map EditCall.edit := by decide
    rw [hedits]
    constructor
    · decide
    · intro start stop
      simp only [calls, List.map_cons, List.map_nil, EditCall.edit, isAt, List.filter_cons,
        List.filter_nil]
      grind
  exact ⟨fs, hfs, hunique _ harranges ▸ hd⟩

end DocumentEdits

end Emend
