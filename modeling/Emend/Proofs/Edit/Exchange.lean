import Emend.Proofs.Edit.Protocol
import Emend.Proofs.Edit.Session
import Emend.Proofs.Result

/-!
# What the other side makes of an accumulator

An accumulator is applied here, and sent to the other side by positions.  Both sides then hold one
text, but for edits that start or stop inside a line ending: no position can address such a place,
and the other side carries them out in front of the ending.

* `DocumentEdits.afterCalls` is an accumulator after a series of calls, in either mode.
* `DocumentEdits.document_afterCalls` says that calls leave the snapshot alone, and
  `DocumentEdits.sound_afterCalls` that all collected edits fit it.
* `DocumentEdits.ofTextEdits_toTextEdits` says what the other side gets.

The lemmas on calls go over both modes.  A tracked accumulator is known from its sessions already;
what is new here is the other mode, in which a call stores its edit as it is
(`DocumentEdits.push_untracked_iff`).
-/

set_option autoImplicit false

namespace Emend

open Text

namespace DocumentEdits

variable {d d' : DocumentEdits} {c : EditCall}

/-- The accumulator after a series of calls.  A refused call leaves it as it was. -/
def afterCalls (document : Snapshot) (tracked : Bool) (calls : List EditCall) : DocumentEdits :=
  calls.foldl attempt (new document tracked)

theorem session_eq (document : Snapshot) (calls : List EditCall) :
    session document calls = afterCalls document true calls := rfl

/-! ## Calls in either mode -/

/-- A tracked edit changes nothing but the store. -/
theorem document_of_replaceTracked {start stop : Nat} {text : Text}
    (h : d.replaceTracked start stop text = .ok d') :
    d'.document = d.document ∧ d'.tracked = d.tracked := by
  rw [replaceTracked_eq] at h
  split at h
  · cases h
  · split at h
    · cases h
      exact ⟨rfl, rfl⟩
    · obtain ⟨es, -, hes⟩ := exists_of_bind_eq_ok h
      cases hes
      exact ⟨rfl, rfl⟩

theorem sound_of_push {e : OffsetEdit} (hd : d.tracked = false) (h : d.push e = .ok d') :
    e.Sound d.document.content := by
  rw [push_eq, replace_eq] at h
  have htext := eq_ok_of_mapError_eq_ok h
  rw [if_neg (by simp [hd] : ¬ d.tracked = true), replaceUntracked_eq] at htext
  split at htext
  · cases htext
  · next hle =>
    obtain ⟨_, hstart, hrest⟩ := exists_of_bind_eq_ok htext
    obtain ⟨_, hstop, -⟩ := exists_of_bind_eq_ok hrest
    exact ⟨Nat.le_of_not_lt hle, checkOffset_eq_ok_iff.1 hstart, checkOffset_eq_ok_iff.1 hstop⟩

/-- An edit of the snapshot is accepted exactly if it runs forwards between two boundaries. -/
theorem push_untracked_iff (hd : d.tracked = false) (e : OffsetEdit) :
    SucceedsIff (e.Sound d.document.content) (d.push e)
      fun d' ↦ d' = { d with edits := d.edits ++ [e].filter fun e ↦ !e.isNoop } := by
  refine ⟨⟨fun ⟨d', h⟩ ↦ sound_of_push hd h, fun he ↦ ⟨_, push_untracked hd he⟩⟩, fun d' h ↦ ?_⟩
  exact Except.ok.inj (h.symm.trans (push_untracked hd (sound_of_push hd h)))

theorem document_of_perform (h : c.perform d = .ok d') :
    d'.document = d.document ∧ d'.tracked = d.tracked := by
  rw [c.perform_eq] at h
  cases hd : d.tracked with
  | true =>
    rw [replace_eq] at h
    have htext := eq_ok_of_mapError_eq_ok h
    rw [hd, if_pos rfl] at htext
    split at htext
    · cases htext
    · rw [← hd]
      exact document_of_replaceTracked htext
  | false =>
    obtain rfl := (push_untracked_iff hd c.edit).2 d' h
    exact ⟨rfl, hd⟩

theorem document_attempt (d : DocumentEdits) (c : EditCall) :
    (d.attempt c).document = d.document ∧ (d.attempt c).tracked = d.tracked := by
  rw [attempt_eq]
  cases h : c.perform d with
  | ok d' => exact document_of_perform h
  | error e => exact ⟨rfl, rfl⟩

/-- Calls leave the snapshot that edits are collected over as it is, and the mode. -/
theorem document_attemptAll (d : DocumentEdits) (calls : List EditCall) :
    (calls.foldl attempt d).document = d.document ∧
      (calls.foldl attempt d).tracked = d.tracked := by
  induction calls generalizing d with
  | nil => exact ⟨rfl, rfl⟩
  | cons c calls ih =>
    obtain ⟨hdocument, htracked⟩ := d.document_attempt c
    rw [List.foldl_cons, ← hdocument, ← htracked]
    exact ih (d.attempt c)

theorem document_afterCalls (document : Snapshot) (tracked : Bool) (calls : List EditCall) :
    (afterCalls document tracked calls).document = document :=
  ((new document tracked).document_attemptAll calls).1

theorem document_of_pushAll {es : List OffsetEdit} (h : d.pushAll es = .ok d') :
    d'.document = d.document := by
  induction es generalizing d with
  | nil =>
    cases h
    rfl
  | cons e es ih =>
    rw [pushAll, List.foldlM_cons] at h
    obtain ⟨d'', he, hes⟩ := exists_of_bind_eq_ok h
    exact (ih hes).trans (document_of_perform (c := .push e) he).1

/-- Edits of the protocol are collected over the snapshot that they are taken in for. -/
theorem document_of_ofTextEdits {document : Snapshot} {fs : List TextEdit}
    {encoding : PositionEncoding} (h : ofTextEdits document fs encoding = .ok d) :
    d.document = document := by
  obtain ⟨es, -, hes⟩ := exists_of_bind_eq_ok h
  exact document_of_pushAll hes

/-! ## Collected edits fit the snapshot

In tracked mode this is part of what the store keeps true.  Otherwise it is what each call checks of
its edit before it is stored, and an induction on the calls collects these checks. -/

theorem sound_attempt (hd : d.tracked = false) (h : ∀ e ∈ d.edits, e.Sound d.document.content)
    (c : EditCall) : ∀ e ∈ (d.attempt c).edits, e.Sound d.document.content := by
  rw [attempt_eq]
  cases hc : c.perform d with
  | ok d' =>
    rw [c.perform_eq] at hc
    have hpush := push_untracked_iff hd c.edit
    obtain rfl := hpush.2 d' hc
    refine List.forall_mem_append.2 ⟨h, fun e he ↦ ?_⟩
    obtain rfl := List.mem_singleton.1 (List.mem_filter.1 he).1
    exact hpush.1.1 ⟨_, hc⟩
  | error e => exact h

theorem sound_attemptAll (hd : d.tracked = false) (h : ∀ e ∈ d.edits, e.Sound d.document.content)
    (calls : List EditCall) :
    ∀ e ∈ (calls.foldl attempt d).edits, e.Sound d.document.content := by
  induction calls generalizing d with
  | nil => exact h
  | cons c calls ih =>
    obtain ⟨hdocument, htracked⟩ := d.document_attempt c
    have hstep := sound_attempt hd h c
    rw [← hdocument] at hstep ⊢
    exact ih (htracked.trans hd) hstep

/-- **Whatever calls are made, the collected edits run forwards between boundaries of the
snapshot.** -/
theorem sound_afterCalls (document : Snapshot) (tracked : Bool) (calls : List EditCall) :
    ∀ e ∈ (afterCalls document tracked calls).edits, e.Sound document.content := by
  cases tracked with
  | true =>
    have h := (follows_session document calls).store.writes.sound
    rwa [session_eq, document_afterCalls] at h
  | false => exact sound_attemptAll (d := new document false) rfl (List.forall_mem_nil _) calls

/-! ## Here and there

The edits that are sent are those that are applied here, in the same order.  The other side gets
each of them with its ends moved out of line endings.  Moving the ends keeps the edits one behind
the other, so the other side can apply them whenever this one can. -/

/-- An accumulator that can be applied has its edits in an order in which they write the text. -/
theorem exists_inOrder_of_apply {t : Text} (hsound : ∀ e ∈ d.edits, e.Sound d.document.content)
    (h : d.apply = .ok t) :
    ∃ es, d.inOrder = .ok es ∧ es.Perm d.edits ∧ OffsetEdit.Writes 0 d.document.content es t := by
  obtain ⟨es, horder, rfl⟩ := map_eq_ok_iff.1 h
  exact ⟨es, horder, OffsetEdit.Writes.of_inOrder (eq_ok_of_mapError_eq_ok horder) hsound⟩

/-- **What the other side makes of collected edits.**  If they can be applied here, then they can be
sent, taken in over the same content, and applied there.  The other side carries out the edits with
their ends moved out of line endings, so it gets the same text if no edit has an end there. -/
theorem ofTextEdits_toTextEdits (document : Snapshot) (tracked : Bool) (calls : List EditCall)
    (encoding : PositionEncoding) (annotationId : Option String) (client : Snapshot) {t : Text}
    (hsize : byteLen document.content < UInt32.size)
    (happly : (afterCalls document tracked calls).apply = .ok t)
    (hclient : client.content = document.content) :
    ∃ es fs d, (afterCalls document tracked calls).inOrder = .ok es ∧
      (afterCalls document tracked calls).toTextEdits encoding annotationId = .ok fs ∧
      ofTextEdits client fs encoding = .ok d ∧
      d.apply = .ok (OffsetEdit.render document.content
        (es.map (OffsetEdit.addressed document.content))) ∧
      ((∀ e ∈ (afterCalls document tracked calls).edits,
          splitsEnding document.content e.start = false ∧
          splitsEnding document.content e.stop = false) → d.apply = .ok t) := by
  have hdocument := document_afterCalls document tracked calls
  have hsound := sound_afterCalls document tracked calls
  generalize afterCalls document tracked calls = sent at *
  subst hdocument
  obtain ⟨es, horder, hperm, hwrites⟩ := exists_inOrder_of_apply hsound happly
  obtain ⟨fs, hfs, -, hrewritten⟩ := exists_toTextEdits horder hwrites encoding annotationId
  rw [← hclient] at hsize hrewritten
  obtain ⟨d, hd, happly⟩ := apply_of_rewrittenBy (hrewritten hsize)
  rw [hclient] at happly
  refine ⟨es, fs, d, horder, hfs, hd, happly, fun hends ↦ ?_⟩
  have hsame : es.map (OffsetEdit.addressed sent.document.content) = es := by
    refine (List.map_congr_left fun e he ↦ ?_).trans (List.map_id _)
    obtain ⟨hstart, hstop⟩ := hends e (hperm.mem_iff.1 he)
    exact OffsetEdit.addressed_eq_self hstart hstop
  rw [happly, hsame, hwrites.render]

/-- Edits in front of a line ending of two characters, and behind it. -/
theorem ofTextEdits_toTextEdits_around_ending :
    let document := Snapshot.unversioned "file:///a" ['a', '\r', '\n', 'b']
    let sent := afterCalls document true [.insert 1 ['x'], .replace 4 5 ['é']]
    ∃ fs d, sent.toTextEdits .utf16 none = .ok fs ∧ ofTextEdits document fs .utf16 = .ok d ∧
      d.apply = .ok ['a', 'x', '\r', '\n', 'é'] := by
  intro document sent
  have happly : sent.apply = .ok ['a', 'x', '\r', '\n', 'é'] := apply_session document _
  obtain ⟨es, fs, d, -, hfs, hd, -, h⟩ := ofTextEdits_toTextEdits document true
    [.insert 1 ['x'], .replace 4 5 ['é']] .utf16 none document (by decide) happly rfl
  exact ⟨fs, d, hfs, hd, h (by decide)⟩

/-- An insertion between the two characters of a line ending goes in front of them on the other
side, so the two sides hold different texts. -/
theorem ofTextEdits_toTextEdits_inside_ending :
    let document := Snapshot.unversioned "file:///a" ['a', '\r', '\n', 'b']
    let sent := afterCalls document false [.insert 2 ['x']]
    ∃ fs d, sent.toTextEdits .utf8 none = .ok fs ∧ ofTextEdits document fs .utf8 = .ok d ∧
      sent.apply = .ok ['a', '\r', 'x', '\n', 'b'] ∧ d.apply = .ok ['a', 'x', '\r', '\n', 'b'] := by
  intro document sent
  have hsent : OffsetEdit.Writes 0 document.content sent.edits ['a', '\r', 'x', '\n', 'b'] :=
    ⟨['a', '\r'], [], ['\n', 'b'], ['\n', 'b'], rfl, rfl, rfl, rfl, rfl⟩
  refine ⟨[⟨.point ⟨0, 2⟩, ['x'], none⟩], ⟨document, false, [⟨1, 1, ['x']⟩], 4⟩, ?_, rfl,
    apply_of_writes hsent, apply_of_writes ?_⟩
  · rw [toTextEdits, inOrder_of_writes hsent]
    rfl
  · exact ⟨['a'], [], ['\r', '\n', 'b'], ['\r', '\n', 'b'], rfl, rfl, rfl, rfl, rfl⟩

end DocumentEdits

end Emend
