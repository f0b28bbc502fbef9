import Emend.Proofs.Edit.Projecting
import Emend.Proofs.Result
import Emend.Proofs.Text.Endings

/-!
# Edits survive the form of the protocol

An edit by offsets becomes an edit by positions to be sent, and is looked up in the text again to be
taken in.  What comes back is the edit with its ends moved out of line endings
(`OffsetEdit.addressed`), because no position lies between the two characters of an ending.  So it
is the same edit again if positions can address its ends (`OffsetEdit.Addressable`).

* `DocumentEdits.exists_toTextEdit` is the way there and back of one edit, and
  `DocumentEdits.exists_toTextEdits` that of all stored edits.
* `DocumentEdits.toTextEdits_eq_error_iff` says that edits which can be applied can be sent, and the
  other way round.
* `Text.RewrittenBy` says of edits by positions that they turn one text into another;
  `DocumentEdits.apply_of_rewrittenBy` carries them out.

Positions are made of words.  That a text is shorter than `2 ^ 32` bytes is asked for wherever a
position has to lead back to the place that it came from, and nowhere else.
-/

set_option autoImplicit false

namespace Emend

open Text

/-- Positions can address the ends of an edit. -/
structure OffsetEdit.Addressable (t : Text) (e : OffsetEdit) : Prop where
  start : ∃ i q, At t e.start i q
  stop : ∃ i q, At t e.stop i q
  le : e.start ≤ e.stop

/-- An edit with its ends moved out of line endings, which is what its positions address. -/
def OffsetEdit.addressed (t : Text) (e : OffsetEdit) : OffsetEdit :=
  ⟨addressable t e.start, addressable t e.stop, e.text⟩

namespace OffsetEdit

variable {t : Text} {e : OffsetEdit} {es : List OffsetEdit}

theorem Sound.addressed (he : e.Sound t) : (e.addressed t).Sound t :=
  ⟨addressable_le_addressable he.le, isBoundary_addressable he.start,
    isBoundary_addressable he.stop⟩

/-- An edit stays as it is if neither of its ends is inside a line ending. -/
theorem addressed_eq_self (hstart : splitsEnding t e.start = false)
    (hstop : splitsEnding t e.stop = false) : e.addressed t = e := by
  rw [OffsetEdit.addressed, addressable_of_not_splits hstart, addressable_of_not_splits hstop]

theorem map_addressed_eq_self (h : ∀ e ∈ es, e.addressed t = e) :
    es.map (OffsetEdit.addressed t) = es :=
  (List.map_congr_left h).trans (List.map_id _)

theorem Addressable.addressed_eq_self (he : e.Addressable t) : e.addressed t = e := by
  obtain ⟨i, q, hstart⟩ := he.start
  obtain ⟨j, r, hstop⟩ := he.stop
  exact OffsetEdit.addressed_eq_self hstart.splitsEnding hstop.splitsEnding

/-- Edits that lie one behind the other still do so outside line endings. -/
theorem Writes.exists_addressed {out : Text} (h : Writes 0 t es out) :
    ∃ out', Writes 0 t (es.map (OffsetEdit.addressed t)) out' := by
  refine exists_writes (fun f hf ↦ ?_) ?_
  · obtain ⟨e, he, rfl⟩ := List.mem_map.1 hf
    exact (h.sound e he).addressed
  · exact List.pairwise_map.2 (h.pairwise.imp addressable_le_addressable)

end OffsetEdit

/-- Edits by positions turn one text into another. -/
def Text.RewrittenBy (content : Text) (encoding : PositionEncoding) (es : List TextEdit)
    (t : Text) : Prop :=
  ∃ offsets, es.mapM (DocumentEdits.offsetEditOf content encoding) = .ok offsets ∧
    OffsetEdit.Writes 0 content offsets t

namespace DocumentEdits

open OffsetEdit

variable {d : DocumentEdits} {document : Snapshot} {content t : Text} {e : OffsetEdit}
  {es : List OffsetEdit}

/-! ## There and back

A position that is made from an offset leads back to that offset or, from inside a line ending, to
where the ending starts.  For one edit this is applied to both of its ends; since a range keeps its
ends in order, nothing is swapped on the way.  For a list of edits it is one application for
each. -/

/-- The offsets of an edit whose range lies between two places. -/
theorem offsetEditOf_between {start stop i j m n : Nat} {q r : Text} {encoding : PositionEncoding}
    (hstart : Within content start i q) (hstop : Within content stop j r)
    (hsize : byteLen content < UInt32.size) (hle : start ≤ stop)
    (hm : offsetOfPosition content encoding ⟨i.toUInt32, encoding.columnOf q⟩ = .ok m)
    (hn : offsetOfPosition content encoding ⟨j.toUInt32, encoding.columnOf r⟩ = .ok n)
    (text : Text) (annotationId : Option String) :
    offsetEditOf content encoding ((TextEdit.replace
        (.between ⟨i.toUInt32, encoding.columnOf q⟩ ⟨j.toUInt32, encoding.columnOf r⟩)
        text).annotatedWith annotationId) = .ok ⟨m, n, text⟩ := by
  rw [Range.between, if_neg (hstart.not_lt hstop hle hsize encoding)]
  rw [offsetEditOf]
  show (offsetOfPosition content encoding ⟨i.toUInt32, encoding.columnOf q⟩ >>= _) = _
  rw [hm]
  show (offsetOfPosition content encoding ⟨j.toUInt32, encoding.columnOf r⟩ >>= _) = _
  rw [hn]
  rfl

/-- **An edit has a form of the protocol, and survives it** outside line endings. -/
theorem exists_toTextEdit (he : e.Sound d.document.content) (encoding : PositionEncoding)
    (annotationId : Option String) :
    ∃ f, d.toTextEdit encoding annotationId e = .ok f ∧
      (byteLen d.document.content < UInt32.size →
        offsetEditOf d.document.content encoding f = .ok (e.addressed d.document.content)) := by
  obtain ⟨i, q, hstart, hm⟩ := exists_within he.start
  obtain ⟨j, r, hstop, hn⟩ := exists_within he.stop
  refine ⟨_, ?_, fun hsize ↦ offsetEditOf_between hstart hstop hsize he.le (hm hsize encoding)
    (hn hsize encoding) e.text annotationId⟩
  rw [toTextEdit, hstart.positionOfOffset, hstop.positionOfOffset]
  rfl

/-- The edit of a whole text runs from its first offset to its last. -/
theorem offsetEditOf_whole (hsize : byteLen content < UInt32.size) (encoding : PositionEncoding)
    (text : Text) (annotationId : Option String) :
    offsetEditOf content encoding ((TextEdit.replace
        (.between .origin (content.endPosition encoding)) text).annotatedWith annotationId)
      = .ok ⟨0, byteLen content, text⟩ := by
  rw [Range.between_origin, offsetEditOf]
  show (offsetOfPosition content encoding .origin >>= _) = _
  rw [offsetOfPosition_origin hsize]
  show (offsetOfPosition content encoding (content.endPosition encoding) >>= _) = _
  rw [offsetOfPosition_endPosition hsize]
  rfl

theorem toTextEdits_of_inOrder {encoding : PositionEncoding} {annotationId : Option String}
    {fs : List TextEdit} (horder : d.inOrder = .ok es)
    (hfs : es.mapM (d.toTextEdit encoding annotationId) = .ok fs) :
    d.toTextEdits encoding annotationId = .ok fs := by
  rw [toTextEdits, horder]
  exact congrArg EditError.ofText hfs

theorem ofTextEdits_of_offsets {encoding : PositionEncoding} {fs : List TextEdit}
    (hes : fs.mapM (offsetEditOf document.content encoding) = .ok es) :
    ofTextEdits document fs encoding = (new document false).pushAll es := by
  rw [ofTextEdits, hes]
  rfl

theorem exists_mapM_toTextEdit (hes : ∀ e ∈ es, e.Sound d.document.content)
    (encoding : PositionEncoding) (annotationId : Option String) :
    ∃ fs, es.mapM (d.toTextEdit encoding annotationId) = .ok fs ∧ fs.length = es.length ∧
      (byteLen d.document.content < UInt32.size →
        fs.mapM (offsetEditOf d.document.content encoding)
          = .ok (es.map (OffsetEdit.addressed d.document.content))) := by
  induction es with
  | nil => exact ⟨[], rfl, rfl, fun _ ↦ rfl⟩
  | cons e es ih =>
    obtain ⟨he, hes⟩ := List.forall_mem_cons.1 hes
    obtain ⟨f, hf, hf'⟩ := exists_toTextEdit he encoding annotationId
    obtain ⟨fs, hfs, hlen, hfs'⟩ := ih hes
    refine ⟨f :: fs, ?_, congrArg (· + 1) hlen, fun hsize ↦ ?_⟩
    · rw [List.mapM_cons, hf, hfs]
      rfl
    · rw [List.mapM_cons, hf' hsize, hfs' hsize]
      rfl

/-- **Edits in order have a form of the protocol each, and these write what the edits do** outside
line endings. -/
theorem exists_toTextEdits (horder : d.inOrder = .ok es)
    (hwrites : Writes 0 d.document.content es t) (encoding : PositionEncoding)
    (annotationId : Option String) :
    ∃ fs, d.toTextEdits encoding annotationId = .ok fs ∧ fs.length = es.length ∧
      (byteLen d.document.content < UInt32.size → d.document.content.RewrittenBy encoding fs
        (render d.document.content (es.map (OffsetEdit.addressed d.document.content)))) := by
  obtain ⟨fs, hfs, hlen, hfs'⟩ := exists_mapM_toTextEdit hwrites.sound encoding annotationId
  obtain ⟨out, hout⟩ := hwrites.exists_addressed
  exact ⟨fs, toTextEdits_of_inOrder horder hfs, hlen,
    fun hsize ↦ ⟨_, hfs' hsize, hout.render ▸ hout⟩⟩

/-- **Edits cannot be sent exactly if they cannot be applied**, and for the same reason. -/
theorem toTextEdits_eq_error_iff (hsound : ∀ e ∈ d.edits, e.Sound d.document.content)
    (encoding : PositionEncoding) (annotationId : Option String) (error : EditError) :
    d.toTextEdits encoding annotationId = .error error ↔ d.apply = .error error := by
  cases horder : d.inOrder with
  | error e =>
    rw [toTextEdits, apply, horder]
    show Except.error e = Except.error error ↔ Except.error e = Except.error error
    rw [Except.error.injEq, Except.error.injEq]
  | ok es =>
    obtain ⟨-, hwrites⟩ := Writes.of_inOrder (eq_ok_of_mapError_eq_ok horder) hsound
    obtain ⟨fs, hfs, -⟩ := exists_toTextEdits horder hwrites encoding annotationId
    rw [hfs, apply, horder]
    constructor <;> intro h <;> cases h

/-- Stored edits that positions can address write their text in the form of the protocol too. -/
theorem exists_toTextEdits_of_addressable (hwrites : Writes 0 d.document.content d.edits t)
    (hes : ∀ e ∈ d.edits, e.Addressable d.document.content) (encoding : PositionEncoding)
    (annotationId : Option String) :
    ∃ fs, d.toTextEdits encoding annotationId = .ok fs ∧ fs.length = d.edits.length ∧
      (byteLen d.document.content < UInt32.size →
        d.document.content.RewrittenBy encoding fs t) := by
  have hsame : d.edits.map (OffsetEdit.addressed d.document.content) = d.edits :=
    map_addressed_eq_self fun e he ↦ (hes e he).addressed_eq_self
  have h := exists_toTextEdits (inOrder_of_writes hwrites) hwrites encoding annotationId
  rwa [hsame, hwrites.render] at h

/-- **Edits by positions that turn the document into a text are taken in, and applied to give that
text.** -/
theorem apply_of_rewrittenBy {encoding : PositionEncoding} {fs : List TextEdit}
    (h : document.content.RewrittenBy encoding fs t) :
    ∃ d, ofTextEdits document fs encoding = .ok d ∧ d.apply = .ok t := by
  obtain ⟨es, hes, hwrites⟩ := h
  obtain ⟨d, hd, -, -, happly⟩ := pushAll_of_writes hwrites
  exact ⟨d, (ofTextEdits_of_offsets hes).trans hd, happly⟩

end DocumentEdits

/-! ## Three ways to put a change

Whatever is emitted for a document has one of three forms: edits of lines, one edit of all there is,
or an insertion into an empty text.  The first is `exists_toTextEdits_of_addressable`; the others
are here. -/

namespace Text.RewrittenBy

variable {content t : Text}

/-- No edits. -/
theorem nil (content : Text) (encoding : PositionEncoding) :
    content.RewrittenBy encoding [] content :=
  ⟨[], rfl, rfl⟩

/-- One edit. -/
theorem singleton {encoding : PositionEncoding} {f : TextEdit} {e : OffsetEdit}
    (hf : DocumentEdits.offsetEditOf content encoding f = .ok e)
    (hwrites : OffsetEdit.Writes 0 content [e] t) : content.RewrittenBy encoding [f] t := by
  refine ⟨[e], ?_, hwrites⟩
  rw [List.mapM_cons, hf]
  rfl

/-- One edit that replaces everything. -/
theorem whole (hsize : byteLen content < UInt32.size) (encoding : PositionEncoding) (t : Text)
    (annotationId : Option String) :
    content.RewrittenBy encoding [(TextEdit.replace
      (.between .origin (content.endPosition encoding)) t).annotatedWith annotationId] t := by
  refine singleton (DocumentEdits.offsetEditOf_whole hsize encoding t annotationId) ?_
  exact ⟨[], content, [], [], by simp, by simp, rfl, by simp, rfl⟩

/-- One edit that fills an empty text. -/
theorem fill (encoding : PositionEncoding) (t : Text) (annotationId : Option String) :
    RewrittenBy [] encoding [(TextEdit.insert .origin t).annotatedWith annotationId] t := by
  have horigin : Position.origin = Text.endPosition [] encoding := by cases encoding <;> rfl
  have hpoint : Range.point .origin = .between .origin (Text.endPosition [] encoding) := by
    rw [← horigin]
    rfl
  rw [TextEdit.insert, hpoint]
  exact whole (by simp) encoding t annotationId

end Text.RewrittenBy

end Emend
