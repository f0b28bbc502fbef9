import Emend.Edit.Error
import Emend.Edit.Tracking
import Emend.Workspace.Snapshot

/-!
# Accumulated edits of one document

A `DocumentEdits` collects edits of one snapshot.  In *tracked* mode each edit addresses the
document as it looks after all edits before it; otherwise all edits address the snapshot.  The
stored edits address the snapshot in both modes.

* `DocumentEdits.replaceStep` takes in one more edit; `insertStep`, `deleteStep` and `pushStep` are
  forms of it.  `DocumentEdits.replace` and its like are the accumulators that they lead to.
* `DocumentEdits.apply` writes the edited text.
* `DocumentEdits.toTextEdits` gives the edits in the form of the protocol, and
  `DocumentEdits.ofTextEdits` takes them back from there.

An edit that is refused leaves the collection as it was (`DocumentEdits.atomic_replaceStep`).

The two modes look alike from outside and do their work at different times.  A tracked accumulator
sorts and merges as it goes, so edits that contradict one another cannot arise, and writing the text
always succeeds.  The other one stores what it is given, in the order of the calls, and finds out
that two edits overlap only when they are written out.
-/

set_option autoImplicit false

namespace Emend

/-- Edits of one document. -/
structure DocumentEdits where
  document : Snapshot
  tracked : Bool
  edits : List OffsetEdit
  /-- The length of the edited text, kept in tracked mode only. -/
  currentLen : Nat
  deriving DecidableEq, Repr

namespace DocumentEdits

/-- No edits of a document yet. -/
def new (document : Snapshot) (tracked : Bool) : DocumentEdits :=
  ⟨document, tracked, [], document.content.byteLen⟩

/-- The number of stored edits. -/
def size (d : DocumentEdits) : Nat := d.edits.length

/-- Whether no edits are stored. -/
def isEmpty (d : DocumentEdits) : Bool := d.edits.isEmpty

/-! ## Taking edits in

An edit is taken in by a step on the accumulator.  The checks are made in their order, and the
accumulator is written behind them; what it looks like after an edit that is refused is said by the
step too (`atomic_replaceStep`). -/

/-- Takes in an edit of the text as edited so far. -/
def replaceTrackedStep (start stop : Nat) (text : Text) : Step TextError DocumentEdits Unit := do
  let d ← get
  if d.currentLen < stop then throw (.offsetOutOfRange stop d.currentLen)
  else if start = stop ∧ text = [] then return
  else do
    Step.onPart edits (fun d es ↦ { d with edits := es })
      (OffsetEdit.rebaseStep d.document.content start stop text)
    modify fun d ↦ { d with currentLen := d.currentLen - (stop - start) + text.byteLen }

/-- Takes in an edit of the snapshot. -/
def replaceUntrackedStep (start stop : Nat) (text : Text) : Step TextError DocumentEdits Unit := do
  let d ← get
  Step.check (d.document.content.checkOffset start)
  Step.check (d.document.content.checkOffset stop)
  if start = stop ∧ text = [] then return
  else modify fun d ↦ { d with edits := d.edits ++ [⟨start, stop, text⟩] }

/-- Replaces the text between two offsets. -/
def replaceStep (start stop : Nat) (text : Text) : Step EditError DocumentEdits Unit :=
  EStateM.adaptExcept .outOfRange <|
    if stop < start then throw (.invertedRange start stop)
    else do
      let d ← get
      if d.tracked then replaceTrackedStep start stop text
      else replaceUntrackedStep start stop text

/-- Inserts text at an offset. -/
def insertStep (offset : Nat) (text : Text) : Step EditError DocumentEdits Unit :=
  replaceStep offset offset text

/-- Deletes the text between two offsets. -/
def deleteStep (start stop : Nat) : Step EditError DocumentEdits Unit := replaceStep start stop []

/-- Takes in an edit. -/
def pushStep (e : OffsetEdit) : Step EditError DocumentEdits Unit :=
  replaceStep e.start e.stop e.text

theorem atomic_replaceTrackedStep (start stop : Nat) (text : Text) :
    (replaceTrackedStep start stop text).Atomic := by
  refine .after_get fun d ↦ ?_
  split
  · exact .throw _
  · split
    · exact .of_run fun d ↦ ⟨_, _, rfl⟩
    · -- the length is written last, when the store has taken the edit in
      have hstore : (Step.onPart edits (fun d es ↦ { d with edits := es })
          (OffsetEdit.rebaseStep d.document.content start stop text)).Atomic :=
        (OffsetEdit.atomic_rebaseStep _ start stop text).onPart fun _ ↦ rfl
      exact hstore.before_writing fun _ d ↦ ⟨_, _, rfl⟩

theorem atomic_replaceUntrackedStep (start stop : Nat) (text : Text) :
    (replaceUntrackedStep start stop text).Atomic := by
  refine .after_get fun d ↦ .after_check _ fun _ ↦ .after_check _ fun _ ↦ .of_run fun d' ↦ ?_
  split
  · exact ⟨_, _, rfl⟩
  · exact ⟨_, _, rfl⟩

/-- **An edit that is refused leaves the accumulator as it was.** -/
theorem atomic_replaceStep (start stop : Nat) (text : Text) :
    (replaceStep start stop text).Atomic := by
  refine .adaptExcept ?_ _
  split
  · exact .throw _
  · refine .after_get fun d ↦ ?_
    split
    · exact atomic_replaceTrackedStep start stop text
    · exact atomic_replaceUntrackedStep start stop text

/-! ## What edits lead to -/

/-- The accumulator with an edit of the text as edited so far. -/
def replaceTracked (d : DocumentEdits) (start stop : Nat) (text : Text) :
    Except TextError DocumentEdits := (replaceTrackedStep start stop text).result d

/-- The accumulator with an edit of the snapshot. -/
def replaceUntracked (d : DocumentEdits) (start stop : Nat) (text : Text) :
    Except TextError DocumentEdits := (replaceUntrackedStep start stop text).result d

/-- The accumulator with the text between two offsets replaced. -/
def replace (d : DocumentEdits) (start stop : Nat) (text : Text) :
    Except EditError DocumentEdits := (replaceStep start stop text).result d

/-- The accumulator with text inserted at an offset. -/
def insert (d : DocumentEdits) (offset : Nat) (text : Text) : Except EditError DocumentEdits :=
  (insertStep offset text).result d

/-- The accumulator with the text between two offsets deleted. -/
def delete (d : DocumentEdits) (start stop : Nat) : Except EditError DocumentEdits :=
  (deleteStep start stop).result d

/-- The accumulator with one more edit. -/
def push (d : DocumentEdits) (e : OffsetEdit) : Except EditError DocumentEdits :=
  (pushStep e).result d

theorem replaceTracked_eq (d : DocumentEdits) (start stop : Nat) (text : Text) :
    d.replaceTracked start stop text =
      if d.currentLen < stop then .error (.offsetOutOfRange stop d.currentLen)
      else if start = stop ∧ text = [] then .ok d
      else do
        let edits ← OffsetEdit.rebase d.document.content d.edits start stop text
        return { d with edits, currentLen := d.currentLen - (stop - start) + text.byteLen } := by
  rw [replaceTracked, replaceTrackedStep, Step.result_get_bind]
  split
  · rfl
  · split
    · rfl
    · rw [Step.result_onPart_bind]
      rfl

theorem replaceUntracked_eq (d : DocumentEdits) (start stop : Nat) (text : Text) :
    d.replaceUntracked start stop text = do
      d.document.content.checkOffset start
      d.document.content.checkOffset stop
      if start = stop ∧ text = [] then return d
      else return { d with edits := d.edits ++ [⟨start, stop, text⟩] } := by
  rw [replaceUntracked, replaceUntrackedStep, Step.result_get_bind]
  simp only [Step.result_check_bind]
  split <;> rfl

theorem replace_eq (d : DocumentEdits) (start stop : Nat) (text : Text) :
    d.replace start stop text = EditError.ofText
      (if stop < start then .error (.invertedRange start stop)
      else if d.tracked then d.replaceTracked start stop text
      else d.replaceUntracked start stop text) := by
  rw [replace, replaceStep, Step.result_adaptExcept, EditError.ofText]
  congr 1
  split
  · rfl
  · rw [Step.result_get_bind]
    split <;> rfl

theorem push_eq (d : DocumentEdits) (e : OffsetEdit) : d.push e = d.replace e.start e.stop e.text :=
  rfl

/-- Takes in edits one after the other. -/
def pushAll (d : DocumentEdits) (es : List OffsetEdit) : Except EditError DocumentEdits :=
  es.foldlM push d

/-! ## Writing edits out -/

/-- The stored edits in the order of their places. -/
def inOrder (d : DocumentEdits) : Except EditError (List OffsetEdit) :=
  (OffsetEdit.inOrder d.edits).mapError fun (e, f) ↦
    .overlappingEdits ⟨e.start, e.stop⟩ ⟨f.start, f.stop⟩

/-- The edited text. -/
def apply (d : DocumentEdits) : Except EditError Text :=
  d.inOrder.map (OffsetEdit.render d.document.content)

/-- An edit of the snapshot in the form of the protocol. -/
def toTextEdit (d : DocumentEdits) (encoding : PositionEncoding) (annotationId : Option String)
    (e : OffsetEdit) : Except TextError TextEdit := do
  let start ← d.document.content.positionOfOffset encoding e.start
  let stop ← d.document.content.positionOfOffset encoding e.stop
  return (TextEdit.replace (.between start stop) e.text).annotatedWith annotationId

/-- The stored edits in the form of the protocol, in the order of their places. -/
def toTextEdits (d : DocumentEdits) (encoding : PositionEncoding) (annotationId : Option String) :
    Except EditError (List TextEdit) := do
  let es ← d.inOrder
  EditError.ofText (es.mapM (d.toTextEdit encoding annotationId))

/-! ## Taking protocol edits in -/

/-- An edit of the protocol by the offsets that its range has in a text. -/
def offsetEditOf (content : Text) (encoding : PositionEncoding) (e : TextEdit) :
    Except TextError OffsetEdit := do
  let start ← content.offsetOfPosition encoding e.range.start
  let stop ← content.offsetOfPosition encoding e.range.stop
  return ⟨start, stop, e.newText⟩

/-- Collects edits of the protocol, which address a document.  All ranges are looked up before the
first edit is taken in. -/
def ofTextEdits (document : Snapshot) (es : List TextEdit) (encoding : PositionEncoding) :
    Except EditError DocumentEdits := do
  let offsets ← EditError.ofText (es.mapM (offsetEditOf document.content encoding))
  (new document false).pushAll offsets

/-- The edits that a workspace edit has for a document. -/
def forDocument (w : WorkspaceEdit) (document : Snapshot) (encoding : PositionEncoding) :
    Except EditError DocumentEdits :=
  ofTextEdits document (w.textEditsFor document.uri) encoding

end DocumentEdits

end Emend
