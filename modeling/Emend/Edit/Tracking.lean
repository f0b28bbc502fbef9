import Emend.Edit.Basic
import Emend.Step

/-!
# Tracked edits

Edits can be collected while they are made: each one addresses the text as it looks after all the
edits before it.  The collection itself addresses the base text, and stays in order, with a gap
between any two edits.  `rebase` brings one more edit into it.

Where no collected edit lies, the base text and the edited text differ by a shift.  An `Anchor`
holds one place in both; walking along the collected edits moves it from one shift to the next.  The
edits that end before the new one starts stay as they are, and so do those that start behind its
end.  Those in between, which touch it, become one edit with the new one.

* `Anchor.walkWhile` finds the three parts of the collection.  It is called twice, with the
  condition that an edit ends too early and with the condition that it does not start too late.
* `OffsetEdit.merge` makes the one edit.  What it replaces runs from the start of the new edit or of
  the first touched one, whichever comes first, and to the later of the two ends; its text is the
  part of the edited text that stands there, with the new edit carried out on it.
* `OffsetEdit.rebaseStep` is the step on the collection, and `OffsetEdit.rebase` the collection that
  it leads to.

The edited text itself is never written.  A merge renders the part of it that the touched edits are
about, and checks the offsets of the new edit there.
-/

set_option autoImplicit false

namespace Emend

/-- One place, as an offset of the base text and as an offset of the edited one. -/
structure Anchor where
  base : Nat
  current : Nat
  deriving DecidableEq, Repr

namespace Anchor

/-- The start of both texts. -/
def origin : Anchor := ⟨0, 0⟩

/-- Where an edit behind the anchor starts in the edited text. -/
def startOf (a : Anchor) (e : OffsetEdit) : Nat := a.current + (e.start - a.base)

/-- The place where an edit behind the anchor ends. -/
def past (a : Anchor) (e : OffsetEdit) : Anchor := ⟨e.stop, a.startOf e + e.text.byteLen⟩

/-- The offset of the base text for an offset of the edited one, where no edit lies between
it and the anchor. -/
def toBase (a : Anchor) (offset : Nat) : Nat := a.base + (offset - a.current)

/-- Walks along edits as long as a condition holds of the anchor and the edit: the edits passed,
the anchor behind them, and the edits left. -/
def walkWhile (p : Anchor → OffsetEdit → Bool) (a : Anchor) :
    List OffsetEdit → List OffsetEdit × Anchor × List OffsetEdit
  | [] => ([], a, [])
  | e :: es =>
    if p a e then
      let (passed, b, left) := walkWhile p (a.past e) es
      (e :: passed, b, left)
    else ([], a, e :: es)

end Anchor

namespace OffsetEdit

/-- The edit that replaces the part of the edited text from `start` to `stop`, where the edits
`touched` lie between the anchors `before` and `after` and touch that part: it makes these edits and
the new one at once. -/
def merge (content : Text) (before after : Anchor) (head : OffsetEdit) (touched : List OffsetEdit)
    (start stop : Nat) (text : Text) : Except TextError OffsetEdit := do
  let headStart := before.startOf head
  let (baseStart, regionStart) :=
    if start < headStart then (before.toBase start, start) else (head.start, headStart)
  let baseStop := if after.current < stop then after.toBase stop else after.base
  content.checkOffset baseStart
  content.checkOffset baseStop
  let region := renderBetween content baseStart baseStop (head :: touched)
  let localStart := start - regionStart
  let localStop := stop - regionStart
  if !region.isBoundary localStart then .error (.notCharBoundary start)
  else if !region.isBoundary localStop then .error (.notCharBoundary stop)
  else
    return ⟨baseStart, baseStop,
      region.takeBytes localStart ++ text ++ region.dropBytes localStop⟩

/-- Brings one more edit into a collection.  The edit addresses the edited text, the collection
the base text.  The collection is written once all is checked. -/
def rebaseStep (content : Text) (start stop : Nat) (text : Text) :
    Step TextError (List OffsetEdit) Unit := do
  let es ← get
  let (passed, before, es) := Anchor.origin.walkWhile (fun a e ↦ (a.past e).current < start) es
  let (touched, after, left) := before.walkWhile (fun a e ↦ a.startOf e ≤ stop) es
  match touched with
  | [] => do
    let baseStart := before.toBase start
    let baseStop := before.toBase stop
    Step.check (content.checkOffset baseStart)
    Step.check (content.checkOffset baseStop)
    set (passed ++ ⟨baseStart, baseStop, text⟩ :: left)
  | head :: touched => do
    let merged ← Step.check (merge content before after head touched start stop text)
    set (passed ++ (if merged.isNoop then left else merged :: left))

/-- The collection that one more edit leads to. -/
def rebase (content : Text) (es : List OffsetEdit) (start stop : Nat) (text : Text) :
    Except TextError (List OffsetEdit) := (rebaseStep content start stop text).result es

theorem rebase_eq (content : Text) (es : List OffsetEdit) (start stop : Nat) (text : Text) :
    rebase content es start stop text =
      let (passed, before, es) := Anchor.origin.walkWhile (fun a e ↦ (a.past e).current < start) es
      let (touched, after, left) := before.walkWhile (fun a e ↦ a.startOf e ≤ stop) es
      match touched with
      | [] => do
        let baseStart := before.toBase start
        let baseStop := before.toBase stop
        content.checkOffset baseStart
        content.checkOffset baseStop
        return passed ++ ⟨baseStart, baseStop, text⟩ :: left
      | head :: touched => do
        let merged ← merge content before after head touched start stop text
        return passed ++ (if merged.isNoop then left else merged :: left) := by
  rw [rebase, rebaseStep, Step.result_get_bind]
  rcases Anchor.origin.walkWhile (fun a e ↦ (a.past e).current < start) es with
    ⟨passed, before, rest⟩
  rcases hw : before.walkWhile (fun a e ↦ a.startOf e ≤ stop) rest with ⟨touched, after, left⟩
  simp only [hw]
  cases touched with
  | nil =>
    simp only [Step.result_check_bind]
    rfl
  | cons head touched =>
    rw [Step.result_check_bind]
    rfl

theorem atomic_rebaseStep (content : Text) (start stop : Nat) (text : Text) :
    (rebaseStep content start stop text).Atomic := by
  rw [rebaseStep]
  refine .after_get fun es ↦ ?_
  split
  split
  split
  · exact .after_check _ fun _ ↦ .after_check _ fun _ ↦ .of_run fun s ↦ ⟨_, _, rfl⟩
  · exact .after_check _ fun _ ↦ .of_run fun s ↦ ⟨_, _, rfl⟩

end OffsetEdit

end Emend
