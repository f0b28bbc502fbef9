import Mathlib.Data.Nat.PSub
import Emend.Proofs.Edit.Session

/-!
# What a tracked accumulator keeps in order

`DocumentEdits.Orderly` is the order that a tracked accumulator keeps in its store: something of the
snapshot is left between any two stored edits, each of them runs between boundaries of it and
changes something, and the length that the accumulator knows is that of the edited text.

The arithmetic of a tracked edit relies on this order.  It takes differences of offsets and cuts
texts at offsets, and there is no telling from a difference of natural numbers whether it should
have been negative, nor from a cut whether it went through a character.  So the same arithmetic is
written down once more with a check of every single step (`OffsetEdit.rebaseChecked`,
`DocumentEdits.replaceChecked`): a computation that is `Checked` stops where a difference is
negative or a cut is not between two boundaries.

* `Checked.ComesTo` says that a checked computation does not stop, and what it comes to.  It has one
  rule for each way in which these computations are put together.
* `Around.mergeChecked` and `Writes.rebaseChecked` follow the definitions step by step, with the
  bound that each check asks for.
* `DocumentEdits.orderly_session` says that every session is orderly, and that the checks never stop
  an edit of an orderly accumulator.  That the checks are not there for nothing is shown by an edit
  of a store that is out of order, which they do stop.
-/

set_option autoImplicit false

namespace Emend

open Text

/-! ## Computations with checks -/

/-- A computation that stops at a step that cannot be taken.  Otherwise it has a result, or an error
to report. -/
abbrev Checked (α : Type) := ExceptT TextError Option α

namespace Checked

variable {α β : Type}

/-- The computation does not stop, and this is what it comes to. -/
def ComesTo (x : Checked α) (r : Except TextError α) : Prop := x.run = some r

theorem ComesTo.pure (a : α) : ComesTo (Pure.pure a) (.ok a) := rfl

theorem ComesTo.throw (e : TextError) : ComesTo (throw e : Checked α) (.error e) := rfl

/-- A step that is taken. -/
theorem ComesTo.step {o : Option α} {a : α} {f : α → Checked β} {r : Except TextError β}
    (ho : o = some a) (hf : (f a).ComesTo r) : ComesTo ((o : Checked α) >>= f) r := by
  subst ho
  exact hf

/-- Two computations in sequence. -/
theorem ComesTo.bind {x : Checked α} {r : Except TextError α} {f : α → Checked β}
    {g : α → Except TextError β} (hx : x.ComesTo r) (hf : ∀ a, r = .ok a → (f a).ComesTo (g a)) :
    ComesTo (x >>= f) (r >>= g) := by
  obtain rfl : x = ExceptT.mk (some r) := hx
  cases r with
  | ok a => exact hf a rfl
  | error e => rfl

/-- A computation that reports errors and has nothing to check. -/
theorem ComesTo.lift (r : Except TextError α) : ComesTo (r : Checked α) r := rfl

end Checked

/-- `replaceBetween`, where both offsets must be boundaries in order. -/
def Text.replaceBetween? (t : Text) (start stop : Nat) (x : Text) : Option Text :=
  (t.slice start stop).toOption.map fun _ ↦ replaceBetween t start stop x

/-- `Text.between`, where both offsets must be boundaries in order. -/
def Text.between? (t : Text) (start stop : Nat) : Option Text := (t.slice start stop).toOption

namespace Anchor

/-- `startOf`, where the edit must not start in front of the anchor. -/
def startOf? (a : Anchor) (e : OffsetEdit) : Option Nat :=
  (e.start.psub a.base).map (a.current + ·)

/-- `toBase`, where the offset must not lie in front of the anchor. -/
def toBase? (a : Anchor) (offset : Nat) : Option Nat :=
  (offset.psub a.current).map (a.base + ·)

/-- `walkWhile` under a condition on an edit and the offset of the edited text at which it
starts. -/
def walkWhile? (p : Nat → OffsetEdit → Bool) (a : Anchor) :
    List OffsetEdit → Option (List OffsetEdit × Anchor × List OffsetEdit)
  | [] => some ([], a, [])
  | e :: es => do
    let start ← a.startOf? e
    if p start e then
      let (passed, b, left) ← walkWhile? p ⟨e.stop, start + e.text.byteLen⟩ es
      return (e :: passed, b, left)
    else return ([], a, e :: es)

end Anchor

namespace OffsetEdit

/-- `renderBetween` with a check of every cut. -/
def renderBetween? (content : Text) (cursor stop : Nat) : List OffsetEdit → Option Text
  | [] => content.between? cursor stop
  | e :: es => do
    let gap ← content.between? cursor e.start
    let rest ← renderBetween? content e.stop stop es
    return gap ++ e.text ++ rest

/-- Where a merged edit starts, in the base text and in the edited text. -/
def leftEnd? (before : Anchor) (head : OffsetEdit) (start : Nat) : Option (Nat × Nat) := do
  let headStart ← before.startOf? head
  if start < headStart then return (← before.toBase? start, start)
  else return (head.start, headStart)

/-- Where a merged edit stops, in the base text. -/
def rightEnd? (after : Anchor) (stop : Nat) : Option Nat :=
  if after.current < stop then after.toBase? stop else some after.base

/-- `merge` with a check of every difference and every cut. -/
def mergeChecked (content : Text) (before after : Anchor) (head : OffsetEdit)
    (touched : List OffsetEdit) (start stop : Nat) (text : Text) : Checked OffsetEdit := do
  let (baseStart, regionStart) ← leftEnd? before head start
  let baseStop ← rightEnd? after stop
  content.checkOffset baseStart
  content.checkOffset baseStop
  let region ← renderBetween? content baseStart baseStop (head :: touched)
  let localStart ← start.psub regionStart
  let localStop ← stop.psub regionStart
  if !region.isBoundary localStart then throw (TextError.notCharBoundary start)
  else if !region.isBoundary localStop then throw (TextError.notCharBoundary stop)
  else
    let merged ← region.replaceBetween? localStart localStop text
    return ⟨baseStart, baseStop, merged⟩

/-- `rebase` with a check of every difference and every cut.  The store itself is taken apart by
walking along it, without indices. -/
def rebaseChecked (content : Text) (es : List OffsetEdit) (start stop : Nat) (text : Text) :
    Checked (List OffsetEdit) := do
  let (passed, before, es) ←
    Anchor.origin.walkWhile? (fun n e ↦ n + e.text.byteLen < start) es
  let (touched, after, left) ← before.walkWhile? (fun n _ ↦ n ≤ stop) es
  match touched with
  | [] => do
    let baseStart ← before.toBase? start
    let baseStop ← before.toBase? stop
    content.checkOffset baseStart
    content.checkOffset baseStop
    return passed ++ ⟨baseStart, baseStop, text⟩ :: left
  | head :: touched => do
    let merged ← mergeChecked content before after head touched start stop text
    return passed ++ (if merged.isNoop then left else merged :: left)

end OffsetEdit

/-- `DocumentEdits.replace` of a tracked accumulator, with a check of every difference and every
cut. -/
def DocumentEdits.replaceChecked (d : DocumentEdits) (start stop : Nat) (text : Text) :
    Checked DocumentEdits :=
  if stop < start then throw (TextError.invertedRange start stop)
  else if d.currentLen < stop then throw (TextError.offsetOutOfRange stop d.currentLen)
  else if start = stop ∧ text = [] then return d
  else do
    let edits ← OffsetEdit.rebaseChecked d.document.content d.edits start stop text
    let replaced ← stop.psub start
    let kept ← d.currentLen.psub replaced
    return { d with edits, currentLen := kept + text.byteLen }

/-! ## The checks pass

A checked step and the plain one agree where the bound that is checked holds, and all the bounds
come from two places.  `Writes` keeps the anchor of a walk at the start of the next edit or in front
of it, and cuts the base text between boundaries.  `Around` keeps the new edit behind the first
anchor, and within the region that is cut out for a merge. -/

theorem Text.between?_append (p m s : Text) {start stop : Nat} (hstart : start = byteLen p)
    (hstop : stop = byteLen p + byteLen m) : between? (p ++ (m ++ s)) start stop = some m := by
  rw [between?, slice_append p m s hstart hstop]
  rfl

theorem Text.replaceBetween?_eq {t : Text} {start stop : Nat} (x : Text) (hle : start ≤ stop)
    (hstart : isBoundary t start = true) (hstop : isBoundary t stop = true) :
    t.replaceBetween? start stop x = some (replaceBetween t start stop x) := by
  rw [replaceBetween?, slice_of_isBoundary hle hstart hstop]
  rfl

namespace Anchor

variable {a : Anchor} {e : OffsetEdit} {offset : Nat}

theorem startOf?_eq (h : a.base ≤ e.start) : a.startOf? e = some (a.startOf e) := by
  rw [startOf?, Nat.psub_eq_sub h]
  rfl

theorem toBase?_eq (h : a.current ≤ offset) : a.toBase? offset = some (a.toBase offset) := by
  rw [toBase?, Nat.psub_eq_sub h]
  rfl

end Anchor

namespace OffsetEdit

variable {c t c₁ c₂ c₃ t₁ t₂ t₃ : Text} {es passed touched left : List OffsetEdit}
  {head : OffsetEdit} {start stop base : Nat} {a : Anchor}

/-- Along edits that write a text, no edit starts in front of the anchor. -/
theorem Writes.walkWhile? (p : Nat → OffsetEdit → Bool) (h : Writes a.base c es t) :
    a.walkWhile? p es = some (a.walkWhile (fun a e ↦ p (a.startOf e) e) es) := by
  induction es generalizing a c t with
  | nil => rfl
  | cons e es ih =>
    obtain ⟨gap, replaced, rest, out, rfl, rfl, hstart, hstop, h⟩ := h
    have hbase : a.base ≤ e.start := by omega
    rw [Anchor.walkWhile?, Anchor.startOf?_eq hbase, Anchor.walkWhile]
    show (if p (a.startOf e) e then _ else _) = _
    split
    · have hrest := ih (a := a.past e) h
      rw [Anchor.past] at hrest
      rw [hrest]
      rfl
    · rfl

/-- Edits that write a text are rendered by cuts between boundaries. -/
theorem Writes.renderBetween? {p s : Text} (h : Writes base c es t) (hp : byteLen p = base)
    (hstop : stop = base + byteLen c) :
    OffsetEdit.renderBetween? (p ++ (c ++ s)) base stop es = some t := by
  induction es generalizing base c t p with
  | nil =>
    obtain rfl : t = c := h
    exact between?_append p t s hp.symm (by rw [hstop, hp])
  | cons e es ih =>
    obtain ⟨gap, replaced, rest, out, rfl, rfl, hestart, hestop, h⟩ := h
    have hrest : OffsetEdit.renderBetween? (p ++ (gap ++ (replaced ++ rest) ++ s)) e.stop stop es
        = some out := by
      have := ih (p := p ++ gap ++ replaced) h (by simp [hestop, hp, Nat.add_assoc])
        (by rw [hstop, hestop]; simp [Nat.add_assoc])
      simpa using this
    have hgap : between? (p ++ (gap ++ (replaced ++ rest) ++ s)) base e.start = some gap := by
      have hstart' : e.start = byteLen p + byteLen gap := by rw [hestart, hp]
      have := between?_append p gap (replaced ++ rest ++ s) hp.symm hstart'
      simpa using this
    rw [OffsetEdit.renderBetween?, hgap, hrest, ← List.append_assoc]
    rfl

theorem leftEnd?_eq (hbase : a.base ≤ head.start) (hcurrent : a.current ≤ start) :
    leftEnd? a head start = some (if start < a.startOf head then (a.toBase start, start)
      else (head.start, a.startOf head)) := by
  rw [leftEnd?, Anchor.startOf?_eq hbase, Anchor.toBase?_eq hcurrent]
  show (if start < a.startOf head then _ else _) = _
  split <;> rfl

theorem rightEnd?_eq (a : Anchor) (stop : Nat) :
    rightEnd? a stop = some (if a.current < stop then a.toBase stop else a.base) := by
  rw [rightEnd?]
  split
  · next h => exact Anchor.toBase?_eq (Nat.le_of_lt h)
  · rfl

/-- **No check stops a merge.** -/
theorem Around.mergeChecked (text : Text)
    (ha : Around start stop passed (head :: touched) left c₁ c₂ c₃ t₁ t₂ t₃) (hle : start ≤ stop)
    (hstop : stop ≤ byteLen t₁ + byteLen t₂ + byteLen t₃) :
    (OffsetEdit.mergeChecked (c₁ ++ (c₂ ++ c₃)) ⟨byteLen c₁, byteLen t₁⟩
      ⟨byteLen c₁ + byteLen c₂, byteLen t₁ + byteLen t₂⟩ head touched start stop text).ComesTo
      (merge (c₁ ++ (c₂ ++ c₃)) ⟨byteLen c₁, byteLen t₁⟩
        ⟨byteLen c₁ + byteLen c₂, byteLen t₁ + byteLen t₂⟩ head touched start stop text) := by
  obtain ⟨k, hk, hkgap, hkle, -⟩ := exists_left_end ha.middle ha.le_start
  obtain ⟨l, hl, hlgap, -, -⟩ :=
    exists_right_end (a := ⟨byteLen c₁ + byteLen c₂, byteLen t₁ + byteLen t₂⟩) hstop
      fun e he ↦ ha.lt_of_mem (List.mem_of_mem_head? he)
  have hleft := leftEnd?_eq (a := ⟨byteLen c₁, byteLen t₁⟩)
    (Writes.le_of_mem ha.middle List.mem_cons_self).1 ha.le_start
  have hright := rightEnd?_eq ⟨byteLen c₁ + byteLen c₂, byteLen t₁ + byteLen t₂⟩ stop
  rw [hk] at hleft
  rw [hl] at hright
  rw [OffsetEdit.mergeChecked]
  simp only [merge, hk, hl]
  refine .step hleft (.step hright ?_)
  refine .bind (.lift _) fun _ hstart ↦ .bind (.lift _) fun _ hend ↦ ?_
  obtain ⟨p, m, s, q, r, u, hc, -, hp, hm, -, -, hwrites⟩ :=
    ha.exists_region hkgap hlgap (checkOffset_eq_ok_iff.1 hstart) (checkOffset_eq_ok_iff.1 hend)
  simp only [hc, hp, hm]
  rw [hwrites.renderBetween rfl rfl]
  refine .step (hwrites.renderBetween? rfl rfl) ?_
  refine .step (Nat.psub_eq_sub (by omega)) (.step (Nat.psub_eq_sub (by omega)) ?_)
  split
  · exact .throw _
  · next hbstart =>
    split
    · exact .throw _
    · next hbstop =>
      refine .step (Text.replaceBetween?_eq text (by omega) (by simpa using hbstart)
        (by simpa using hbstop)) ?_
      rw [replaceBetween, ← List.append_assoc]
      exact .pure _

/-- **No check stops an edit of the edited text.** -/
theorem Writes.rebaseChecked {content : Text} (text : Text) (h : Writes 0 content es t)
    (hle : start ≤ stop) (hstop : stop ≤ byteLen t) :
    (OffsetEdit.rebaseChecked content es start stop text).ComesTo
      (rebase content es start stop text) := by
  obtain ⟨passed, touched, left, c₁, c₂, c₃, t₁, t₂, t₃, rfl, rfl, rfl, ha, hw, hw'⟩ :=
    exists_around h start stop
  have hwalk := (Writes.walkWhile? (a := .origin) (fun n e ↦ n + e.text.byteLen < start) h).trans
    (congrArg some hw)
  have hwalk' := (Writes.walkWhile? (a := ⟨byteLen c₁, byteLen t₁⟩) (fun n _ ↦ n ≤ stop)
    (ha.middle.append ha.rear)).trans (congrArg some hw')
  rw [OffsetEdit.rebaseChecked, OffsetEdit.rebase_eq, hw]
  simp only [hw']
  refine .step hwalk (.step hwalk' ?_)
  cases touched with
  | nil =>
    refine .step (Anchor.toBase?_eq ha.le_start) ?_
    refine .step (Anchor.toBase?_eq (Nat.le_trans ha.le_start hle)) ?_
    exact .bind (.lift _) fun _ _ ↦ .bind (.lift _) fun _ _ ↦ .pure _
  | cons head touched =>
    have hstop' : stop ≤ byteLen t₁ + byteLen t₂ + byteLen t₃ := by
      simpa [Nat.add_assoc] using hstop
    exact .bind (ha.mergeChecked text hle hstop') fun _ _ ↦ .pure _

/-- The checks do stop an edit of a store that is out of order. -/
example : (OffsetEdit.rebaseChecked ['a', 'b'] [⟨2, 2, ['x']⟩, ⟨0, 1, []⟩] 3 3 ['y']).run = none :=
  rfl

end OffsetEdit

/-! ## Accumulators

`Orderly` is said of an accumulator alone, and not of the text that it follows, so that it can be
asked of any accumulator.  It is as good as following a text, though: edits that are separated and
sound write one (`Orderly.exists_follows`). -/

namespace DocumentEdits

variable {d : DocumentEdits} {t : Text}

/-- **What a tracked accumulator keeps in order**: strictly separated edits of the snapshot, each of
which runs between boundaries and changes something, and the length of the edited text. -/
structure Orderly (d : DocumentEdits) : Prop where
  tracked : d.tracked = true
  separated : d.edits.Pairwise fun e f ↦ e.stop < f.start
  within : ∀ e ∈ d.edits, e.start ≤ e.stop ∧ e.stop ≤ byteLen d.document.content
  onBoundaries : ∀ e ∈ d.edits, OnBoundaries d.document.content e.start e.stop
  effective : ∀ e ∈ d.edits, ¬ (e.start = e.stop ∧ e.text = [])
  currentLen : ∃ t, d.apply = .ok t ∧ d.currentLen = byteLen t

theorem Follows.orderly (h : d.Follows t) : d.Orderly where
  tracked := h.tracked
  separated := h.store.separated
  within e he :=
    have hsound := h.store.writes.sound e he
    ⟨hsound.le, le_byteLen_of_isBoundary hsound.stop⟩
  onBoundaries e he :=
    have hsound := h.store.writes.sound e he
    ⟨hsound.start, hsound.stop⟩
  effective e he hnoop := by
    have := h.store.effective e he
    simp [OffsetEdit.isNoop, hnoop] at this
  currentLen := ⟨t, h.apply, h.currentLen⟩

/-- An orderly accumulator follows the text that it renders to. -/
theorem Orderly.exists_follows (h : d.Orderly) : ∃ t, d.Follows t := by
  have hsound : ∀ e ∈ d.edits, e.Sound d.document.content := fun e he ↦
    ⟨(h.within e he).1, (h.onBoundaries e he).1, (h.onBoundaries e he).2⟩
  obtain ⟨t, ht⟩ := OffsetEdit.exists_writes hsound (h.separated.imp Nat.le_of_lt)
  obtain ⟨t', ht', hlen⟩ := h.currentLen
  obtain rfl : t = t' := Except.ok.inj ((apply_of_writes ht).symm.trans ht')
  refine ⟨t, h.tracked, ⟨ht, h.separated, fun e he ↦ ?_⟩, hlen⟩
  simpa [OffsetEdit.isNoop] using h.effective e he

/-- **No check stops an edit.** -/
theorem Follows.replaceChecked (h : d.Follows t) (start stop : Nat) (text : Text) :
    (d.replaceChecked start stop text).run.map EditError.ofText
      = some (d.replace start stop text) := by
  have hreaches : (d.replaceChecked start stop text).ComesTo
      (if stop < start then .error (.invertedRange start stop)
        else d.replaceTracked start stop text) := by
    rw [DocumentEdits.replaceChecked]
    split
    · exact .throw _
    · next hle =>
      rw [DocumentEdits.replaceTracked_eq, h.currentLen]
      split
      · exact .throw _
      · next hstop =>
        split
        · exact .pure _
        · refine .bind (h.store.writes.rebaseChecked text (Nat.le_of_not_lt hle)
            (Nat.le_of_not_lt hstop)) fun es _ ↦ ?_
          exact .step (Nat.psub_eq_sub (by omega)) (.step (Nat.psub_eq_sub (by omega)) (.pure _))
  rw [DocumentEdits.replace_eq, if_pos h.tracked, hreaches]
  rfl

/-- **A session keeps its store in order, and this is all that its arithmetic relies on.**  Of an
orderly accumulator, the edited text is rendered by cuts between boundaries of the snapshot, any
call comes to the same with a check of every difference and every cut, and the accumulator is
orderly after it. -/
theorem orderly_session :
    (∀ (document : Snapshot) (calls : List EditCall), (session document calls).Orderly) ∧
    ∀ d : DocumentEdits, d.Orderly →
      (∃ t, d.apply = .ok t ∧
        OffsetEdit.renderBetween? d.document.content 0 (byteLen d.document.content) d.edits
          = some t) ∧
      ∀ c : EditCall,
        (d.replaceChecked c.edit.start c.edit.stop c.edit.text).run.map EditError.ofText
          = some (c.perform d) ∧
        (d.attempt c).Orderly := by
  refine ⟨fun document calls ↦ (follows_session document calls).orderly, fun d hd ↦ ?_⟩
  obtain ⟨t, ht⟩ := hd.exists_follows
  refine ⟨⟨t, ht.apply, ?_⟩, fun c ↦ ⟨?_, (ht.attempt c).orderly⟩⟩
  · have hrendered := ht.store.writes.renderBetween? (p := []) (s := []) rfl (Nat.zero_add _).symm
    rwa [List.nil_append, List.append_nil] at hrendered
  · rw [c.perform_eq]
    exact ht.replaceChecked c.edit.start c.edit.stop c.edit.text

/-- An edit that starts in one stored edit and stops at another, and becomes one edit with both. -/
theorem orderly_session_touching :
    let d := session (.unversioned "file:///a" ['a', 'é', 'b']) [.insert 0 ['x', 'x'], .delete 5 6]
    let c : EditCall := .replace 1 5 ['y']
    d.edits = [⟨0, 0, ['x', 'x']⟩, ⟨3, 4, []⟩] ∧ d.Orderly ∧
      (d.replaceChecked 1 5 ['y']).run.map EditError.ofText = some (c.perform d) ∧
      c.perform d = .ok { d with edits := [⟨0, 4, ['x', 'y']⟩], currentLen := 2 } := by
  intro d c
  have hd : d.Orderly := orderly_session.1 _ _
  exact ⟨rfl, hd, ((orderly_session.2 d hd).2 c).1, rfl⟩

end DocumentEdits

end Emend
