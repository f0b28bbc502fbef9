import Emend.Proofs.Edit.Rendering
import Emend.Proofs.Result

/-!
# Tracked edits follow the edited text

A tracked accumulator takes each edit as one of the text as edited so far, and stores edits of the
base text.  `OffsetEdit.Tracked content es t` is what it keeps true of its store: the stored edits
write the edited text `t`, something of the base text is left between any two of them, and none of
them changes nothing.  This file shows that taking in one more edit keeps it true
(`Tracked.rebase`).

The walks of `OffsetEdit.rebase` compute with offsets; the argument does not.  `Writes` cuts the
base text and the edited text into pieces that correspond to each other, and all that is done here
is to cut both texts at one place.

* **In a gap.** Between two stored edits both texts have the same stretch.  So an offset in it is a
  boundary of the one text exactly if it is one of the other (`Writes.isBoundary_gap`), and a
  boundary there cuts both (`Writes.exists_cut`).
* **Along the edits.** A walk cuts both texts behind the edits that it passes (`Writes.walkWhile`).
  The two walks of a rebase cut them in three: what is in front of the new edit, what is around it,
  and what is behind it (`Around`, `exists_around`).
* **Around the new edit.** If no stored edit touches the new one, it is put between two of them
  (`insert_spec`).  If some do, then they and the new one become one edit (`merge_spec`), which
  replaces the middle part, widened as far as the new edit reaches beyond it (`exists_left_end`,
  `exists_right_end`).
* **The store again.** Either way one edit takes the place of those in the middle, and it is left
  out if it changes nothing (`Tracked.replace_middle`).

A rebase makes up to four checks, some on the base text and some on a piece of the edited text.  In
the end there is one condition, that both ends of the new edit are boundaries of the edited text,
and each lemma on the way says by `SucceedsIff` under which part of it the checks pass.
-/

set_option autoImplicit false

namespace Emend

open Text

/-- Both offsets are boundaries of the text. -/
abbrev Text.OnBoundaries (t : Text) (start stop : Nat) : Prop :=
  isBoundary t start = true ∧ isBoundary t stop = true

namespace OffsetEdit

variable {content c t : Text} {es left : List OffsetEdit} {base : Nat}

/-- The offset `k` from the base lies in front of all edits. -/
def InGap (base k : Nat) (es : List OffsetEdit) (t : Text) : Prop :=
  k ≤ byteLen t ∧ ∀ e ∈ es.head?, base + k ≤ e.start

/-- In front of all edits stands a stretch that both texts have. -/
theorem Writes.exists_gap {k : Nat} (h : Writes base c es t) (hk : InGap base k es t) :
    ∃ gap c' t', c = gap ++ c' ∧ t = gap ++ t' ∧ k ≤ byteLen gap ∧
      Writes (base + byteLen gap) c' es t' := by
  cases es with
  | nil =>
    obtain rfl : t = c := h
    exact ⟨t, [], [], by simp, by simp, hk.1, rfl⟩
  | cons e es =>
    obtain ⟨gap, replaced, rest, out, rfl, rfl, hstart, hstop, h⟩ := h
    have := hk.2 e rfl
    refine ⟨gap, replaced ++ rest, e.text ++ out, rfl, rfl, by omega, ?_⟩
    exact ⟨[], replaced, rest, out, by simp, by simp, by simpa using hstart, by simpa using hstop,
      h⟩

/-- In front of all edits the boundaries of the base text are those of the edited text. -/
theorem Writes.isBoundary_gap {k : Nat} (h : Writes base c es t) (hk : InGap base k es t) :
    isBoundary c k = isBoundary t k := by
  obtain ⟨gap, c', t', rfl, rfl, hle, -⟩ := h.exists_gap hk
  rw [isBoundary_append_of_le hle, isBoundary_append_of_le hle]

/-- A boundary in front of all edits cuts both texts. -/
theorem Writes.exists_cut {k : Nat} (h : Writes base c es t) (hk : InGap base k es t)
    (hb : isBoundary c k = true) :
    ∃ g c' t', c = g ++ c' ∧ t = g ++ t' ∧ byteLen g = k ∧ Writes (base + k) c' es t' := by
  obtain ⟨gap, c', t', rfl, rfl, hle, h⟩ := h.exists_gap hk
  rw [isBoundary_append_of_le hle] at hb
  obtain ⟨g, g', rfl, rfl⟩ := isBoundary_iff.1 hb
  refine ⟨g, g' ++ c', g' ++ t', by simp, by simp, rfl, gap_append g' ?_⟩
  rwa [byteLen_append, ← Nat.add_assoc] at h

/-! ## Walking

A walk looks at each stored edit at the place where the edited text has it.  Its condition is left
open here, since the two walks of a rebase have different ones.  What holds of any walk is by
induction on the edits: past the first one, both texts are cut behind it, and the rest is a walk
from there.  What a condition tells about the place where a walk ends is said by the two lemmas
behind that. -/

section Walking

variable {p : Anchor → OffsetEdit → Bool} {a b : Anchor} {e : OffsetEdit}
  {passed : List OffsetEdit}

theorem walkWhile_cons_of_pos (hp : p a e = true)
    (hw : a.walkWhile p (e :: es) = (passed, b, left)) :
    ∃ passed', passed = e :: passed' ∧ (a.past e).walkWhile p es = (passed', b, left) := by
  rw [Anchor.walkWhile, if_pos hp] at hw
  rcases hw' : (a.past e).walkWhile p es with ⟨passed', b', left'⟩
  rw [hw'] at hw
  obtain ⟨rfl, rfl, rfl⟩ : e :: passed' = passed ∧ b' = b ∧ left' = left := by simpa using hw
  exact ⟨passed', rfl, rfl⟩

theorem walkWhile_cons_of_neg (hp : ¬ p a e = true)
    (hw : a.walkWhile p (e :: es) = (passed, b, left)) :
    passed = [] ∧ b = a ∧ left = e :: es := by
  rw [Anchor.walkWhile, if_neg hp] at hw
  simpa [eq_comm] using hw

/-- **A walk cuts the base text and the edited text at one place.** -/
theorem Writes.walkWhile (h : Writes a.base c es t) (hw : a.walkWhile p es = (passed, b, left)) :
    ∃ c₁ c₂ t₁ t₂, c = c₁ ++ c₂ ∧ t = t₁ ++ t₂ ∧ es = passed ++ left ∧
      b = ⟨a.base + byteLen c₁, a.current + byteLen t₁⟩ ∧
      Writes a.base c₁ passed t₁ ∧ Writes b.base c₂ left t₂ := by
  induction es generalizing a c t passed with
  | nil =>
    obtain ⟨rfl, rfl, rfl⟩ : [] = passed ∧ a = b ∧ [] = left := by
      simpa [Anchor.walkWhile] using hw
    exact ⟨[], c, [], t, rfl, rfl, rfl, by simp, rfl, h⟩
  | cons e es ih =>
    by_cases hp : p a e = true
    · obtain ⟨passed, rfl, hw'⟩ := walkWhile_cons_of_pos hp hw
      obtain ⟨gap, replaced, rest, out, rfl, rfl, hstart, hstop, h⟩ := h
      obtain ⟨c₁, c₂, t₁, t₂, rfl, rfl, rfl, rfl, h₁, h₂⟩ := ih (a := a.past e) h hw'
      refine ⟨gap ++ (replaced ++ c₁), c₂, gap ++ (e.text ++ t₁), t₂, by simp, by simp, rfl, ?_,
        ⟨gap, replaced, c₁, t₁, rfl, rfl, hstart, hstop, h₁⟩, h₂⟩
      simp only [Anchor.past, Anchor.startOf, hstart, hstop, byteLen_append, Anchor.mk.injEq]
      omega
    · obtain ⟨rfl, rfl, rfl⟩ := walkWhile_cons_of_neg hp hw
      exact ⟨[], c, [], t, rfl, rfl, rfl, by simp, rfl, h⟩

/-- A walk ends where its condition fails. -/
theorem walkWhile_head (hw : a.walkWhile p es = (passed, b, left)) :
    ∀ e ∈ left.head?, p b e = false := by
  induction es generalizing a passed with
  | nil =>
    obtain ⟨-, -, rfl⟩ : [] = passed ∧ a = b ∧ [] = left := by simpa [Anchor.walkWhile] using hw
    simp
  | cons e es ih =>
    by_cases hp : p a e = true
    · obtain ⟨passed, rfl, hw'⟩ := walkWhile_cons_of_pos hp hw
      exact ih hw'
    · obtain ⟨rfl, rfl, rfl⟩ := walkWhile_cons_of_neg hp hw
      simpa using hp

/-- The anchor of a walk is the first one, or lies behind an edit that was passed. -/
theorem walkWhile_anchor (hw : a.walkWhile p es = (passed, b, left)) :
    passed = [] ∧ b = a ∨ ∃ a', ∃ e ∈ passed, p a' e = true ∧ b = a'.past e := by
  induction es generalizing a passed with
  | nil =>
    obtain ⟨rfl, rfl, -⟩ : [] = passed ∧ a = b ∧ [] = left := by
      simpa [Anchor.walkWhile] using hw
    exact .inl ⟨rfl, rfl⟩
  | cons e es ih =>
    by_cases hp : p a e = true
    · obtain ⟨passed, rfl, hw'⟩ := walkWhile_cons_of_pos hp hw
      rcases ih hw' with ⟨rfl, rfl⟩ | ⟨a', f, hf, hpf, rfl⟩
      · exact .inr ⟨a, e, List.mem_cons_self, hp, rfl⟩
      · exact .inr ⟨a', f, List.mem_cons_of_mem _ hf, hpf, rfl⟩
    · obtain ⟨rfl, rfl, -⟩ := walkWhile_cons_of_neg hp hw
      exact .inl ⟨rfl, rfl⟩

end Walking

/-! ## Merging

The touched edits and the new one become one edit, and its text is made from a region of the edited
text.  The region starts where the first touched edit does or, if the new edit starts in front of
that, where the new edit does; it stops likewise.  So each end of it lies `k` bytes behind an
anchor, in a gap, and to check it in the base text is to check it in the edited text.  Once these
two checks have passed, the region is a part of the edited text, and the other two, which are made
on the region, are checks of the edited text too. -/

variable {c₁ c₂ c₃ t₁ t₂ t₃ : Text} {head : OffsetEdit} {touched : List OffsetEdit}
  {start stop : Nat}

/-- Where a merged edit starts: `k` bytes behind the anchor, in front of the first edit it touches
or at the start of it. -/
theorem exists_left_end (h : Writes (byteLen c₁) c₂ (head :: touched) t₂)
    (hstart : byteLen t₁ ≤ start) :
    ∃ k, (if start < Anchor.startOf ⟨byteLen c₁, byteLen t₁⟩ head then
          (Anchor.toBase ⟨byteLen c₁, byteLen t₁⟩ start, start)
        else (head.start, Anchor.startOf ⟨byteLen c₁, byteLen t₁⟩ head))
        = (byteLen c₁ + k, byteLen t₁ + k) ∧
      InGap (byteLen c₁) k (head :: touched) t₂ ∧ byteLen t₁ + k ≤ start ∧
      (byteLen t₁ + k = start ∨ byteLen c₁ + k = head.start) := by
  obtain ⟨gap, replaced, rest, out, rfl, rfl, hhead, -, -⟩ := h
  have hcurrent : Anchor.startOf ⟨byteLen c₁, byteLen t₁⟩ head = byteLen t₁ + byteLen gap := by
    simp only [Anchor.startOf, hhead]
    omega
  rw [hcurrent]
  split
  · refine ⟨start - byteLen t₁, ?_, ⟨by simp; omega, ?_⟩, by omega, .inl (by omega)⟩
    · simp only [Anchor.toBase, Prod.mk.injEq, true_and]
      omega
    · simp only [List.head?_cons, Option.mem_some_iff, forall_eq']
      omega
  · refine ⟨byteLen gap, by rw [hhead], ⟨by simp, ?_⟩, by omega, .inr hhead.symm⟩
    simp [hhead]

/-- Where a merged edit stops: `k` bytes behind the last edit it touches, but not as far as the
next edit. -/
theorem exists_right_end {a : Anchor} (hstop : stop ≤ a.current + byteLen t₃)
    (hleft : ∀ e ∈ left.head?, a.base ≤ e.start ∧ stop < a.startOf e) :
    ∃ k, (if a.current < stop then a.toBase stop else a.base) = a.base + k ∧
      InGap a.base k left t₃ ∧ stop ≤ a.current + k ∧
      (a.current + k = stop ∨ k = 0) := by
  split
  · refine ⟨stop - a.current, rfl, ⟨by omega, fun e he ↦ ?_⟩, by omega, .inl (by omega)⟩
    have := hleft e he
    rw [Anchor.startOf] at this
    omega
  · exact ⟨0, rfl, ⟨by omega, fun e he ↦ (hleft e he).1⟩, by omega, .inr rfl⟩

/-- The last step of a merge, once its region is known: the region is the part `t₂` of the edited
text, so its boundaries are those of the edited text, and one edit takes the place of all edits in
the region and of the new one. -/
theorem merge_region {passed : List OffsetEdit} {region : Text} (text : Text)
    (h₁ : Writes 0 c₁ passed t₁) (h₂ : Writes (byteLen c₁) c₂ es t₂)
    (h₃ : Writes (byteLen c₁ + byteLen c₂) c₃ left t₃)
    (hstart : byteLen t₁ ≤ start) (hle : start ≤ stop) (hstop : stop ≤ byteLen t₁ + byteLen t₂)
    (hregion : renderBetween (c₁ ++ (c₂ ++ c₃)) (byteLen c₁) (byteLen c₁ + byteLen c₂) es
      = region) :
    SucceedsIff (OnBoundaries (t₁ ++ (t₂ ++ t₃)) start stop)
      (if !region.isBoundary (start - byteLen t₁) then
          Except.error (TextError.notCharBoundary start)
        else if !region.isBoundary (stop - byteLen t₁) then .error (.notCharBoundary stop)
        else .ok (OffsetEdit.mk (byteLen c₁) (byteLen c₁ + byteLen c₂)
          (region.takeBytes (start - byteLen t₁) ++ text ++ region.dropBytes (stop - byteLen t₁))))
      fun m ↦ m.start = byteLen c₁ ∧ m.stop = byteLen c₁ + byteLen c₂ ∧
        Writes 0 (c₁ ++ (c₂ ++ c₃)) (passed ++ m :: left)
          (replaceBetween (t₁ ++ (t₂ ++ t₃)) start stop text) := by
  obtain rfl : t₂ = region := by rw [← hregion, h₂.renderBetween rfl rfl]
  have hbstart := isBoundary_middle (p := t₁) (s := t₃) hstart (Nat.le_trans hle hstop)
  have hbstop := isBoundary_middle (p := t₁) (s := t₃) (Nat.le_trans hstart hle) hstop
  split
  · next h => exact .of_error (fun hb ↦ by rw [← hbstart, hb.1] at h; cases h) rfl
  · next h =>
    split
    · next h' => exact .of_error (fun hb ↦ by rw [← hbstop, hb.2] at h'; cases h') rfl
    · next h' =>
      refine .of_ok ⟨by simpa [hbstart] using h, by simpa [hbstop] using h'⟩ rfl ⟨rfl, rfl, ?_⟩
      rw [replaceBetween_middle hstart hle hstop]
      refine h₁.append ⟨[], c₂, c₃, t₃, by simp, ?_, by simp, by simp, h₃⟩
      simp [replaceBetween]

/-- **A merge succeeds exactly on boundaries of the edited text**, and then the merged edit does
what the touched edits and the new one do. -/
theorem merge_spec {passed : List OffsetEdit} (text : Text) (h₁ : Writes 0 c₁ passed t₁)
    (h₂ : Writes (byteLen c₁) c₂ (head :: touched) t₂)
    (h₃ : Writes (byteLen c₁ + byteLen c₂) c₃ left t₃) (hstart : byteLen t₁ ≤ start)
    (hle : start ≤ stop) (hstop : stop ≤ byteLen t₁ + byteLen t₂ + byteLen t₃)
    (hleft : ∀ e ∈ left.head?, byteLen c₁ + byteLen c₂ ≤ e.start ∧
      stop < Anchor.startOf ⟨byteLen c₁ + byteLen c₂, byteLen t₁ + byteLen t₂⟩ e) :
    SucceedsIff (OnBoundaries (t₁ ++ (t₂ ++ t₃)) start stop)
      (merge (c₁ ++ (c₂ ++ c₃)) ⟨byteLen c₁, byteLen t₁⟩
        ⟨byteLen c₁ + byteLen c₂, byteLen t₁ + byteLen t₂⟩ head touched start stop text)
      fun m ↦ Writes 0 (c₁ ++ (c₂ ++ c₃)) (passed ++ m :: left)
          (replaceBetween (t₁ ++ (t₂ ++ t₃)) start stop text) ∧
        (m.start = head.start ∨ byteLen t₁ + m.start = byteLen c₁ + start) ∧
        (m.stop = byteLen c₁ + byteLen c₂ ∨
          byteLen t₁ + byteLen t₂ + m.stop = byteLen c₁ + byteLen c₂ + stop) := by
  obtain ⟨k, hk, hkgap, hkle, hkend⟩ := exists_left_end h₂ hstart
  obtain ⟨l, hl, hlgap, hlle, hlend⟩ :=
    exists_right_end (a := ⟨byteLen c₁ + byteLen c₂, byteLen t₁ + byteLen t₂⟩) hstop hleft
  have hkc : k ≤ byteLen c₂ := by
    have h1 := Writes.le_of_mem h₂ List.mem_cons_self
    have h2 := hkgap.2 head rfl
    omega
  simp only [merge, hk, hl]
  by_cases hbk : isBoundary c₂ k = true
  · have hbk' : isBoundary (c₁ ++ (c₂ ++ c₃)) (byteLen c₁ + k) = true := by
      rwa [isBoundary_append_add, isBoundary_append_of_le hkc]
    by_cases hbl : isBoundary c₃ l = true
    · have hbl' : isBoundary (c₁ ++ (c₂ ++ c₃)) (byteLen c₁ + byteLen c₂ + l) = true := by
        rwa [Nat.add_assoc, isBoundary_append_add, isBoundary_append_add]
      rw [checkOffset_of_isBoundary hbk', checkOffset_of_isBoundary hbl']
      obtain ⟨g, c₂, t₂, rfl, rfl, rfl, h₂⟩ := Writes.exists_cut h₂ hkgap hbk
      obtain ⟨g', c₃, t₃, rfl, rfl, rfl, h₃⟩ := Writes.exists_cut h₃ hlgap hbl
      have h₂' : Writes (byteLen (c₁ ++ g)) (c₂ ++ g') (head :: touched) (t₂ ++ g') := by
        simpa using h₂.append_gap g'
      have h₃' : Writes (byteLen (c₁ ++ g) + byteLen (c₂ ++ g')) c₃ left t₃ := by
        simpa [Nat.add_assoc] using h₃
      have hstart' : byteLen (t₁ ++ g) ≤ start := by simpa using hkle
      have hstop' : stop ≤ byteLen (t₁ ++ g) + byteLen (t₂ ++ g') := by
        simpa [Nat.add_assoc] using hlle
      have h := merge_region text (h₁.append_gap g) h₂' h₃' hstart' hle hstop' rfl
      simp only [List.append_assoc, byteLen_append, Nat.add_assoc] at h hkend hlend ⊢
      refine h.imp fun m ⟨hmstart, hmstop, hm⟩ ↦ ⟨hm, ?_, ?_⟩
      · omega
      · omega
    · have hbl' : ¬ isBoundary (c₁ ++ (c₂ ++ c₃)) (byteLen c₁ + byteLen c₂ + l) = true := by
        rwa [Nat.add_assoc, isBoundary_append_add, isBoundary_append_add]
      obtain ⟨e, he⟩ := exists_checkOffset_eq_error hbl'
      rw [checkOffset_of_isBoundary hbk', he]
      refine .of_error (fun hb ↦ hbl ?_) rfl
      rw [h₃.isBoundary_gap hlgap]
      rcases hlend with hlend | rfl
      · have := hb.2
        rwa [← hlend, Nat.add_assoc, isBoundary_append_add, isBoundary_append_add] at this
      · exact isBoundary_zero _
  · have hbk' : ¬ isBoundary (c₁ ++ (c₂ ++ c₃)) (byteLen c₁ + k) = true := by
      rwa [isBoundary_append_add, isBoundary_append_of_le hkc]
    obtain ⟨e, he⟩ := exists_checkOffset_eq_error hbk'
    rw [he]
    refine .of_error (fun hb ↦ hbk ?_) rfl
    rcases hkend with hkend | hkend
    · have := hb.1
      rwa [← hkend, isBoundary_append_add, isBoundary_append_of_le hkgap.1,
        ← h₂.isBoundary_gap hkgap] at this
    · exact absurd (hkend ▸ (h₂.isBoundary_ends rfl List.mem_cons_self).1) hbk'

/-! ## Rebasing

`Around` gathers what the two walks tell, so that nothing behind it looks at a walk again.  The
first walk passes the edits that end in front of `start`, and the second one those that start no
later than `stop`; an edit that so much as touches the new one is therefore in the middle. -/

/-- How the store and the two texts fall apart around the part of the edited text from `start` to
`stop`: in front of it, with the edits passed; around it, with the edits that touch it; and behind
it, with the edits left. -/
structure Around (start stop : Nat) (passed touched left : List OffsetEdit)
    (c₁ c₂ c₃ t₁ t₂ t₃ : Text) : Prop where
  front : Writes 0 c₁ passed t₁
  middle : Writes (byteLen c₁) c₂ touched t₂
  rear : Writes (byteLen c₁ + byteLen c₂) c₃ left t₃
  le_start : byteLen t₁ ≤ start
  lt_start : passed ≠ [] → byteLen t₁ < start
  stop_lt : ∀ e ∈ left.head?,
    stop < Anchor.startOf ⟨byteLen c₁ + byteLen c₂, byteLen t₁ + byteLen t₂⟩ e
  touching : touched = [] ∧ c₂ = [] ∧ t₂ = [] ∨ ∃ e ∈ touched, e.stop = byteLen c₁ + byteLen c₂

/-- The two walks of a rebase. -/
theorem exists_around (h : Writes 0 content es t) (start stop : Nat) :
    ∃ passed touched left c₁ c₂ c₃ t₁ t₂ t₃,
      content = c₁ ++ (c₂ ++ c₃) ∧ t = t₁ ++ (t₂ ++ t₃) ∧ es = passed ++ (touched ++ left) ∧
      Around start stop passed touched left c₁ c₂ c₃ t₁ t₂ t₃ ∧
      Anchor.origin.walkWhile (fun a e ↦ (a.past e).current < start) es
        = (passed, ⟨byteLen c₁, byteLen t₁⟩, touched ++ left) ∧
      Anchor.walkWhile (fun a e ↦ a.startOf e ≤ stop) ⟨byteLen c₁, byteLen t₁⟩ (touched ++ left)
        = (touched, ⟨byteLen c₁ + byteLen c₂, byteLen t₁ + byteLen t₂⟩, left) := by
  rcases hw : Anchor.origin.walkWhile (fun a e ↦ (a.past e).current < start) es with
    ⟨passed, before, rest⟩
  obtain ⟨c₁, c, t₁, t, rfl, rfl, rfl, hbefore, h₁, h⟩ := Writes.walkWhile (a := .origin) h hw
  obtain rfl : before = ⟨byteLen c₁, byteLen t₁⟩ := by simpa [Anchor.origin] using hbefore
  rcases hw' : Anchor.walkWhile (fun a e ↦ a.startOf e ≤ stop) ⟨byteLen c₁, byteLen t₁⟩ rest with
    ⟨touched, after, left⟩
  obtain ⟨c₂, c₃, t₂, t₃, rfl, rfl, rfl, rfl, h₂, h₃⟩ := h.walkWhile hw'
  have hlt : passed ≠ [] → byteLen t₁ < start := by
    intro hne
    rcases walkWhile_anchor hw with ⟨hnil, -⟩ | ⟨b, e, -, hpe, hb⟩
    · exact absurd hnil hne
    · rw [decide_eq_true_eq, ← hb] at hpe
      exact hpe
  have hle : byteLen t₁ ≤ start := by
    rcases walkWhile_anchor hw with ⟨-, horigin⟩ | ⟨b, e, he, -⟩
    · simp only [Anchor.origin, Anchor.mk.injEq] at horigin
      omega
    · exact Nat.le_of_lt (hlt (List.ne_nil_of_mem he))
  refine ⟨passed, touched, left, c₁, c₂, c₃, t₁, t₂, t₃, rfl, rfl, rfl, ?_, rfl, hw'⟩
  refine ⟨h₁, h₂, h₃, hle, hlt, fun e he ↦ by simpa using walkWhile_head hw' e he, ?_⟩
  rcases walkWhile_anchor hw' with ⟨rfl, hsame⟩ | ⟨b, e, he, -, hb⟩
  · simp only [Anchor.mk.injEq] at hsame
    exact .inl ⟨rfl, byteLen_eq_zero.1 (by omega), byteLen_eq_zero.1 (by omega)⟩
  · exact .inr ⟨e, he, (congrArg Anchor.base hb).symm⟩

/-- All edits left lie behind the part of the edited text, and not only the first of them. -/
theorem Around.lt_of_mem {passed : List OffsetEdit} {f : OffsetEdit}
    (ha : Around start stop passed touched left c₁ c₂ c₃ t₁ t₂ t₃) (hf : f ∈ left) :
    byteLen c₁ + byteLen c₂ ≤ f.start ∧
      stop < byteLen t₁ + byteLen t₂ + (f.start - (byteLen c₁ + byteLen c₂)) := by
  refine ⟨(Writes.le_of_mem ha.rear hf).1, ?_⟩
  cases left with
  | nil => cases hf
  | cons e left =>
    have hstop : stop < byteLen t₁ + byteLen t₂ + (e.start - (byteLen c₁ + byteLen c₂)) :=
      ha.stop_lt e rfl
    rcases List.mem_cons.1 hf with rfl | hf
    · exact hstop
    · have h1 := Writes.le_of_mem ha.rear (List.mem_cons_self (a := e))
      have h2 := (List.pairwise_cons.1 ha.rear.pairwise).1 f hf
      omega

/-- The region of a merge.  From a boundary in front of the touched edits to one behind them, these
edits turn a part `m` of the base text into a part `r` of the edited text. -/
theorem Around.exists_region {passed : List OffsetEdit} {k l : Nat}
    (ha : Around start stop passed (head :: touched) left c₁ c₂ c₃ t₁ t₂ t₃)
    (hk : InGap (byteLen c₁) k (head :: touched) t₂)
    (hl : InGap (byteLen c₁ + byteLen c₂) l left t₃)
    (hbk : isBoundary (c₁ ++ (c₂ ++ c₃)) (byteLen c₁ + k) = true)
    (hbl : isBoundary (c₁ ++ (c₂ ++ c₃)) (byteLen c₁ + byteLen c₂ + l) = true) :
    ∃ p m s q r u, c₁ ++ (c₂ ++ c₃) = p ++ (m ++ s) ∧ t₁ ++ (t₂ ++ t₃) = q ++ (r ++ u) ∧
      byteLen c₁ + k = byteLen p ∧ byteLen c₁ + byteLen c₂ + l = byteLen p + byteLen m ∧
      byteLen t₁ + k = byteLen q ∧ byteLen t₁ + byteLen t₂ + l = byteLen q + byteLen r ∧
      Writes (byteLen p) m (head :: touched) r := by
  have hkc : k ≤ byteLen c₂ := by
    have h1 := ha.middle.le_of_mem List.mem_cons_self
    have h2 := hk.2 head rfl
    omega
  rw [isBoundary_append_add, isBoundary_append_of_le hkc] at hbk
  rw [Nat.add_assoc, isBoundary_append_add, isBoundary_append_add] at hbl
  obtain ⟨g, c₂, t₂, rfl, rfl, rfl, hmiddle⟩ := ha.middle.exists_cut hk hbk
  obtain ⟨g', c₃, t₃, rfl, rfl, rfl, -⟩ := ha.rear.exists_cut hl hbl
  refine ⟨c₁ ++ g, c₂ ++ g', c₃, t₁ ++ g, t₂ ++ g', t₃, by simp, by simp, by simp, ?_, by simp,
    ?_, by simpa using hmiddle.append_gap g'⟩
  · simp only [byteLen_append]
    omega
  · simp only [byteLen_append]
    omega

/-- An edit that touches no other is accepted exactly on boundaries of the edited text, and is
stored as it is. -/
theorem insert_spec {passed : List OffsetEdit} (text : Text) (h₁ : Writes 0 c₁ passed t₁)
    (h₃ : Writes (byteLen c₁) c₃ left t₃) (hstart : byteLen t₁ ≤ start) (hle : start ≤ stop)
    (hstop : stop ≤ byteLen t₁ + byteLen t₃)
    (hleft : ∀ e ∈ left, byteLen c₁ + (stop - byteLen t₁) ≤ e.start) {a b : Nat}
    (ha : a = byteLen c₁ + (start - byteLen t₁)) (hb : b = byteLen c₁ + (stop - byteLen t₁)) :
    SucceedsIff (OnBoundaries (t₁ ++ t₃) start stop)
      (do
        checkOffset (c₁ ++ c₃) a
        checkOffset (c₁ ++ c₃) b
        return passed ++ ⟨a, b, text⟩ :: left)
      fun es' ↦ es' = passed ++ ⟨a, b, text⟩ :: left ∧
        Writes 0 (c₁ ++ c₃) es' (replaceBetween (t₁ ++ t₃) start stop text) := by
  obtain ⟨k, rfl⟩ := Nat.exists_eq_add_of_le hstart
  obtain ⟨l, rfl⟩ := Nat.exists_eq_add_of_le hle
  have hgapk : InGap (byteLen c₁) k left t₃ :=
    ⟨by omega, fun e he ↦ by have := hleft e (List.mem_of_mem_head? he); omega⟩
  have hgapl : InGap (byteLen c₁) (k + l) left t₃ :=
    ⟨by omega, fun e he ↦ by have := hleft e (List.mem_of_mem_head? he); omega⟩
  have hbk : isBoundary (c₁ ++ c₃) a = isBoundary (t₁ ++ t₃) (byteLen t₁ + k) := by
    rw [ha, Nat.add_sub_cancel_left, isBoundary_append_add, isBoundary_append_add,
      h₃.isBoundary_gap hgapk]
  have hbl : isBoundary (c₁ ++ c₃) b = isBoundary (t₁ ++ t₃) (byteLen t₁ + k + l) := by
    rw [hb, Nat.add_assoc, Nat.add_sub_cancel_left, isBoundary_append_add, isBoundary_append_add,
      h₃.isBoundary_gap hgapl]
  by_cases hk : isBoundary (c₁ ++ c₃) a = true
  · by_cases hl : isBoundary (c₁ ++ c₃) b = true
    · rw [checkOffset_of_isBoundary hk, checkOffset_of_isBoundary hl]
      refine .of_ok ⟨hbk ▸ hk, hbl ▸ hl⟩ rfl ⟨rfl, ?_⟩
      rw [ha, Nat.add_sub_cancel_left, isBoundary_append_add] at hk
      obtain ⟨g, c₃, t₃, rfl, rfl, rfl, h₃⟩ := h₃.exists_cut hgapk hk
      rw [hb, Nat.add_assoc, Nat.add_sub_cancel_left, isBoundary_append_add,
        isBoundary_append_add] at hl
      have hgapl : InGap (byteLen c₁ + byteLen g) l left t₃ :=
        ⟨by simp at hstop; omega, fun e he ↦ by have := hleft e (List.mem_of_mem_head? he); omega⟩
      obtain ⟨g', c₃, t₃, rfl, rfl, rfl, h₃⟩ := h₃.exists_cut hgapl hl
      have hfront : byteLen (t₁ ++ g) ≤ byteLen t₁ + byteLen g := by simp
      have hrear : byteLen t₁ + byteLen g + byteLen g' ≤ byteLen (t₁ ++ g) + byteLen g' := by simp
      have hreplaced := replaceBetween_middle (s := t₃) (x := text) hfront (Nat.le_add_right _ _)
        hrear
      have hregion : replaceBetween g' 0 (byteLen g') text = text := by simp [replaceBetween]
      simp only [byteLen_append, Nat.sub_self, Nat.add_sub_cancel_left, hregion,
        List.append_assoc] at hreplaced
      rw [hreplaced]
      have ha' : a = 0 + byteLen c₁ + byteLen g := by omega
      have hb' : b = 0 + byteLen c₁ + byteLen g + byteLen g' := by omega
      refine h₁.append ⟨g, g', c₃, t₃, rfl, rfl, ha', hb', ?_⟩
      simpa [hb'] using h₃
    · obtain ⟨e, he⟩ := exists_checkOffset_eq_error hl
      rw [checkOffset_of_isBoundary hk, he]
      exact .of_error (fun h ↦ hl (hbl ▸ h.2)) rfl
  · obtain ⟨e, he⟩ := exists_checkOffset_eq_error hk
    rw [he]
    exact .of_error (fun h ↦ hk (hbk ▸ h.1)) rfl

/-! ## The store

Where the store falls apart into three, the edits passed and the edits left are separated from those
in the middle already.  So one edit in their place keeps the store separated if it stays clear of
the last edit passed and of the first one left, which is what `Around` says of the new edit and
`merge_spec` of the ends of a merged one. -/

/-- What a tracked accumulator keeps true of its stored edits: they write the edited text, something
of the base text is left between any two of them, and each of them changes something. -/
structure Tracked (content : Text) (es : List OffsetEdit) (t : Text) : Prop where
  writes : Writes 0 content es t
  separated : es.Pairwise fun e f ↦ e.stop < f.start
  effective : ∀ e ∈ es, e.isNoop = false

namespace Tracked

/-- The store with some edits in the middle replaced by one, which is left out if it changes
nothing. -/
theorem replace_middle {passed : List OffsetEdit} {m : OffsetEdit} {t' : Text}
    (h : Tracked content (passed ++ (touched ++ left)) t)
    (hwrites : Writes 0 content (passed ++ m :: left) t') (hpassed : ∀ e ∈ passed, e.stop < m.start)
    (hleft : ∀ e ∈ left, m.stop < e.start) :
    Tracked content (passed ++ if m.isNoop then left else m :: left) t' := by
  have hfilter : (passed ++ m :: left).filter (fun e ↦ !e.isNoop)
      = passed ++ if m.isNoop then left else m :: left := by
    have h1 : passed.filter (fun e ↦ !e.isNoop) = passed :=
      List.filter_eq_self.2 fun e he ↦ by simp [h.effective e (by simp [he])]
    have h2 : left.filter (fun e ↦ !e.isNoop) = left :=
      List.filter_eq_self.2 fun e he ↦ by simp [h.effective e (by simp [he])]
    rw [List.filter_append, List.filter_cons, h1, h2]
    cases m.isNoop <;> rfl
  obtain ⟨hp, htl, hptl⟩ := List.pairwise_append.1 h.separated
  have hl := (List.pairwise_append.1 htl).2.1
  have hsep : (passed ++ m :: left).Pairwise fun e f ↦ e.stop < f.start := by
    refine List.pairwise_append.2 ⟨hp, List.pairwise_cons.2 ⟨hleft, hl⟩, fun e he f hf ↦ ?_⟩
    rcases List.mem_cons.1 hf with rfl | hf
    · exact hpassed e he
    · exact hptl e he f (List.mem_append_right _ hf)
  rw [← hfilter]
  exact ⟨hwrites.filter, hsep.filter _, fun e he ↦ by simpa using (List.mem_filter.1 he).2⟩

/-- **One more edit.**  It is accepted exactly when its ends are boundaries of the edited text, and
then the store writes the edited text with the edit carried out. -/
theorem rebase (h : Tracked content es t) (text : Text) (hle : start ≤ stop)
    (hstop : stop ≤ byteLen t) (hne : ¬ (start = stop ∧ text = [])) :
    SucceedsIff (OnBoundaries t start stop) (OffsetEdit.rebase content es start stop text)
      fun es' ↦ Tracked content es' (replaceBetween t start stop text) := by
  obtain ⟨passed, touched, left, c₁, c₂, c₃, t₁, t₂, t₃, rfl, rfl, rfl, ha, hw, hw'⟩ :=
    exists_around h.writes start stop
  have hstop' : stop ≤ byteLen t₁ + byteLen t₂ + byteLen t₃ := by
    simpa [Nat.add_assoc] using hstop
  have hpassed : ∀ e ∈ passed, e.stop ≤ byteLen c₁ ∧ byteLen t₁ < start := fun e he ↦
    ⟨by simpa using (Writes.le_of_mem ha.front he).2.2, ha.lt_start (List.ne_nil_of_mem he)⟩
  obtain ⟨-, htl, hptl⟩ := List.pairwise_append.1 h.separated
  obtain ⟨-, -, hsep⟩ := List.pairwise_append.1 htl
  rw [OffsetEdit.rebase_eq, hw]
  simp only [hw']
  cases touched with
  | nil =>
    obtain ⟨-, rfl, rfl⟩ : [] = ([] : List OffsetEdit) ∧ c₂ = [] ∧ t₂ = [] := by
      simpa using ha.touching
    have hins := insert_spec text ha.front ha.rear ha.le_start hle hstop'
      (fun e he ↦ by
        have := ha.lt_of_mem he
        simp only [byteLen_nil, Nat.add_zero] at this
        omega) rfl rfl
    refine hins.imp ?_
    rintro es' ⟨rfl, hwrites⟩
    have hnoop : OffsetEdit.isNoop ⟨byteLen c₁ + (start - byteLen t₁),
        byteLen c₁ + (stop - byteLen t₁), text⟩ = false := by
      have := ha.le_start
      rw [isNoop, Bool.and_eq_false_iff, decide_eq_false_iff_not, List.isEmpty_eq_false_iff]
      by_cases htext : text = []
      · have : start ≠ stop := fun heq ↦ hne ⟨heq, htext⟩
        left
        show ¬ byteLen c₁ + (start - byteLen t₁) = byteLen c₁ + (stop - byteLen t₁)
        omega
      · exact .inr htext
    have hmerged := h.replace_middle hwrites (fun e he ↦ ?_) fun e he ↦ ?_
    · rwa [hnoop] at hmerged
    · have := hpassed e he
      show e.stop < byteLen c₁ + (start - byteLen t₁)
      omega
    · have hlt := ha.lt_of_mem he
      have := ha.le_start
      show byteLen c₁ + (stop - byteLen t₁) < e.start
      simp only [byteLen_nil, Nat.add_zero] at hlt
      omega
  | cons head touched =>
    have hm := merge_spec text ha.front ha.middle ha.rear ha.le_start hle hstop'
      fun e he ↦ ha.lt_of_mem (List.mem_of_mem_head? he)
    refine SucceedsIff.map (f := fun m ↦ passed ++ if m.isNoop then left else m :: left) hm ?_
    rintro m ⟨hwrites, hmstart, hmstop⟩
    refine h.replace_middle hwrites (fun e he ↦ ?_) fun e he ↦ ?_
    · have h1 := hpassed e he
      have h2 := hptl e he head (by simp)
      omega
    · have h1 := ha.lt_of_mem he
      obtain ⟨f, hf, hlast⟩ : ∃ f ∈ head :: touched, f.stop = byteLen c₁ + byteLen c₂ := by
        simpa using ha.touching
      have h2 := hsep f hf e he
      omega

end Tracked

end OffsetEdit
end Emend
