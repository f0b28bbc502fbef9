import Emend.Proofs.Edit.Session

/-!
# Why a tracked edit is refused

An edit of the edited text is refused if it is inverted, goes beyond the text, or cuts a character
of it.  The error names the offset that is at fault, and whose offset that is depends on the
character that is cut:

* `OffsetEdit.PutIn` says that a place lies in a text that a stored edit has put in.  It is named by
  its offset in the edited text, which is the one that was asked for.
* `OffsetEdit.Kept` says that a place lies in a stretch of the base text that has been kept.  It is
  named by its offset in the base text, which is another one as soon as the edits in front of it
  have changed the length.

`OffsetEdit.Tracked.cuts_of_rebase` shows this of one edit, and `DocumentEdits.session_refuses` of
any call in a session.
-/

set_option autoImplicit false

namespace Emend

open Text

namespace OffsetEdit

variable {content c t c₁ c₂ c₃ t₁ t₂ t₃ : Text} {es passed touched left : List OffsetEdit}
  {head e : OffsetEdit} {start stop k n : Nat} {text : Text} {error : TextError}

/-! ## Where a place of the edited text comes from

A place of the edited text lies in a gap, where both texts have the same, or in the text that an
edit has put in; where the two meet it is both.  The definitions say so by cutting the texts and the
store around the place, as `Writes` does. -/

/-- The offset `k` of the edited text lies in a stretch that has been kept, or at an end of one.  In
the base text it is the offset `n`. -/
def Kept (content : Text) (es : List OffsetEdit) (t : Text) (k n : Nat) : Prop :=
  ∃ front rear c₁ g c₂ t₁ t₂, es = front ++ rear ∧ content = c₁ ++ (g ++ c₂) ∧
    t = t₁ ++ (g ++ t₂) ∧ Writes 0 c₁ front t₁ ∧ Writes (byteLen c₁ + byteLen g) c₂ rear t₂ ∧
    ∃ m, m ≤ byteLen g ∧ k = byteLen t₁ + m ∧ n = byteLen c₁ + m

/-- The offset `k` of the edited text lies in a text that a stored edit has put in, or at an end of
one. -/
def PutIn (content : Text) (es : List OffsetEdit) (t : Text) (k : Nat) : Prop :=
  ∃ front e rear c₁ c₂ t₁ t₂, es = front ++ e :: rear ∧ content = c₁ ++ c₂ ∧
    t = t₁ ++ (e.text ++ t₂) ∧ Writes 0 c₁ front t₁ ∧
    Writes (byteLen c₁) c₂ (e :: rear) (e.text ++ t₂) ∧ e.start = byteLen c₁ ∧
    byteLen t₁ ≤ k ∧ k ≤ byteLen t₁ + byteLen e.text

/-- A place in front of the edits left is kept. -/
theorem Writes.kept (h₁ : Writes 0 c₁ passed t₁) (h₂ : Writes (byteLen c₁) c₂ left t₂)
    (hk : InGap (byteLen c₁) k left t₂) :
    Kept (c₁ ++ c₂) (passed ++ left) (t₁ ++ t₂) (byteLen t₁ + k) (byteLen c₁ + k) := by
  obtain ⟨gap, c', t', rfl, rfl, hle, h₂⟩ := h₂.exists_gap hk
  exact ⟨passed, left, c₁, gap, c', t₁, t', rfl, rfl, rfl, h₁, h₂, k, hle, rfl, rfl⟩

/-- A place in the text of the next edit is put in. -/
theorem Writes.putIn (h₁ : Writes 0 c₁ passed t₁) (h₂ : Writes (byteLen c₁) c₂ (e :: left) t₂)
    (hstart : Anchor.startOf ⟨byteLen c₁, byteLen t₁⟩ e ≤ k)
    (hstop : k ≤ (Anchor.past ⟨byteLen c₁, byteLen t₁⟩ e).current) :
    PutIn (c₁ ++ c₂) (passed ++ e :: left) (t₁ ++ t₂) k := by
  obtain ⟨gap, replaced, rest, out, rfl, rfl, hestart, hestop, h⟩ := h₂
  simp only [Anchor.past, Anchor.startOf, hestart] at hstart hstop
  refine ⟨passed, e, left, c₁ ++ gap, replaced ++ rest, t₁ ++ gap, out, rfl, by simp, by simp,
    h₁.append_gap gap, ⟨[], replaced, rest, out, rfl, rfl, by simpa using hestart,
      by simpa using hestop, h⟩, by simpa using hestart, ?_, ?_⟩
  · rw [byteLen_append]
    omega
  · rw [byteLen_append]
    omega

/-- A place that is kept is a boundary of the one text if it is one of the other. -/
theorem Kept.isBoundary_eq (h : Kept content es t k n) : isBoundary t k = isBoundary content n := by
  obtain ⟨front, rear, c₁, g, c₂, t₁, t₂, rfl, rfl, rfl, -, -, m, hm, rfl, rfl⟩ := h
  rw [isBoundary_append_add, isBoundary_append_of_le hm, isBoundary_append_add,
    isBoundary_append_of_le hm]

theorem Kept.eq_of_checkOffset (h : Kept content es t k n)
    (herror : checkOffset content n = .error error) :
    error = .notCharBoundary n ∧ isBoundary t k = false := by
  rw [h.isBoundary_eq]
  obtain ⟨front, rear, c₁, g, c₂, t₁, t₂, rfl, rfl, rfl, -, -, m, hm, rfl, rfl⟩ := h
  exact eq_of_checkOffset_eq_error (by simp only [byteLen_append]; omega) herror

/-- One of two offsets cuts a character of the edited text, and the error names it. -/
inductive Cuts (content : Text) (es : List OffsetEdit) (t : Text) (start stop : Nat) :
    TextError → Prop where
  | kept (k n : Nat) (hend : k = start ∨ k = stop) (hcut : isBoundary t k = false)
      (h : Kept content es t k n) : Cuts content es t start stop (.notCharBoundary n)
  | putIn (k : Nat) (hend : k = start ∨ k = stop) (hcut : isBoundary t k = false)
      (h : PutIn content es t k) : Cuts content es t start stop (.notCharBoundary k)

/-! ## Merging

A merge makes four checks in turn.  The first two are made on the base text, on the ends of the
region, and the others on the region, on the ends of the new edit.  If the new edit reaches beyond
the touched edits then its end is the end of the region, which lies in a gap: it has been checked in
the base text, and is named by its offset there.  If it does not then its end lies in the text of
the first touched edit, or of the last one, and the check on the region finds it, by its offset in
the edited text. -/

/-- An edit that stops where the text does is the last one, and its text ends the edited text. -/
theorem Writes.exists_last {base : Nat} (h : Writes base c es t)
    (hsep : es.Pairwise fun e f ↦ e.stop < f.start) (he : e ∈ es)
    (hstop : e.stop = base + byteLen c) : ∃ init c' replaced t', es = init ++ [e] ∧
      c = c' ++ replaced ∧ t = t' ++ e.text ∧ Writes base c' init t' ∧
      e.start = base + byteLen c' ∧ e.stop = base + byteLen c' + byteLen replaced := by
  induction es generalizing base c t with
  | nil => cases he
  | cons f es ih =>
    obtain ⟨gap, replaced, rest, out, rfl, rfl, hfstart, hfstop, h⟩ := h
    obtain ⟨hf, hsep⟩ := List.pairwise_cons.1 hsep
    have hstop' : e.stop = f.stop + byteLen rest := by
      rw [hstop, hfstop]
      simp only [byteLen_append]
      omega
    rcases List.mem_cons.1 he with rfl | he
    · -- nothing is left behind the edit, neither text nor edits
      obtain rfl : rest = [] := byteLen_eq_zero.1 (by omega)
      cases es with
      | nil =>
        obtain rfl : out = [] := h
        exact ⟨[], gap, replaced, gap, rfl, by simp, by simp, rfl, hfstart, hfstop⟩
      | cons g es =>
        have hlt := hf g List.mem_cons_self
        have hle := h.le_of_mem List.mem_cons_self
        simp only [byteLen_nil] at hle
        omega
    · obtain ⟨init, c', replaced', t', rfl, rfl, rfl, hinit, hestart, hestop⟩ := ih h hsep he hstop'
      refine ⟨f :: init, gap ++ (replaced ++ c'), replaced', gap ++ (f.text ++ t'), rfl, by simp,
        by simp, ⟨gap, replaced, c', t', rfl, rfl, hfstart, hfstop, hinit⟩, ?_, ?_⟩
      · simp only [byteLen_append]
        omega
      · simp only [byteLen_append]
        omega

section Merging

variable (ha : Around start stop passed (head :: touched) left c₁ c₂ c₃ t₁ t₂ t₃)

include ha

theorem Around.kept_front (hk : InGap (byteLen c₁) k (head :: touched) t₂) :
    Kept (c₁ ++ (c₂ ++ c₃)) (passed ++ (head :: touched ++ left)) (t₁ ++ (t₂ ++ t₃))
      (byteLen t₁ + k) (byteLen c₁ + k) := by
  refine ha.front.kept (ha.middle.append ha.rear) ⟨?_, hk.2⟩
  have := hk.1
  rw [byteLen_append]
  omega

theorem Around.kept_rear (hk : InGap (byteLen c₁ + byteLen c₂) k left t₃) :
    Kept (c₁ ++ (c₂ ++ c₃)) (passed ++ (head :: touched ++ left)) (t₁ ++ (t₂ ++ t₃))
      (byteLen t₁ + byteLen t₂ + k) (byteLen c₁ + byteLen c₂ + k) := by
  have hfront : Writes 0 (c₁ ++ c₂) (passed ++ head :: touched) (t₁ ++ t₂) :=
    ha.front.append (by rw [Nat.zero_add]; exact ha.middle)
  rw [← byteLen_append] at hk
  have hkept := hfront.kept (by rw [byteLen_append]; exact ha.rear) hk
  simpa only [List.append_assoc, byteLen_append] using hkept

/-- The boundaries of the region are those of the part of the edited text that it is. -/
theorem Around.isBoundary_region {l m : Nat} (hk : InGap (byteLen c₁) k (head :: touched) t₂)
    (hl : InGap (byteLen c₁ + byteLen c₂) l left t₃)
    (hbk : isBoundary (c₁ ++ (c₂ ++ c₃)) (byteLen c₁ + k) = true)
    (hbl : isBoundary (c₁ ++ (c₂ ++ c₃)) (byteLen c₁ + byteLen c₂ + l) = true)
    (hm : byteLen t₁ + k ≤ m) (hm' : m ≤ byteLen t₁ + byteLen t₂ + l) :
    (renderBetween (c₁ ++ (c₂ ++ c₃)) (byteLen c₁ + k) (byteLen c₁ + byteLen c₂ + l)
      (head :: touched)).isBoundary (m - (byteLen t₁ + k)) = isBoundary (t₁ ++ (t₂ ++ t₃)) m := by
  obtain ⟨p, x, s, q, r, u, hc, ht, hstart, hstop, hstart', hstop', hwrites⟩ :=
    ha.exists_region hk hl hbk hbl
  rw [hc, ht, hstart, hstop, hstart', hwrites.renderBetween rfl rfl,
    isBoundary_middle (by omega) (by omega)]

theorem Around.putIn_start (hle : Anchor.startOf ⟨byteLen c₁, byteLen t₁⟩ head ≤ start)
    (hpast : start ≤ (Anchor.past ⟨byteLen c₁, byteLen t₁⟩ head).current) :
    PutIn (c₁ ++ (c₂ ++ c₃)) (passed ++ (head :: touched ++ left)) (t₁ ++ (t₂ ++ t₃)) start :=
  ha.front.putIn (ha.middle.append ha.rear) hle hpast

theorem Around.putIn_stop (hsep : (head :: touched).Pairwise fun e f ↦ e.stop < f.start)
    (he : e ∈ head :: touched) {a : Anchor} (hle : a.startOf e ≤ stop)
    (hpast : a.past e = ⟨byteLen c₁ + byteLen c₂, byteLen t₁ + byteLen t₂⟩)
    (hstop : stop ≤ byteLen t₁ + byteLen t₂) :
    PutIn (c₁ ++ (c₂ ++ c₃)) (passed ++ (head :: touched ++ left)) (t₁ ++ (t₂ ++ t₃)) stop := by
  obtain ⟨hbase, hcurrent⟩ := Anchor.mk.inj hpast
  obtain ⟨init, c', replaced, t', hinit, rfl, rfl, hwrites, hestart, hestop⟩ :=
    ha.middle.exists_last hsep he hbase
  have hfront : Writes 0 (c₁ ++ c') (passed ++ init) (t₁ ++ t') :=
    ha.front.append (by rw [Nat.zero_add]; exact hwrites)
  have hrear : Writes (byteLen (c₁ ++ c')) (replaced ++ c₃) (e :: left) (e.text ++ t₃) := by
    refine ⟨[], replaced, c₃, t₃, rfl, rfl, by simpa using hestart, by simpa using hestop, ?_⟩
    rw [hbase]
    exact ha.rear
  have hputIn := hfront.putIn hrear (k := stop)
  simp only [Anchor.startOf, Anchor.past, hestart, byteLen_append] at hputIn hle hcurrent hstop
  rw [hinit]
  simpa only [List.append_assoc, List.singleton_append] using hputIn (by omega) (by omega)

/-- **A merge is refused for an end that cuts a character.**  The checks in front of the region look
at places that are kept; what is left for the region are places that are put in. -/
theorem Around.cuts_of_merge
    (htracked : Tracked (c₁ ++ (c₂ ++ c₃)) (passed ++ (head :: touched ++ left))
      (t₁ ++ (t₂ ++ t₃)))
    (hle : start ≤ stop) (hstop : stop ≤ byteLen t₁ + byteLen t₂ + byteLen t₃)
    (hhead : start ≤ (Anchor.past ⟨byteLen c₁, byteLen t₁⟩ head).current)
    (hlast : ∃ a : Anchor, ∃ e ∈ head :: touched, a.startOf e ≤ stop ∧
      a.past e = ⟨byteLen c₁ + byteLen c₂, byteLen t₁ + byteLen t₂⟩)
    (herror : merge (c₁ ++ (c₂ ++ c₃)) ⟨byteLen c₁, byteLen t₁⟩
      ⟨byteLen c₁ + byteLen c₂, byteLen t₁ + byteLen t₂⟩ head touched start stop text
        = .error error) :
    Cuts (c₁ ++ (c₂ ++ c₃)) (passed ++ (head :: touched ++ left)) (t₁ ++ (t₂ ++ t₃)) start stop
      error := by
  obtain ⟨k, hk, hkgap, hkle, hkend⟩ := exists_left_end ha.middle ha.le_start
  obtain ⟨l, hl, hlgap, hlle, hlend⟩ :=
    exists_right_end (a := ⟨byteLen c₁ + byteLen c₂, byteLen t₁ + byteLen t₂⟩) hstop
      fun e he ↦ ha.lt_of_mem (List.mem_of_mem_head? he)
  simp only at hlgap hlle hlend
  have hkept := ha.kept_front hkgap
  have hkept' := ha.kept_rear hlgap
  simp only [merge, hk, hl] at herror
  rcases exists_of_bind_eq_error herror with hcheck | ⟨_, hcheck, herror⟩
  · obtain ⟨rfl, hcut⟩ := hkept.eq_of_checkOffset hcheck
    rcases hkend with hkend | hkend
    · exact .kept _ _ (.inl hkend) hcut hkept
    · -- the start of an edit is a boundary
      have hsound := (htracked.writes.sound head (by simp)).start
      rw [← hkend] at hsound
      cases hcheck.symm.trans (checkOffset_of_isBoundary hsound)
  rcases exists_of_bind_eq_error herror with hcheck' | ⟨_, hcheck', herror⟩
  · obtain ⟨rfl, hcut⟩ := hkept'.eq_of_checkOffset hcheck'
    rcases hlend with hlend | rfl
    · exact .kept _ _ (.inr hlend) hcut hkept'
    · -- so is the place behind the last edit
      have hsound : isBoundary ((c₁ ++ c₂) ++ c₃) (byteLen (c₁ ++ c₂)) = true :=
        isBoundary_append_byteLen _ _
      rw [List.append_assoc, byteLen_append] at hsound
      cases hcheck'.symm.trans (checkOffset_of_isBoundary hsound)
  have hbk := checkOffset_eq_ok_iff.1 hcheck
  have hbl := checkOffset_eq_ok_iff.1 hcheck'
  split at herror
  · next hcut =>
    cases herror
    rw [Bool.not_eq_true', ha.isBoundary_region hkgap hlgap hbk hbl hkle (by omega)] at hcut
    refine .putIn start (.inl rfl) hcut (ha.putIn_start ?_ hhead)
    rcases hkend with hkend | hkend
    · rw [← hkend, hkept.isBoundary_eq, hbk] at hcut
      cases hcut
    · rw [Anchor.startOf, ← hkend]
      show byteLen t₁ + (byteLen c₁ + k - byteLen c₁) ≤ start
      omega
  · split at herror
    · next hcut =>
      cases herror
      rw [Bool.not_eq_true', ha.isBoundary_region hkgap hlgap hbk hbl (by omega) hlle] at hcut
      obtain ⟨a, e, he, hae, hpast⟩ := hlast
      have hsep := (List.pairwise_append.1 (List.pairwise_append.1 htracked.separated).2.1).1
      refine .putIn stop (.inr rfl) hcut (ha.putIn_stop hsep he hae hpast ?_)
      rcases hlend with hlend | rfl
      · rw [← hlend, hkept'.isBoundary_eq, hbl] at hcut
        cases hcut
      · exact hlle
    · cases herror

end Merging

/-! ## Rebasing -/

/-- **An edit of the edited text is refused for an end that cuts a character.** -/
theorem Tracked.cuts_of_rebase (h : Tracked content es t) (hle : start ≤ stop)
    (hstop : stop ≤ byteLen t)
    (herror : OffsetEdit.rebase content es start stop text = .error error) :
    Cuts content es t start stop error := by
  obtain ⟨passed, touched, left, c₁, c₂, c₃, t₁, t₂, t₃, rfl, rfl, rfl, ha, hw, hw'⟩ :=
    exists_around h.writes start stop
  have hstop' : stop ≤ byteLen t₁ + byteLen t₂ + byteLen t₃ := by
    simpa [Nat.add_assoc] using hstop
  rw [OffsetEdit.rebase_eq, hw] at herror
  simp only [hw'] at herror
  cases touched with
  | nil =>
    obtain ⟨-, rfl, rfl⟩ : [] = ([] : List OffsetEdit) ∧ c₂ = [] ∧ t₂ = [] := by
      simpa using ha.touching
    have hkept : ∀ k, byteLen t₁ ≤ k → k ≤ stop →
        Kept (c₁ ++ c₃) (passed ++ left) (t₁ ++ t₃) k
          (Anchor.toBase ⟨byteLen c₁, byteLen t₁⟩ k) := by
      intro k hk hks
      have hkept := ha.front.kept (k := k - byteLen t₁) ha.rear ⟨?_, fun e he ↦ ?_⟩
      · rwa [Nat.add_sub_cancel' hk] at hkept
      · rw [byteLen_nil] at hstop'
        omega
      · have hlt := ha.lt_of_mem (List.mem_of_mem_head? he)
        rw [byteLen_nil] at hlt
        omega
    have hstart := hkept start ha.le_start hle
    have hend := hkept stop (Nat.le_trans ha.le_start hle) (Nat.le_refl _)
    rcases exists_of_bind_eq_error herror with hcheck | ⟨_, -, herror⟩
    · obtain ⟨rfl, hcut⟩ := hstart.eq_of_checkOffset hcheck
      exact .kept _ _ (.inl rfl) hcut hstart
    · rcases exists_of_bind_eq_error herror with hcheck | ⟨_, -, herror⟩
      · obtain ⟨rfl, hcut⟩ := hend.eq_of_checkOffset hcheck
        exact .kept _ _ (.inr rfl) hcut hend
      · cases herror
  | cons head touched =>
    rcases exists_of_bind_eq_error herror with hmerge | ⟨m, -, hm⟩
    · refine ha.cuts_of_merge h hle hstop' ?_ ?_ hmerge
      · have := walkWhile_head hw head rfl
        simpa using this
      · rcases walkWhile_anchor hw' with ⟨hnil, -⟩ | ⟨a, e, he, hae, hpast⟩
        · cases hnil
        · exact ⟨a, e, he, of_decide_eq_true hae, hpast.symm⟩
    · cases hm

/-! ## Edits that keep lengths

An offset of the edited text and the one in the base text differ by what the edits in front have
added or taken away.  If each of them has put in as much as it took out, they do not differ at
all. -/

theorem Writes.byteLen_eq {base : Nat} (h : Writes base c es t)
    (hes : ∀ e ∈ es, byteLen e.text = e.stop - e.start) : byteLen t = byteLen c := by
  induction es generalizing base c t with
  | nil => exact congrArg byteLen h
  | cons e es ih =>
    obtain ⟨gap, replaced, rest, out, rfl, rfl, hstart, hstop, h⟩ := h
    obtain ⟨he, hes⟩ := List.forall_mem_cons.1 hes
    have hrest := ih h hes
    simp only [byteLen_append]
    omega

/-- Where no stored edit has changed a length, both texts have the same offsets. -/
theorem Kept.eq_of_byteLen_eq (h : Kept content es t k n)
    (hes : ∀ e ∈ es, byteLen e.text = e.stop - e.start) : n = k := by
  obtain ⟨front, rear, c₁, g, c₂, t₁, t₂, rfl, rfl, rfl, hfront, -, m, -, rfl, rfl⟩ := h
  rw [hfront.byteLen_eq fun e he ↦ hes e (List.mem_append_left _ he)]

end OffsetEdit

/-! ## Sessions -/

namespace DocumentEdits

open OffsetEdit

variable {d : DocumentEdits} {t : Text} {e : OffsetEdit} {error : EditError}

/-- Why an accumulator that follows the text `t` refuses an edit of it. -/
inductive Refuses (d : DocumentEdits) (t : Text) (e : OffsetEdit) : EditError → Prop where
  | inverted (h : e.stop < e.start) :
      Refuses d t e (.outOfRange (.invertedRange e.start e.stop))
  | beyond (hle : e.start ≤ e.stop) (h : byteLen t < e.stop) :
      Refuses d t e (.outOfRange (.offsetOutOfRange e.stop (byteLen t)))
  | cuts (hle : e.start ≤ e.stop) (hstop : e.stop ≤ byteLen t) (error : TextError)
      (h : Cuts d.document.content d.edits t e.start e.stop error) :
      Refuses d t e (.outOfRange error)

theorem Follows.refuses (h : d.Follows t)
    (herror : d.replace e.start e.stop e.text = .error error) : d.Refuses t e error := by
  rw [DocumentEdits.replace_eq] at herror
  obtain ⟨textError, hreplace, rfl⟩ := exists_of_mapError_eq_error herror
  split at hreplace
  · next hlt =>
    cases hreplace
    exact .inverted hlt
  · next hle =>
    rw [if_pos h.tracked, DocumentEdits.replaceTracked_eq, h.currentLen] at hreplace
    split at hreplace
    · next hlt =>
      cases hreplace
      exact .beyond (Nat.le_of_not_lt hle) hlt
    · next hstop =>
      split at hreplace
      · cases hreplace
      · rcases exists_of_bind_eq_error hreplace with hrebase | ⟨es, -, hes⟩
        · have hle := Nat.le_of_not_lt hle
          have hstop := Nat.le_of_not_lt hstop
          exact .cuts hle hstop textError (h.store.cuts_of_rebase hle hstop hrebase)
        · cases hes

/-- **Why a call of a session is refused.**  With `t` the edited text so far, the range of the call
is inverted, or it stops beyond `t`, or an end of it cuts a character of `t`.  The error names the
end and the length of `t`, but for an end that cuts a character which stands in the base text as
well: that one is named by its offset there.  If no stored edit has changed a length, it is the
offset that was asked for. -/
theorem session_refuses (document : Snapshot) (calls : List EditCall) :
    ∃ t, (session document calls).apply = .ok t ∧ ∀ (c : EditCall) (error : EditError),
      c.perform (session document calls) = .error error →
        (session document calls).Refuses t c.edit error ∧
        ∀ n, error = .outOfRange (.notCharBoundary n) →
          (∀ e ∈ (session document calls).edits, byteLen e.text = e.stop - e.start) →
          (n = c.edit.start ∨ n = c.edit.stop) ∧ isBoundary t n = false := by
  have h := follows_session document calls
  refine ⟨_, h.apply, fun c error herror ↦ ?_⟩
  rw [c.perform_eq] at herror
  have hrefuses := h.refuses herror
  refine ⟨hrefuses, fun n hn hes ↦ ?_⟩
  cases hrefuses with
  | inverted hlt => cases hn
  | beyond hle hlt => cases hn
  | cuts hle hstop error hcuts =>
    obtain rfl := EditError.outOfRange.inj hn
    cases hcuts with
    | kept k n hend hcut hkept =>
      obtain rfl := hkept.eq_of_byteLen_eq hes
      exact ⟨hend, hcut⟩
    | putIn k hend hcut hputIn => exact ⟨hend, hcut⟩

/-- Behind two bytes that were put in, the end that cuts a character is named by an offset that was
not asked for, and that is a boundary of the edited text. -/
theorem session_refuses_in_base_offsets :
    let d := session (.unversioned "file:///a" ['a', 'é']) [.insert 0 ['x', 'x']]
    let t : Text := ['x', 'x', 'a', 'é']
    d.apply = .ok t ∧
      (EditCall.insert 4 ['y']).perform d = .error (.outOfRange (.notCharBoundary 2)) ∧
      isBoundary t 4 = false ∧ isBoundary t 2 = true :=
  ⟨(apply_session _ _).trans rfl, rfl, rfl, rfl⟩

end DocumentEdits

end Emend
