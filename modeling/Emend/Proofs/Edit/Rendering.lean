import Emend.Edit.Accumulator
import Emend.Proofs.Text.Offset

/-!
# Carrying out edits in order

`OffsetEdit.Writes base c es t` says what a list of edits does without mentioning any arithmetic of
offsets: the text `c`, which stands from offset `base` on, falls into gaps and replaced parts, the
edits name the replaced parts in their order, and `t` is `c` with their texts put in.  Nearly all
that is proved about edits goes through it, because it is the one form in which a list of edits can
be taken apart anywhere and put together again.

* `Writes.append` puts two stretches behind one another.
* `Writes.inOrder` and `Writes.render` say that such a list is in order and renders to `t`, which
  gives `DocumentEdits.apply_of_writes`.
* `Writes.filter` leaves out the edits that change nothing.
* `OffsetEdit.exists_writes` goes the other way: it finds the text that edits write, if none of them
  cuts a character (`OffsetEdit.Sound`) and each stops before the next one starts.

The offset `base` is there for the induction.  The edits address the whole text, and behind the
first of them only a part of that is left; `base` is the length of what is gone.
-/

set_option autoImplicit false

namespace Emend

open Text

namespace OffsetEdit

/-- An edit runs forwards between two boundaries of a text. -/
structure Sound (t : Text) (e : OffsetEdit) : Prop where
  le : e.start ≤ e.stop
  start : isBoundary t e.start = true
  stop : isBoundary t e.stop = true

/-- The edits lie one behind the other in the text `c`, which starts at offset `base`, at
boundaries of it, and carrying them out gives the text `t`. -/
def Writes (base : Nat) (c : Text) : List OffsetEdit → Text → Prop
  | [], t => t = c
  | e :: es, t => ∃ gap replaced rest out,
      c = gap ++ (replaced ++ rest) ∧ t = gap ++ (e.text ++ out) ∧
      e.start = base + byteLen gap ∧ e.stop = base + byteLen gap + byteLen replaced ∧
      Writes e.stop rest es out

namespace Writes

variable {base : Nat} {c t : Text} {e : OffsetEdit} {es : List OffsetEdit}

/-- An unedited stretch in front. -/
theorem gap_append (g : Text) (h : Writes (base + byteLen g) c es t) :
    Writes base (g ++ c) es (g ++ t) := by
  cases es with
  | nil => exact congrArg (g ++ ·) h
  | cons e es =>
    obtain ⟨gap, replaced, rest, out, rfl, rfl, hstart, hstop, h⟩ := h
    refine ⟨g ++ gap, replaced, rest, out, by simp, by simp, ?_, ?_, h⟩
    · rw [hstart, byteLen_append, Nat.add_assoc]
    · rw [hstop, byteLen_append, ← Nat.add_assoc]

/-- Two stretches, one behind the other. -/
theorem append {c₂ t₂ : Text} {es₂ : List OffsetEdit} (h : Writes base c es t)
    (h₂ : Writes (base + byteLen c) c₂ es₂ t₂) : Writes base (c ++ c₂) (es ++ es₂) (t ++ t₂) := by
  induction es generalizing base c t with
  | nil => exact h ▸ gap_append c h₂
  | cons e es ih =>
    obtain ⟨gap, replaced, rest, out, rfl, rfl, hstart, hstop, h⟩ := h
    refine ⟨gap, replaced, rest ++ c₂, out ++ t₂, by simp, by simp, hstart, hstop, ih h ?_⟩
    rw [hstop]
    simpa only [byteLen_append, Nat.add_assoc] using h₂

/-- An unedited stretch behind. -/
theorem append_gap (g : Text) (h : Writes base c es t) : Writes base (c ++ g) es (t ++ g) := by
  have hgap : Writes (base + byteLen c) g [] g := rfl
  simpa using h.append hgap

/-! ## Where the edits lie -/

theorem le_of_mem {f : OffsetEdit} (h : Writes base c es t) (hf : f ∈ es) :
    base ≤ f.start ∧ f.start ≤ f.stop ∧ f.stop ≤ base + byteLen c := by
  induction es generalizing base c t with
  | nil => cases hf
  | cons e es ih =>
    obtain ⟨gap, replaced, rest, out, rfl, rfl, hstart, hstop, h⟩ := h
    simp only [byteLen_append]
    rcases List.mem_cons.1 hf with rfl | hf
    · omega
    · have := ih h hf
      omega

/-- Each edit stops before the next one starts. -/
theorem pairwise (h : Writes base c es t) : es.Pairwise fun e f ↦ e.stop ≤ f.start := by
  induction es generalizing base c t with
  | nil => exact .nil
  | cons e es ih =>
    obtain ⟨gap, replaced, rest, out, rfl, rfl, hstart, hstop, h⟩ := h
    exact .cons (fun f hf ↦ (le_of_mem h hf).1) (ih h)

/-- The ends of an edit are boundaries of the text. -/
theorem isBoundary_ends {p s : Text} {f : OffsetEdit} (h : Writes base c es t)
    (hp : byteLen p = base) (hf : f ∈ es) :
    isBoundary (p ++ (c ++ s)) f.start = true ∧ isBoundary (p ++ (c ++ s)) f.stop = true := by
  induction es generalizing base c t p with
  | nil => cases hf
  | cons e es ih =>
    obtain ⟨gap, replaced, rest, out, rfl, rfl, hstart, hstop, h⟩ := h
    rcases List.mem_cons.1 hf with rfl | hf
    · refine ⟨isBoundary_iff.2 ⟨p ++ gap, replaced ++ (rest ++ s), by simp, by simp [hstart, hp]⟩,
        isBoundary_iff.2 ⟨p ++ gap ++ replaced, rest ++ s, by simp, ?_⟩⟩
      simp [hstop, hp, Nat.add_assoc]
    · simpa using ih (p := p ++ gap ++ replaced) h (by simp [hstop, hp, Nat.add_assoc]) hf

theorem sound (h : Writes 0 c es t) : ∀ e ∈ es, e.Sound c := by
  intro e he
  have hends := h.isBoundary_ends (p := []) (s := []) rfl he
  rw [List.nil_append, List.append_nil] at hends
  exact ⟨(h.le_of_mem he).2.1, hends.1, hends.2⟩

/-! ## Rendering

Rendering walks along the edits with a cursor in the whole text, while `Writes` goes down into the
part behind the first edit.  So the lemma on rendering leaves open what stands in front of that part
and behind it, and is by induction on the edits for all such surroundings. -/

theorem overlap?_eq_none {es : List OffsetEdit} (h : es.Pairwise fun e f ↦ e.stop ≤ f.start) :
    overlap? es = none := by
  induction es with
  | nil => rfl
  | cons e es ih =>
    obtain ⟨he, hes⟩ := List.pairwise_cons.1 h
    cases es with
    | nil => rfl
    | cons f es =>
      have := he f List.mem_cons_self
      rw [overlap?, if_neg (by omega)]
      exact ih hes

/-- Edits that lie one behind the other need no sorting. -/
theorem inOrder (h : Writes base c es t) : OffsetEdit.inOrder es = .ok es := by
  have hsorted : es.Pairwise fun e f ↦ precedes e f = true := by
    refine h.pairwise.imp_of_mem fun {e f} he hf hef ↦ ?_
    have h1 := le_of_mem h he
    have h2 := le_of_mem h hf
    simp only [precedes, Bool.or_eq_true, Bool.and_eq_true, decide_eq_true_eq]
    omega
  rw [OffsetEdit.inOrder, List.mergeSort_of_pairwise hsorted]
  simp only [overlap?_eq_none h.pairwise]

/-- The rendered text between two offsets, where more text may stand on both sides. -/
theorem renderBetween {p s : Text} {stop : Nat} (h : Writes base c es t) (hp : byteLen p = base)
    (hstop : stop = base + byteLen c) :
    OffsetEdit.renderBetween (p ++ (c ++ s)) base stop es = t := by
  induction es generalizing base c t p with
  | nil =>
    rw [OffsetEdit.renderBetween, between_append p c s hp.symm (by rw [hstop, hp])]
    exact h.symm
  | cons e es ih =>
    obtain ⟨gap, replaced, rest, out, rfl, rfl, hestart, hestop, h⟩ := h
    have htail : OffsetEdit.renderBetween (p ++ (gap ++ (replaced ++ rest) ++ s)) e.stop stop es
        = out := by
      have := ih (p := p ++ gap ++ replaced) h (by simp [hestop, hp, Nat.add_assoc])
        (by rw [hstop, hestop]; simp [Nat.add_assoc])
      simpa using this
    have hgap : between (p ++ (gap ++ (replaced ++ rest) ++ s)) base e.start = gap := by
      have hstart' : e.start = byteLen p + byteLen gap := by rw [hestart, hp]
      have := between_append p gap (replaced ++ rest ++ s) hp.symm hstart'
      simpa using this
    rw [OffsetEdit.renderBetween, htail, hgap, List.append_assoc]

theorem render (h : Writes 0 c es t) : OffsetEdit.render c es = t := by
  have := h.renderBetween (p := []) (s := []) rfl (Nat.zero_add _).symm
  simpa [OffsetEdit.render] using this

/-! ## Edits that change nothing -/

/-- Edits that replace nothing by nothing can be left out. -/
theorem filter (h : Writes base c es t) : Writes base c (es.filter fun e ↦ !e.isNoop) t := by
  induction es generalizing base c t with
  | nil => exact h
  | cons e es ih =>
    obtain ⟨gap, replaced, rest, out, rfl, rfl, hstart, hstop, h⟩ := h
    by_cases hnoop : e.isNoop = true
    · rw [List.filter_cons_of_neg (by simp [hnoop])]
      rw [isNoop, Bool.and_eq_true, decide_eq_true_eq, List.isEmpty_iff] at hnoop
      obtain rfl : replaced = [] := byteLen_eq_zero.1 (by omega)
      rw [hnoop.2, List.nil_append, List.nil_append]
      refine gap_append gap ?_
      have := ih h
      rwa [hstop, byteLen_nil, Nat.add_zero] at this
    · rw [List.filter_cons_of_pos (by simp [hnoop])]
      exact ⟨gap, replaced, rest, out, rfl, rfl, hstart, hstop, ih h⟩

end Writes

/-! ## Sound edits

The other direction.  Of edits that are given by their offsets it is known that each runs between
two boundaries, and that each stops before the next one starts, and the pieces have to be found: the
text is cut at the two ends of the first edit, and then what is left of it. -/

section Sound

variable {base : Nat} {c p : Text} {es fs : List OffsetEdit}

/-- **Sound edits write a text**, if each stops before the next one starts.  By induction on the
edits: what stands in front of the offset `base` is passed already. -/
theorem exists_writes_from (hp : byteLen p = base) (hes : ∀ e ∈ es, e.Sound (p ++ c))
    (hbase : ∀ e ∈ es, base ≤ e.start) (horder : es.Pairwise fun e f ↦ e.stop ≤ f.start) :
    ∃ t, Writes base c es t := by
  induction es generalizing base c p with
  | nil => exact ⟨c, rfl⟩
  | cons e es ih =>
    obtain ⟨he, hes⟩ := List.forall_mem_cons.1 hes
    obtain ⟨hnext, horder⟩ := List.pairwise_cons.1 horder
    obtain ⟨k, hk⟩ := Nat.exists_eq_add_of_le (hbase e List.mem_cons_self)
    obtain ⟨l, hl⟩ := Nat.exists_eq_add_of_le he.le
    have hstart := he.start
    rw [hk, ← hp, isBoundary_append_add] at hstart
    obtain ⟨gap, c, rfl, rfl⟩ := isBoundary_iff.1 hstart
    have hstop := he.stop
    rw [hl, hk, ← hp, Nat.add_assoc, isBoundary_append_add, isBoundary_append_add] at hstop
    obtain ⟨replaced, rest, rfl, rfl⟩ := isBoundary_iff.1 hstop
    have hpassed : byteLen (p ++ gap ++ replaced) = e.stop := by
      simp [hl, hk, hp, Nat.add_assoc]
    obtain ⟨out, hout⟩ := ih (p := p ++ gap ++ replaced) (c := rest) hpassed
      (fun f hf ↦ by simpa using hes f hf) hnext horder
    exact ⟨_, gap, replaced, rest, out, rfl, rfl, hk, by rw [hl, hk], hout⟩

theorem exists_writes (hes : ∀ e ∈ es, e.Sound c)
    (horder : es.Pairwise fun e f ↦ e.stop ≤ f.start) : ∃ t, Writes 0 c es t :=
  exists_writes_from (p := []) rfl hes (fun _ _ ↦ Nat.zero_le _) horder

/-- Where neighbours do not overlap, no two edits do. -/
theorem pairwise_of_overlap? (hes : ∀ e ∈ es, e.start ≤ e.stop) (h : overlap? es = none) :
    es.Pairwise fun e f ↦ e.stop ≤ f.start := by
  induction es with
  | nil => exact .nil
  | cons e es ih =>
    obtain ⟨-, hes⟩ := List.forall_mem_cons.1 hes
    cases es with
    | nil => exact List.pairwise_singleton _ e
    | cons f es =>
      rw [overlap?] at h
      split at h
      · cases h
      have hrest := ih hes h
      refine .cons (fun g hg ↦ ?_) hrest
      rcases List.mem_cons.1 hg with rfl | hg
      · omega
      · have hf := hes f List.mem_cons_self
        have hfg := (List.pairwise_cons.1 hrest).1 g hg
        omega

/-- Edits in order stand one behind the other. -/
theorem pairwise_of_inOrder (hes : ∀ e ∈ es, e.start ≤ e.stop)
    (h : OffsetEdit.inOrder es = .ok fs) :
    fs.Perm es ∧ fs.Pairwise fun e f ↦ e.stop ≤ f.start := by
  have hperm := List.mergeSort_perm es precedes
  rw [OffsetEdit.inOrder] at h
  cases hoverlap : overlap? (es.mergeSort precedes) with
  | some pair => simp [hoverlap] at h
  | none =>
    obtain rfl : es.mergeSort precedes = fs := by simpa [hoverlap] using h
    exact ⟨hperm, pairwise_of_overlap? (fun e he ↦ hes e (hperm.mem_iff.1 he)) hoverlap⟩

/-- **Sound edits that can be put in order write the text that they render to.** -/
theorem Writes.of_inOrder (h : OffsetEdit.inOrder es = .ok fs) (hes : ∀ e ∈ es, e.Sound c) :
    fs.Perm es ∧ Writes 0 c fs (OffsetEdit.render c fs) := by
  obtain ⟨hperm, hpairwise⟩ := pairwise_of_inOrder (fun e he ↦ (hes e he).le) h
  obtain ⟨t, ht⟩ := exists_writes (fun e he ↦ hes e (hperm.mem_iff.1 he)) hpairwise
  exact ⟨hperm, ht.render ▸ ht⟩

end Sound

end OffsetEdit

/-! ## Accumulated edits -/

namespace DocumentEdits

open OffsetEdit

variable {d : DocumentEdits} {t : Text}

theorem inOrder_of_writes (h : Writes 0 d.document.content d.edits t) :
    d.inOrder = .ok d.edits := by
  rw [inOrder, h.inOrder]
  rfl

/-- **Stored edits that write a text are applied to give it.** -/
theorem apply_of_writes (h : Writes 0 d.document.content d.edits t) : d.apply = .ok t := by
  rw [apply, inOrder_of_writes h]
  exact congrArg Except.ok h.render

end DocumentEdits

end Emend
