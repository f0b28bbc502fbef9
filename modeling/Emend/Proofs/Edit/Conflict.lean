import Emend.Proofs.Edit.Rendering

/-!
# Edits that get in each other's way

Edits that all address one text can be carried out at once if no two of them overlap
(`OffsetEdit.Overlaps`).  Looking at neighbours is enough to tell, once the edits are sorted:

* `OffsetEdit.exists_inOrder_iff` says that edits can be put in order exactly if no two of them
  overlap, wherever they stand in the list.
* `OffsetEdit.overlaps_of_inOrder_eq_error` says that the two edits of a refusal do overlap.

An insertion has no extent, so whether it overlaps another edit is a matter of convention.  Here it
does not if it only touches the edit, on either side, and two insertions at one place do not overlap
either.  All of this is in the two strict inequalities of `OffsetEdit.Overlaps`;
`OffsetEdit.overlaps_of_covers` relates them to the plainer condition that both edits replace the
same byte.
-/

set_option autoImplicit false

namespace Emend.OffsetEdit

variable {e f : OffsetEdit} {es fs : List OffsetEdit}

/-- Each of two edits starts before the other one stops, so neither can go first.  An insertion
overlaps an edit that it lies strictly inside, and no edit that it only touches. -/
def Overlaps (e f : OffsetEdit) : Prop := e.start < f.stop ∧ f.start < e.stop

instance (e f : OffsetEdit) : Decidable (e.Overlaps f) :=
  inferInstanceAs (Decidable (e.start < f.stop ∧ f.start < e.stop))

theorem Overlaps.symm (h : e.Overlaps f) : f.Overlaps e := ⟨h.2, h.1⟩

theorem not_overlaps_of_le (h : e.stop ≤ f.start) : ¬ e.Overlaps f :=
  fun hoverlaps ↦ Nat.not_lt_of_le h hoverlaps.2

/-- An edit replaces the byte at an offset. -/
def Covers (e : OffsetEdit) (n : Nat) : Prop := e.start ≤ n ∧ n < e.stop

theorem overlaps_of_covers {n : Nat} (he : e.Covers n) (hf : f.Covers n) : e.Overlaps f :=
  ⟨Nat.lt_of_le_of_lt he.1 hf.2, Nat.lt_of_le_of_lt hf.1 he.2⟩

theorem isNoop_of_covers {n : Nat} (h : e.Covers n) : e.isNoop = false := by
  have hlt : e.start < e.stop := Nat.lt_of_le_of_lt h.1 h.2
  simp [isNoop, Nat.ne_of_lt hlt]

/-! ## The order of places

Edits are compared by where they start and then by where they stop.  Of two edits in this order, the
second one cannot stop before the first one starts, so they overlap exactly if the second one starts
before the first one stops; this is what is looked at in neighbours. -/

theorem precedes_iff :
    e.precedes f = true ↔ e.start < f.start ∨ e.start = f.start ∧ e.stop ≤ f.stop := by
  simp [precedes]

theorem precedes_trans (e f g : OffsetEdit) (hef : e.precedes f = true)
    (hfg : f.precedes g = true) : e.precedes g = true := by
  rw [precedes_iff] at *
  omega

theorem precedes_total (e f : OffsetEdit) : (e.precedes f || f.precedes e) = true := by
  rw [Bool.or_eq_true, precedes_iff, precedes_iff]
  omega

/-- Sorting puts each edit where it precedes all that follow. -/
theorem pairwise_mergeSort (es : List OffsetEdit) :
    (es.mergeSort precedes).Pairwise fun e f ↦ e.precedes f = true :=
  List.pairwise_mergeSort precedes_trans precedes_total es

/-- Of two edits in order, the second starts before the first stops only if they overlap. -/
theorem overlaps_iff_of_precedes (hef : e.precedes f = true) (hf : f.start ≤ f.stop) :
    e.Overlaps f ↔ f.start < e.stop := by
  rw [precedes_iff] at hef
  rw [Overlaps]
  omega

/-- The pair that is found stands in the list, in this order. -/
theorem sublist_of_overlap? (h : overlap? es = some (e, f)) :
    [e, f].Sublist es ∧ f.start < e.stop := by
  fun_induction overlap? es with
  | case1 a b rest hlt =>
    cases h
    exact ⟨((List.nil_sublist rest).cons_cons f).cons_cons e, hlt⟩
  | case2 a b rest _ ih =>
    obtain ⟨hsublist, hlt⟩ := ih h
    exact ⟨hsublist.cons a, hlt⟩
  | case3 => cases h

/-! ## Putting edits in order

That no two neighbours overlap is enough for no two edits to overlap, because the stops of edits
that do not overlap ascend with their starts. -/

theorem pairwise_not_overlaps_of_perm (h : fs.Perm es)
    (hfs : fs.Pairwise fun e f ↦ ¬ e.Overlaps f) : es.Pairwise fun e f ↦ ¬ e.Overlaps f :=
  (h.pairwise_iff fun hnot hoverlaps ↦ hnot hoverlaps.symm).1 hfs

/-- **Edits are refused for two of them that overlap.** -/
theorem overlaps_of_inOrder_eq_error (hes : ∀ e ∈ es, e.start ≤ e.stop)
    (h : inOrder es = .error (e, f)) :
    e ∈ es ∧ f ∈ es ∧ e.Overlaps f ∧ ¬ es.Pairwise fun e f ↦ ¬ e.Overlaps f := by
  have hperm := List.mergeSort_perm es precedes
  rw [inOrder] at h
  cases hoverlap : overlap? (es.mergeSort precedes) with
  | none => simp [hoverlap] at h
  | some pair =>
    obtain rfl : pair = (e, f) := by simpa [hoverlap] using h
    obtain ⟨hsublist, hlt⟩ := sublist_of_overlap? hoverlap
    have he : e ∈ es := hperm.mem_iff.1 (hsublist.subset (by simp))
    have hf : f ∈ es := hperm.mem_iff.1 (hsublist.subset (by simp))
    have hprecedes : e.precedes f = true := by
      simpa using (pairwise_mergeSort es).sublist hsublist
    have hoverlaps : e.Overlaps f := (overlaps_iff_of_precedes hprecedes (hes f hf)).2 hlt
    refine ⟨he, hf, hoverlaps, fun hapart ↦ ?_⟩
    -- the pair stands in the sorted list, so it stands in the given one in some order
    have hsorted := (pairwise_not_overlaps_of_perm hperm.symm hapart).sublist hsublist
    exact (List.pairwise_cons.1 hsorted).1 f List.mem_cons_self hoverlaps

/-- **Edits can be put in order exactly if no two of them overlap.** -/
theorem exists_inOrder_iff (hes : ∀ e ∈ es, e.start ≤ e.stop) :
    (∃ fs, inOrder es = .ok fs) ↔ es.Pairwise fun e f ↦ ¬ e.Overlaps f := by
  constructor
  · rintro ⟨fs, hfs⟩
    obtain ⟨hperm, hpairwise⟩ := pairwise_of_inOrder hes hfs
    exact pairwise_not_overlaps_of_perm hperm (hpairwise.imp not_overlaps_of_le)
  · intro hapart
    cases h : inOrder es with
    | ok fs => exact ⟨fs, rfl⟩
    | error pair => exact absurd hapart (overlaps_of_inOrder_eq_error hes h).2.2.2

end Emend.OffsetEdit
