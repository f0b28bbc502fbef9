import Emend.Proofs.Edit.Conflict
import Mathlib.Data.List.Basic

/-!
# The order of places

Edits are put in order by their places, and edits that replace the same place stay in the order in
which they were given (`OffsetEdit.Arranges`).  There is one such arrangement and no other:

* `OffsetEdit.arranges_mergeSort` says that sorting finds it, since a stable sort moves no edit past
  another one at the same place.
* `OffsetEdit.eq_of_agree` says that nothing is left to choose.

So edits may come in any order, as long as those with one range keep theirs
(`OffsetEdit.inOrder_congr`).

The order matters to insertions.  Several of them at one place come out in the order in which they
were asked for, and with that the edited text is determined by the edits at each place, without
reference to how the others were mixed in between.
-/

set_option autoImplicit false

namespace Emend

namespace OffsetEdit

variable {e f : OffsetEdit} {es fs gs : List OffsetEdit}

/-- Whether an edit replaces what lies between two offsets. -/
def isAt (start stop : Nat) (e : OffsetEdit) : Bool := e.start = start && e.stop = stop

theorem isAt_iff {start stop : Nat} :
    e.isAt start stop = true ↔ e.start = start ∧ e.stop = stop := by
  simp [isAt]

/-- Two lists of edits have the same edits at every place, and in the same order there. -/
def Agree (es fs : List OffsetEdit) : Prop :=
  ∀ start stop, es.filter (isAt start stop) = fs.filter (isAt start stop)

/-- The edits of a list in the order of their places, and at each place in the order of the list. -/
structure Arranges (fs es : List OffsetEdit) : Prop where
  sorted : fs.Pairwise fun e f ↦ e.precedes f = true
  agree : Agree fs es

namespace Agree

theorem symm (h : Agree es fs) : Agree fs es := fun start stop ↦ (h start stop).symm

theorem trans (h : Agree es fs) (h' : Agree fs gs) : Agree es gs :=
  fun start stop ↦ (h start stop).trans (h' start stop)

/-- Leaving out the same edits on both sides changes nothing. -/
theorem filter (h : Agree es fs) (p : OffsetEdit → Bool) : Agree (es.filter p) (fs.filter p) := by
  intro start stop
  rw [List.filter_comm, h start stop, List.filter_comm]

/-- Each edit is among those at its own place. -/
theorem mem_iff (h : Agree es fs) : e ∈ es ↔ e ∈ fs := by
  have hplace : ∀ gs : List OffsetEdit, e ∈ gs ↔ e ∈ gs.filter (isAt e.start e.stop) := by
    intro gs
    rw [List.mem_filter, isAt_iff]
    exact ⟨fun he ↦ ⟨he, rfl, rfl⟩, fun he ↦ he.1⟩
  rw [hplace, h, ← hplace]

theorem perm (h : Agree es fs) : es.Perm fs := by
  refine List.perm_iff_count.2 fun e ↦ ?_
  have hplace : ∀ gs : List OffsetEdit,
      (gs.filter (isAt e.start e.stop)).count e = gs.count e :=
    fun gs ↦ List.count_filter (isAt_iff.2 ⟨rfl, rfl⟩)
  rw [← hplace, h, hplace]

/-- Past a common first edit. -/
theorem of_cons (h : Agree (e :: es) (e :: fs)) : Agree es fs := by
  intro start stop
  have hcons := h start stop
  by_cases he : e.isAt start stop = true
  · rw [List.filter_cons_of_pos he, List.filter_cons_of_pos he] at hcons
    exact (List.cons.inj hcons).2
  · rwa [List.filter_cons_of_neg he, List.filter_cons_of_neg he] at hcons

/-- Nothing agrees with no edits. -/
theorem eq_nil (h : Agree [] fs) : fs = [] :=
  List.eq_nil_iff_forall_not_mem.2 fun _ hf ↦ List.not_mem_nil (h.mem_iff.2 hf)

end Agree

/-- The first of sorted edits precedes them all. -/
theorem precedes_of_mem_cons (h : (f :: fs).Pairwise fun e f ↦ e.precedes f = true)
    (he : e ∈ f :: fs) : f.precedes e = true := by
  rcases List.mem_cons.1 he with rfl | he
  · exact precedes_iff.2 (.inr ⟨rfl, Nat.le_refl _⟩)
  · exact (List.pairwise_cons.1 h).1 e he

/-- **Only one arrangement.**  By induction on the sorted edits: the first edits of both lists
precede each other, so they are at one place, where both lists are the same. -/
theorem eq_of_agree (hes : es.Pairwise fun e f ↦ e.precedes f = true)
    (hfs : fs.Pairwise fun e f ↦ e.precedes f = true) (h : Agree es fs) : es = fs := by
  induction es generalizing fs with
  | nil => exact h.eq_nil.symm
  | cons e es ih =>
    rcases fs with _ | ⟨f, fs⟩
    · exact h.symm.eq_nil
    · have hfe := precedes_of_mem_cons hfs (h.mem_iff.1 List.mem_cons_self)
      have hef := precedes_of_mem_cons hes (h.mem_iff.2 List.mem_cons_self)
      rw [precedes_iff] at hfe hef
      have hplace : f.isAt e.start e.stop = true := isAt_iff.2 (by omega)
      have hfirst := h e.start e.stop
      rw [List.filter_cons_of_pos (isAt_iff.2 ⟨rfl, rfl⟩), List.filter_cons_of_pos hplace] at hfirst
      obtain rfl := (List.cons.inj hfirst).1
      rw [ih hes.of_cons hfs.of_cons h.of_cons]

theorem Arranges.eq (h : Arranges fs es) (h' : Arranges gs es) : fs = gs :=
  eq_of_agree h.sorted h'.sorted (h.agree.trans h'.agree.symm)

/-- **Sorting arranges edits.**  The edits at one place are a sorted part of the list, and a stable
sort leaves these in their order. -/
theorem arranges_mergeSort (es : List OffsetEdit) : Arranges (es.mergeSort precedes) es where
  sorted := pairwise_mergeSort es
  agree := by
    intro start stop
    have hsorted : (es.filter (isAt start stop)).Pairwise fun e f ↦ e.precedes f = true := by
      refine List.pairwise_of_forall_mem_list fun e he f hf ↦ ?_
      have he := isAt_iff.1 (List.mem_filter.1 he).2
      have hf := isAt_iff.1 (List.mem_filter.1 hf).2
      rw [precedes_iff]
      omega
    have hsublist : (es.filter (isAt start stop)).Sublist (es.mergeSort precedes) :=
      List.sublist_mergeSort precedes_trans precedes_total hsorted List.filter_sublist
    have hplace := hsublist.filter (isAt start stop)
    simp only [List.filter_filter, Bool.and_self] at hplace
    refine (hplace.eq_of_length ?_).symm
    exact ((List.mergeSort_perm es precedes).filter _).length_eq.symm

/-! ## Putting edits in order

Sorting gives the one arrangement, so whatever is said of the sorted list can be said of any
arrangement that is at hand.  In particular two lists with one arrangement are put in order alike,
or refused for the same pair of neighbours. -/

/-- Edits are put in order by arranging them, and refused for a pair of neighbours. -/
theorem Arranges.inOrder_eq (h : Arranges fs es) : inOrder es = match overlap? fs with
    | some pair => .error pair
    | none => .ok fs := by
  obtain rfl := (arranges_mergeSort es).eq h
  cases hoverlap : overlap? (es.mergeSort precedes) <;> simp only [inOrder, hoverlap]

/-- **Edits that agree are put in the same order**, or refused for the same pair. -/
theorem inOrder_congr (h : Agree es fs) : inOrder es = inOrder fs := by
  have harranges : Arranges (es.mergeSort precedes) fs :=
    ⟨pairwise_mergeSort es, (arranges_mergeSort es).agree.trans h⟩
  rw [(arranges_mergeSort es).inOrder_eq, harranges.inOrder_eq]

/-- **Arranged edits are in order exactly if each stops before every later one starts.** -/
theorem Arranges.inOrder_eq_ok_iff (h : Arranges fs es) (hes : ∀ e ∈ es, e.start ≤ e.stop) :
    inOrder es = .ok gs ↔ gs = fs ∧ fs.Pairwise fun e f ↦ e.stop ≤ f.start := by
  have hfs : ∀ e ∈ fs, e.start ≤ e.stop := fun e he ↦ hes e (h.agree.mem_iff.1 he)
  rw [h.inOrder_eq]
  cases hoverlap : overlap? fs with
  | none =>
    have hpairwise := pairwise_of_overlap? hfs hoverlap
    exact ⟨fun hok ↦ ⟨(Except.ok.inj hok).symm, hpairwise⟩, fun hok ↦ congrArg Except.ok hok.1.symm⟩
  | some pair =>
    refine ⟨nofun, fun hok ↦ ?_⟩
    cases hoverlap.symm.trans (Writes.overlap?_eq_none hok.2)

/-- Where arranged edits are refused, the pair stands among them in this order. -/
theorem Arranges.sublist_of_inOrder_eq_error (h : Arranges fs es)
    (herror : inOrder es = .error (e, f)) : [e, f].Sublist fs ∧ f.start < e.stop := by
  rw [h.inOrder_eq] at herror
  cases hoverlap : overlap? fs with
  | none => simp [hoverlap] at herror
  | some pair =>
    obtain rfl : pair = (e, f) := by simpa [hoverlap] using herror
    exact sublist_of_overlap? hoverlap

end OffsetEdit

end Emend
