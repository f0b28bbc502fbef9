import Emend.Diff.Script

/-!
# Common ends and scripts

What the common prefix and suffix of two lists are, and that `core` splits both lists at them: the
parts make up the lists again (`core_old` and `core_new`), and the middles, where neither is empty,
agree neither in their first nor in their last token.
-/

set_option autoImplicit false

namespace Emend.Diff

variable {α : Type}

/-! ## Scripts of one step -/

namespace Script

@[simp] theorem source_nil : source ([] : Script α) = [] := rfl

@[simp] theorem target_nil : target ([] : Script α) = [] := rfl

@[simp] theorem source_cons (op : Op α) (s : Script α) : source (op :: s) = op.source ++ source s :=
  rfl

@[simp] theorem target_cons (op : Op α) (s : Script α) : target (op :: s) = op.target ++ target s :=
  rfl

@[simp] theorem source_keep (ts : List α) : source (keep ts) = ts := by
  cases ts <;> simp [keep, Op.source]

@[simp] theorem target_keep (ts : List α) : target (keep ts) = ts := by
  cases ts <;> simp [keep, Op.target]

@[simp] theorem source_erase (ts : List α) : source (erase ts) = ts := by
  cases ts <;> simp [erase, Op.source]

@[simp] theorem target_erase (ts : List α) : target (erase ts) = [] := by
  cases ts <;> simp [erase, Op.target]

@[simp] theorem source_write (ts : List α) : source (write ts) = [] := by
  cases ts <;> simp [write, Op.source]

@[simp] theorem target_write (ts : List α) : target (write ts) = ts := by
  cases ts <;> simp [write, Op.target]

end Script

/-! ## Common ends

A common prefix is as long as it can be, which is what the search for the middle needs: behind it
the lists differ at once, or one of them is at its end.  The suffix is the prefix of the reversed
lists, so nothing is proved about it by a second induction. -/

variable [DecidableEq α]

theorem commonPrefix_le (a b : List α) :
    commonPrefix a b ≤ a.length ∧ commonPrefix a b ≤ b.length := by
  fun_induction commonPrefix a b with
  | case1 xs y ys ih => simpa using ih
  | case2 x xs y ys hne => simp
  | case3 a b _ => simp

theorem take_commonPrefix (a b : List α) :
    a.take (commonPrefix a b) = b.take (commonPrefix a b) := by
  fun_induction commonPrefix a b with
  | case1 xs y ys ih => simpa using ih
  | case2 x xs y ys hne => simp
  | case3 a b _ => simp

/-- Behind the common prefix the two lists differ at once. -/
theorem head?_drop_commonPrefix {a b : List α} (ha : a.drop (commonPrefix a b) ≠ [])
    (hb : b.drop (commonPrefix a b) ≠ []) :
    (a.drop (commonPrefix a b)).head? ≠ (b.drop (commonPrefix a b)).head? := by
  fun_induction commonPrefix a b with
  | case1 xs y ys ih => simpa using ih ha hb
  | case2 x xs y ys hne => simpa using hne
  | case3 a b h =>
    cases a with
    | nil => exact absurd rfl ha
    | cons x xs =>
      cases b with
      | nil => exact absurd rfl hb
      | cons y ys => exact absurd rfl (h x xs y ys rfl)

theorem drop_commonSuffix (a b : List α) :
    a.drop (a.length - commonSuffix a b) = b.drop (b.length - commonSuffix a b) := by
  have h := take_commonPrefix a.reverse b.reverse
  rw [List.take_reverse, List.take_reverse] at h
  exact List.reverse_inj.1 h

/-- In front of the common suffix the two lists differ at once. -/
theorem getLast?_take_commonSuffix {a b : List α}
    (ha : a.take (a.length - commonSuffix a b) ≠ [])
    (hb : b.take (b.length - commonSuffix a b) ≠ []) :
    (a.take (a.length - commonSuffix a b)).getLast?
      ≠ (b.take (b.length - commonSuffix a b)).getLast? := by
  have h := head?_drop_commonPrefix (a := a.reverse) (b := b.reverse)
  rw [List.drop_reverse, List.drop_reverse, List.head?_reverse, List.head?_reverse] at h
  exact h (mt List.reverse_eq_nil_iff.1 ha) (mt List.reverse_eq_nil_iff.1 hb)

/-! ## Cores -/

theorem core_old (a b : List α) :
    (core a b).before ++ ((core a b).old ++ (core a b).after) = a := by
  simp only [core, List.take_append_drop]

theorem core_new (a b : List α) :
    (core a b).before ++ ((core a b).new ++ (core a b).after) = b := by
  simp only [core]
  rw [drop_commonSuffix, List.take_append_drop, take_commonPrefix, List.take_append_drop]

/-- The middles of two lists differ in their first tokens. -/
theorem core_head {a b : List α} (hold : (core a b).old ≠ []) (hnew : (core a b).new ≠ []) :
    (core a b).old.head? ≠ (core a b).new.head? := by
  simp only [core] at hold hnew ⊢
  obtain ⟨hold, hold'⟩ := not_or.1 (mt List.take_eq_nil_iff.2 hold)
  obtain ⟨hnew, hnew'⟩ := not_or.1 (mt List.take_eq_nil_iff.2 hnew)
  rw [List.head?_take, List.head?_take, if_neg hold, if_neg hnew]
  exact head?_drop_commonPrefix hold' hnew'

/-- The middles of two lists differ in their last tokens. -/
theorem core_last {a b : List α} (hold : (core a b).old ≠ []) (hnew : (core a b).new ≠ []) :
    (core a b).old.getLast? ≠ (core a b).new.getLast? :=
  getLast?_take_commonSuffix hold hnew

end Emend.Diff
