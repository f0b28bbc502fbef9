import Mathlib
import Emend.Proofs.Diff.Changes

/-!
# What a diff counts

`DiffStats.ofSpans` adds up the lines that spans add and remove, in words of 32 bits.  The sum
saturates, but the length of a span is cut to a word *before* it is added, so the two ways in which
a count can be wrong are not alike: a sum that is too large stops at the largest word, and a single
length that is too large wraps around.  `countUp` is what happens on either side, and its value is
told by `cutSum`, the sum of what is left of each length.

* `DiffStats.ofSpans_counts` says of any spans what the counts are, and exactly when these are the
  numbers of lines.
* `Algorithm.stats_balance` says of the spans of a line diff that nothing is cut as long as a word
  can number the lines of each text, and that the counts make up for the difference in length
  between the two.
-/

set_option autoImplicit false

namespace Emend.Diff

/-! ## Counting with words

A saturating sum of words is the least of the sum and the largest word, and this is stable under
adding more: the induction is on the numbers, with the sum so far as a variable.  Cutting a number
makes it smaller, or leaves it, and that decides when the count is right. -/

theorem toNat_saturatingAdd (a b : UInt32) :
    (saturatingAdd a b).toNat = min (a.toNat + b.toNat) (UInt32.size - 1) := by
  have ha := a.toNat_lt_size
  have hb := b.toNat_lt_size
  simp only [UInt32.size] at *
  rw [saturatingAdd]
  split
  · next h =>
    rw [UInt32.toNat_add, Nat.mod_eq_of_lt h]
    omega
  · next h =>
    show 4294967295 = _
    omega

/-- The sum of numbers as a word, where each number is cut to a word before it is added. -/
def countUp (ns : List Nat) : UInt32 := (ns.map Nat.toUInt32).foldl saturatingAdd 0

/-- What is left of numbers that are cut to words. -/
def cutSum (ns : List Nat) : Nat := (ns.map (· % UInt32.size)).sum

@[simp] theorem cutSum_nil : cutSum [] = 0 := rfl

@[simp] theorem cutSum_cons (n : Nat) (ns : List Nat) :
    cutSum (n :: ns) = n % UInt32.size + cutSum ns := by
  simp [cutSum]

theorem toNat_foldl_saturatingAdd (ns : List Nat) (w : UInt32) :
    ((ns.map Nat.toUInt32).foldl saturatingAdd w).toNat
      = min (w.toNat + cutSum ns) (UInt32.size - 1) := by
  induction ns generalizing w with
  | nil =>
    have := w.toNat_lt_size
    simp only [List.map_nil, List.foldl_nil, cutSum_nil]
    omega
  | cons n ns ih =>
    have hn : n.toUInt32.toNat = n % UInt32.size := rfl
    rw [List.map_cons, List.foldl_cons, ih, toNat_saturatingAdd, hn, cutSum_cons]
    omega

theorem toNat_countUp (ns : List Nat) : (countUp ns).toNat = min (cutSum ns) (UInt32.size - 1) := by
  rw [countUp, toNat_foldl_saturatingAdd]
  show min (0 + cutSum ns) _ = _
  rw [Nat.zero_add]

theorem cutSum_le_sum (ns : List Nat) : cutSum ns ≤ ns.sum := by
  induction ns with
  | nil => exact Nat.le_refl _
  | cons n ns ih =>
    have := Nat.mod_le n UInt32.size
    rw [cutSum_cons, List.sum_cons]
    omega

/-- Nothing is cut off exactly if each number is a word. -/
theorem cutSum_eq_sum_iff {ns : List Nat} : cutSum ns = ns.sum ↔ ∀ n ∈ ns, n < UInt32.size := by
  induction ns with
  | nil => simp
  | cons n ns ih =>
    have hmod : n % UInt32.size = n ↔ n < UInt32.size :=
      ⟨fun h ↦ h ▸ Nat.mod_lt n (by decide), Nat.mod_eq_of_lt⟩
    have hle := Nat.mod_le n UInt32.size
    have hsum := cutSum_le_sum ns
    rw [List.forall_mem_cons, ← ih, ← hmod, cutSum_cons, List.sum_cons]
    omega

/-- The sum is right, as far as a word can hold it, exactly if no number is cut, or if what is left
of the numbers fills a word. -/
theorem toNat_countUp_eq_iff {ns : List Nat} :
    (countUp ns).toNat = min ns.sum (UInt32.size - 1) ↔
      (∀ n ∈ ns, n < UInt32.size) ∨ UInt32.size - 1 ≤ cutSum ns := by
  have hle := cutSum_le_sum ns
  rw [toNat_countUp, ← cutSum_eq_sum_iff]
  omega

/-- Numbers whose sum is a word are counted as they are. -/
theorem toNat_countUp_of_lt {ns : List Nat} (h : ns.sum < UInt32.size) :
    (countUp ns).toNat = ns.sum := by
  have hright := toNat_countUp_eq_iff.2 (.inl fun n hn ↦ (List.le_sum_of_mem hn).trans_lt h)
  omega

theorem countUp_eq_zero_iff {ns : List Nat} : countUp ns = 0 ↔ ∀ n ∈ ns, UInt32.size ∣ n := by
  have hcut : cutSum ns = 0 ↔ ∀ n ∈ ns, UInt32.size ∣ n := by
    induction ns with
    | nil => simp
    | cons n ns ih =>
      rw [cutSum_cons, Nat.add_eq_zero_iff, ih, List.forall_mem_cons, Nat.dvd_iff_mod_eq_zero]
  rw [← hcut, ← UInt32.toNat_inj, toNat_countUp, UInt32.toNat_zero, UInt32.size]
  omega

/-! ## Spans -/

/-- The numbers of lines that spans add. -/
def added (spans : List Span) : List Nat := spans.map fun s ↦ s.new.length

/-- The numbers of lines that spans remove. -/
def removed (spans : List Span) : List Nat := spans.map fun s ↦ s.old.length

theorem Span.kind_eq_empty_iff_length {s : Span} :
    s.kind = .empty ↔ s.new.length = 0 ∧ s.old.length = 0 := by
  rw [kind_eq_empty_iff, Interval.length, Interval.length]
  omega

namespace DiffStats

theorem foldl_add (spans : List Span) (s : DiffStats) :
    spans.foldl add s = ⟨((added spans).map Nat.toUInt32).foldl saturatingAdd s.additions,
      ((removed spans).map Nat.toUInt32).foldl saturatingAdd s.deletions⟩ := by
  induction spans generalizing s with
  | nil => rfl
  | cons span spans ih => exact ih _

/-- Both sides are counted in the same way. -/
theorem ofSpans_eq (spans : List Span) :
    ofSpans spans = ⟨countUp (added spans), countUp (removed spans)⟩ :=
  foldl_add spans ⟨0, 0⟩

theorem isEmpty_iff {s : DiffStats} : s.isEmpty = true ↔ s.additions = 0 ∧ s.deletions = 0 := by
  simp [isEmpty]

/-- Spans count as no change exactly if nothing is left of their lengths. -/
theorem isEmpty_ofSpans_iff {spans : List Span} : (ofSpans spans).isEmpty = true ↔
    ∀ s ∈ spans, UInt32.size ∣ s.new.length ∧ UInt32.size ∣ s.old.length := by
  rw [isEmpty_iff, ofSpans_eq]
  simp only [countUp_eq_zero_iff, added, removed, List.forall_mem_map, ← forall_and]

/-- Where each length is a word, only empty spans count as no change. -/
theorem isEmpty_ofSpans_iff_of_lt {spans : List Span}
    (h : ∀ s ∈ spans, s.new.length < UInt32.size ∧ s.old.length < UInt32.size) :
    (ofSpans spans).isEmpty = true ↔ ∀ s ∈ spans, s.kind = .empty := by
  rw [isEmpty_ofSpans_iff]
  refine forall₂_congr fun s hs ↦ ?_
  obtain ⟨hnew, hold⟩ := h s hs
  rw [Span.kind_eq_empty_iff_length, Nat.dvd_iff_mod_eq_zero, Nat.dvd_iff_mod_eq_zero,
    Nat.mod_eq_of_lt hnew, Nat.mod_eq_of_lt hold]

/-- **What the counts of spans are.**  They are the sums of the lengths as far as a word holds them,
but of lengths that have been cut to words.  So they are right exactly if no length is cut, or the
cut lengths fill a word; and the spans count as no change exactly if each length is a multiple of
what a word holds.  Where every length is a word, this means that all spans are empty. -/
theorem ofSpans_counts (spans : List Span) :
    (ofSpans spans).additions.toNat = min (cutSum (added spans)) (UInt32.size - 1) ∧
    (ofSpans spans).deletions.toNat = min (cutSum (removed spans)) (UInt32.size - 1) ∧
    ((ofSpans spans).additions.toNat = min (added spans).sum (UInt32.size - 1) ↔
      (∀ s ∈ spans, s.new.length < UInt32.size) ∨ UInt32.size - 1 ≤ cutSum (added spans)) ∧
    ((ofSpans spans).deletions.toNat = min (removed spans).sum (UInt32.size - 1) ↔
      (∀ s ∈ spans, s.old.length < UInt32.size) ∨ UInt32.size - 1 ≤ cutSum (removed spans)) ∧
    ((ofSpans spans).isEmpty = true ↔
      ∀ s ∈ spans, UInt32.size ∣ s.new.length ∧ UInt32.size ∣ s.old.length) ∧
    ((∀ s ∈ spans, s.new.length < UInt32.size ∧ s.old.length < UInt32.size) →
      ((ofSpans spans).isEmpty = true ↔ ∀ s ∈ spans, s.kind = .empty)) := by
  refine ⟨?_, ?_, ?_, ?_, isEmpty_ofSpans_iff, isEmpty_ofSpans_iff_of_lt⟩
  · rw [ofSpans_eq, toNat_countUp]
  · rw [ofSpans_eq, toNat_countUp]
  · rw [ofSpans_eq, toNat_countUp_eq_iff, added, List.forall_mem_map]
  · rw [ofSpans_eq, toNat_countUp_eq_iff, removed, List.forall_mem_map]

/-- One insertion of as many lines as a word has values counts as no change. -/
theorem ofSpans_counts_long :
    let s : Span := ⟨⟨0, 0⟩, ⟨0, 4294967296⟩⟩
    s.kind = .insert ∧ min (added [s]).sum (UInt32.size - 1) = 4294967295 ∧
      (ofSpans [s]).additions.toNat = 0 ∧ (ofSpans [s]).isEmpty = true :=
  ⟨rfl, rfl, rfl, rfl⟩

end DiffStats

/-! ## Line diffs

The balance between the two counts is a property of spans that turn one list into another, by
induction on the spans with `Turns`.  It also bounds the sums by the lengths of the lists, and so no
count of a line diff is cut. -/

/-- What spans add and what they remove make up for the difference between the two lists, and there
is no more of it than the lists hold. -/
theorem Turns.balance {α : Type} {x y : Nat} {spans : List Span} {old new : List α}
    (h : Turns x y spans old new) :
    old.length + (added spans).sum = new.length + (removed spans).sum ∧
      (added spans).sum ≤ new.length ∧ (removed spans).sum ≤ old.length := by
  induction spans generalizing x y old new with
  | nil =>
    obtain rfl : new = old := h
    simp [added, removed]
  | cons s spans ih =>
    obtain ⟨kept, gone, come, old', new', rfl, rfl, hold, hnew, h⟩ := h
    have hrest := ih h
    have hadded : (added (s :: spans)).sum = come.length + (added spans).sum := by
      simp [added, hnew, Interval.length]
    have hremoved : (removed (s :: spans)).sum = gone.length + (removed spans).sum := by
      simp [removed, hold, Interval.length]
    rw [hadded, hremoved]
    simp only [List.length_append]
    omega

namespace Algorithm

/-- All spans of a line diff are empty exactly if the texts are the same. -/
theorem forall_kind_eq_empty_iff (algorithm : Algorithm) (old new : Text) :
    (∀ s ∈ algorithm.diff old new, s.kind = .empty) ↔ old = new := by
  constructor
  · intro h
    cases hdiff : algorithm.diff old new with
    | nil => exact ((algorithm.diff_eq_nil_iff old new).1 hdiff).1
    | cons s spans =>
      have hs : s ∈ algorithm.diff old new := hdiff ▸ List.mem_cons_self
      obtain ⟨-, rfl, rfl⟩ := (algorithm.exists_kind_eq_empty_iff old new).1 ⟨s, hs, h s hs⟩
      rfl
  · rintro rfl s hs
    by_cases hempty : algorithm = lcs ∧ old = []
    · obtain ⟨rfl, rfl⟩ := hempty
      rw [diff_lcs_nil_nil, List.mem_singleton] at hs
      rw [hs]
      rfl
    · rw [diff_self hempty] at hs
      cases hs

/-- **The counts of a line diff.**  Of texts whose tokens a word can number, nothing is cut and
nothing saturates: the counts are the lines added and removed.  They make up for the difference in
length between the texts, they are no more than the lines there are, and they are zero exactly if
the texts are the same. -/
theorem stats_balance (algorithm : Algorithm) (old new : Text)
    (hold : old.diffTokens.length < UInt32.size) (hnew : new.diffTokens.length < UInt32.size) :
    let spans := algorithm.diff old new
    let stats := DiffStats.ofSpans spans
    (stats.additions.toNat = (added spans).sum ∧ stats.deletions.toNat = (removed spans).sum) ∧
    old.diffTokens.length + stats.additions.toNat
      = new.diffTokens.length + stats.deletions.toNat ∧
    stats.additions.toNat ≤ new.diffTokens.length ∧
    stats.deletions.toNat ≤ old.diffTokens.length ∧
    (stats.isEmpty = true ↔ old = new) := by
  intro spans stats
  have hturns : Turns 0 0 spans old.diffTokens new.diffTokens := (algorithm.turns_diff old new).1
  obtain ⟨hbalance, hadded, hremoved⟩ := hturns.balance
  have hsmall : ∀ s ∈ spans, s.new.length < UInt32.size ∧ s.old.length < UInt32.size := by
    intro s hs
    have hs_added : s.new.length ≤ (added spans).sum :=
      List.le_sum_of_mem (List.mem_map_of_mem hs)
    have hs_removed : s.old.length ≤ (removed spans).sum :=
      List.le_sum_of_mem (List.mem_map_of_mem hs)
    exact ⟨(hs_added.trans hadded).trans_lt hnew, (hs_removed.trans hremoved).trans_lt hold⟩
  have hadditions : stats.additions.toNat = (added spans).sum := by
    show (DiffStats.ofSpans spans).additions.toNat = _
    rw [DiffStats.ofSpans_eq, toNat_countUp_of_lt (hadded.trans_lt hnew)]
  have hdeletions : stats.deletions.toNat = (removed spans).sum := by
    show (DiffStats.ofSpans spans).deletions.toNat = _
    rw [DiffStats.ofSpans_eq, toNat_countUp_of_lt (hremoved.trans_lt hold)]
  have hempty : stats.isEmpty = true ↔ old = new :=
    (DiffStats.isEmpty_ofSpans_iff_of_lt hsmall).trans
      (algorithm.forall_kind_eq_empty_iff old new)
  rw [hadditions, hdeletions]
  exact ⟨⟨rfl, rfl⟩, hbalance, hadded, hremoved, hempty⟩

/-- The last line is replaced by two, of which one has no ending. -/
theorem stats_balance_unterminated :
    let old : Text := ['a', '\n', 'b', '\r']
    let new : Text := ['a', '\n', 'c', '\r', '\n', 'd']
    let stats := DiffStats.ofSpans (patience.diff old new)
    (old.diffTokens.length = 2 ∧ old.diffTokens.length < UInt32.size) ∧
      (new.diffTokens.length = 3 ∧ new.diffTokens.length < UInt32.size) ∧
      2 + stats.additions.toNat = 3 + stats.deletions.toNat ∧ stats.additions.toNat ≤ 3 ∧
      stats.deletions.toNat ≤ 2 ∧ stats.isEmpty = false := by
  intro old new stats
  have hold : old.diffTokens.length = 2 := by decide
  have hnew : new.diffTokens.length = 3 := by decide
  have hold' : old.diffTokens.length < UInt32.size := by decide
  have hnew' : new.diffTokens.length < UInt32.size := by decide
  obtain ⟨-, hbalance, hadditions, hdeletions, hempty⟩ := stats_balance patience old new hold' hnew'
  rw [hold, hnew] at hbalance
  rw [hnew] at hadditions
  rw [hold] at hdeletions
  exact ⟨⟨hold, hold'⟩, ⟨hnew, hnew'⟩, hbalance, hadditions, hdeletions,
    Bool.eq_false_iff.2 fun h ↦ absurd (hempty.1 h) (by decide)⟩

end Algorithm

end Emend.Diff
