import Emend.Proofs.Text.Lines

/-!
# Where lines start

Each line starts behind the one before it (`Text.ClosedButLast.pairwise_place`), so an offset lies
in one line only: the last one that does not start behind it (`Text.InLine`).
`Text.InLine.lineOfOffset` says that this is the line that is found for the offset.
-/

set_option autoImplicit false

namespace Emend.Text

variable {t : Text} {ls : List Line} {offset i : Nat}

/-! ## The order of starts -/

theorem byteLen_content_lt {l : Line} (h : l.ending ≠ none) : byteLen l.content < l.byteLen := by
  obtain ⟨e, he⟩ := Option.ne_none_iff_exists'.1 h
  have := byteLen_pos (ending_text_ne_nil e)
  rw [Line.byteLen, Line.text, he, byteLen_append, Option.map_some, Option.getD_some]
  omega

theorem le_start_of_mem_place {start : Nat} {p : PlacedLine}
    (h : p ∈ PlacedLine.place start ls) : start ≤ p.start := by
  induction ls generalizing start with
  | nil => cases h
  | cons l ls ih =>
    rcases List.mem_cons.1 h with rfl | h
    · exact Nat.le_refl _
    · exact Nat.le_trans (Nat.le_add_right _ _) (ih h)

/-- Each line starts behind the one before it, whose ending lies between. -/
theorem ClosedButLast.pairwise_place {start : Nat} (h : ClosedButLast ls) :
    (PlacedLine.place start ls).Pairwise fun l l' ↦ l.start < l'.start := by
  induction ls generalizing start with
  | nil => exact .nil
  | cons l ls ih =>
    cases ls with
    | nil => exact List.pairwise_singleton _ _
    | cons l' ls =>
      refine .cons (fun p hp ↦ ?_) (ih h.2)
      have hlen := byteLen_content_lt h.1
      have hle : start + l.byteLen ≤ p.start := le_start_of_mem_place hp
      show start < p.start
      omega

/-! ## The line of an offset

A line with an ending has at least the bytes of that, so starts ascend strictly and an offset has
one line at most.  It has one at all because the first line starts at zero.  `InLine` does not
mention the length of the text: an offset past the end lies in the last line, and it is the search
that refuses it. -/

/-- The offset does not lie in front of line `i`, but in front of the next line if there is one. -/
def InLine (t : Text) (offset i : Nat) : Prop :=
  ∃ l, (placedLines t)[i]? = some l ∧ l.start ≤ offset ∧
    ∀ l' ∈ (placedLines t)[i + 1]?, offset < l'.start

/-- Of places in order, of which the first is not too late, one is the last that is not. -/
theorem exists_last_start {p : PlacedLine} {ps : List PlacedLine} (h : p.start ≤ offset) :
    ∃ i l, (p :: ps)[i]? = some l ∧ l.start ≤ offset ∧
      ∀ l' ∈ (p :: ps)[i + 1]?, offset < l'.start := by
  induction ps generalizing p with
  | nil => exact ⟨0, p, rfl, h, nofun⟩
  | cons q ps ih =>
    by_cases hq : q.start ≤ offset
    · obtain ⟨i, l, hget, hle, hnext⟩ := ih hq
      exact ⟨i + 1, l, hget, hle, hnext⟩
    · refine ⟨0, p, rfl, h, fun l' hl' ↦ ?_⟩
      obtain rfl : q = l' := Option.some.inj hl'
      exact Nat.lt_of_not_le hq

theorem exists_inLine (t : Text) (offset : Nat) : ∃ i, InLine t offset i := by
  obtain ⟨l, ls, hlines⟩ := List.exists_cons_of_ne_nil (lines_ne_nil t)
  obtain ⟨i, p, h⟩ := @exists_last_start offset ⟨0, l⟩ (PlacedLine.place (0 + l.byteLen) ls)
    (Nat.zero_le offset)
  refine ⟨i, p, ?_⟩
  rwa [placedLines, hlines, PlacedLine.place]

/-- **The line that an offset lies in is found.**  The lines up to it start in order, so all of them
start at or before the offset. -/
theorem InLine.lineOfOffset (h : InLine t offset i) (hle : offset ≤ byteLen t) :
    lineOfOffset t offset = .ok i := by
  obtain ⟨l, hget, hstart, hnext⟩ := h
  obtain ⟨hi, rfl⟩ := List.getElem?_eq_some_iff.1 hget
  have hsplit : (placedLines t).take i ++ (placedLines t)[i] :: (placedLines t).drop (i + 1)
      = placedLines t := by
    rw [List.getElem_cons_drop, List.take_append_drop]
  have hpairwise : (placedLines t).Pairwise fun l l' ↦ l.start < l'.start :=
    (closedButLast_lines t).pairwise_place
  rw [← hsplit] at hpairwise
  obtain ⟨-, -, hfront⟩ := List.pairwise_append.1 hpairwise
  have hbefore : ∀ p ∈ (placedLines t).take i, decide (p.start ≤ offset) = true := fun p hp ↦
    decide_eq_true (Nat.le_trans (Nat.le_of_lt (hfront p hp _ List.mem_cons_self)) hstart)
  have hafter : ((placedLines t).drop (i + 1)).takeWhile (fun p ↦ decide (p.start ≤ offset))
      = [] := by
    cases hdrop : (placedLines t).drop (i + 1) with
    | nil => rfl
    | cons p ps =>
      have hp : (placedLines t)[i + 1]? = some p := by
        rw [← List.head?_drop, hdrop]
        rfl
      have hlt := hnext p hp
      exact List.takeWhile_cons_of_neg (by simpa using hlt)
  rw [Text.lineOfOffset, if_neg (Nat.not_lt_of_le hle), ← hsplit,
    List.takeWhile_append_of_pos hbefore, List.takeWhile_cons_of_pos (by simp [hstart]), hafter]
  rw [List.length_append, List.length_take, Nat.min_eq_left (Nat.le_of_lt hi)]
  rfl

end Emend.Text
