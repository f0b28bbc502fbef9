import Emend.Proofs.Text.Offset
import Emend.Text.Line

/-!
# Lines and tokens make up the text

Cutting a text into lines loses nothing, and neither does leaving out the empty line at its end.  So
a line number addresses the text of the lines in front of it:

* `Text.offsetOfLine_eq_ok_iff` says which line numbers have an offset, and
  `Text.endOfLines_eq_offsetOfLine` that both ways to convert a line number agree.
* `Text.firstLines t i` is the text of the first `i` tokens, and `Text.firstLines_append` takes a
  text apart there.  `Text.offsetOfLine_eq` says that its length is the offset of the line, for each
  number up to the number of tokens.

Lines and tokens differ at the end of the text only.  A text that ends with a line ending has an
empty line behind it, which is a line to an editor and no token to a diff.  Results about diffs
count tokens, and results about positions count lines; this module is where the one is put for the
other.
-/

set_option autoImplicit false

namespace Emend

/-! ## Lengths -/

/-- The number of bytes of lines. -/
def Line.total (ls : List Line) : Nat := Text.byteLen (ls.map Line.text).flatten

@[simp] theorem Line.total_append (ls ls' : List Line) :
    Line.total (ls ++ ls') = Line.total ls + Line.total ls' := by
  simp [Line.total]

@[simp] theorem Line.total_cons (l : Line) (ls : List Line) :
    Line.total (l :: ls) = l.byteLen + Line.total ls := by
  simp [Line.total, Line.byteLen]

/-! ## Placing -/

namespace PlacedLine

/-- The line at a place starts where the lines in front of it end. -/
theorem place_getElem? (start : Nat) (ls : List Line) (i : Nat) :
    (place start ls)[i]?
      = ls[i]?.map fun l ↦ ⟨start + Text.byteLen ((ls.take i).map Line.text).flatten, l⟩ := by
  induction ls generalizing start i with
  | nil => rfl
  | cons l ls ih =>
    cases i with
    | zero => simp [place]
    | succ i =>
      rw [place, List.getElem?_cons_succ, List.getElem?_cons_succ, ih]
      simp [Line.byteLen, Nat.add_assoc]

@[simp] theorem length_place (start : Nat) (ls : List Line) :
    (place start ls).length = ls.length := by
  induction ls generalizing start with
  | nil => rfl
  | cons l ls ih => simp [place, ih]

@[simp] theorem map_line_place (start : Nat) (ls : List Line) :
    (place start ls).map line = ls := by
  induction ls generalizing start with
  | nil => rfl
  | cons l ls ih => simp [place, ih]

end PlacedLine

namespace Text

/-! ## Cutting into lines

A character that ends no line is put in front of the first line of what follows, so the proofs about
`lines` are inductions along it in which this case speaks of `List.modifyHead`.  `ClosedButLast` is
what all of them need to know of the result: that there is a first line to put a character into, and
that an empty line stands at the end if anywhere. -/

/-- Only the last of the lines has no ending. -/
def ClosedButLast : List Line → Prop
  | [] => False
  | [l] => l.ending = none
  | l :: l' :: ls => l.ending ≠ none ∧ ClosedButLast (l' :: ls)

theorem ClosedButLast.cons {l : Line} {ls : List Line} (hl : l.ending ≠ none)
    (h : ClosedButLast ls) : ClosedButLast (l :: ls) := by
  cases ls with
  | nil => cases h
  | cons l' ls => exact ⟨hl, h⟩

theorem ClosedButLast.modifyHead {ls : List Line} {f : Line → Line} (h : ClosedButLast ls)
    (hf : ∀ l, (f l).ending = l.ending) : ClosedButLast (ls.modifyHead f) := by
  match ls with
  | [] => exact h
  | [l] => exact (hf l).trans h
  | l :: _ :: _ => exact ⟨by rw [hf l]; exact h.1, h.2⟩

theorem closedButLast_lines (t : Text) : ClosedButLast (lines t) := by
  fun_induction lines t with
  | case1 => rfl
  | case2 t ih => exact .cons (by simp) ih
  | case3 t ih => exact .cons (by simp) ih
  | case4 t _ ih => exact .cons (by simp) ih
  | case5 c t _ _ _ ih => exact ih.modifyHead fun _ ↦ rfl

theorem lines_ne_nil (t : Text) : lines t ≠ [] := by
  intro h
  have := closedButLast_lines t
  rwa [h] at this

/-- A character in front of the first line is a character in front of the text. -/
theorem flatten_map_text_modifyHead {c : Char} {ls : List Line} (h : ls ≠ []) :
    ((ls.modifyHead fun l ↦ { l with content := c :: l.content }).map Line.text).flatten
      = c :: (ls.map Line.text).flatten := by
  cases ls with
  | nil => exact absurd rfl h
  | cons l ls => simp [Line.text]

/-- **The lines of a text make it up.** -/
theorem flatten_lines (t : Text) : ((lines t).map Line.text).flatten = t := by
  fun_induction lines t with
  | case1 => rfl
  | case2 t ih => simp [Line.text, LineEnding.text, ih]
  | case3 t ih => simp [Line.text, LineEnding.text, ih]
  | case4 t _ ih => simp [Line.text, LineEnding.text, ih]
  | case5 c t _ _ _ ih => rw [flatten_map_text_modifyHead (lines_ne_nil t), ih]

/-- The tokens make up the text as well. -/
theorem flatten_diffTokens (t : Text) : (diffTokens t).flatten = t := by
  rw [diffTokens, List.flatten_filter_not_isEmpty, flatten_lines]

theorem eq_of_diffTokens_eq {s t : Text} (h : diffTokens s = diffTokens t) : s = t := by
  rw [← flatten_diffTokens s, h, flatten_diffTokens]

theorem diffTokens_eq_nil_iff {t : Text} : diffTokens t = [] ↔ t = [] :=
  ⟨fun h ↦ eq_of_diffTokens_eq (t := []) h, fun h ↦ h ▸ rfl⟩

theorem ending_text_ne_nil (e : LineEnding) : e.text ≠ [] := by
  cases e <;> simp [LineEnding.text]

/-- The tokens are the lines, up to an empty one at the end. -/
theorem ClosedButLast.exists_map_text_eq {ls : List Line} (h : ClosedButLast ls) :
    ∃ r : List Text, ls.map Line.text = ((ls.map Line.text).filter fun l ↦ !l.isEmpty) ++ r ∧
      (r = [] ∨ r = [[]]) := by
  induction ls with
  | nil => cases h
  | cons l ls ih =>
    cases ls with
    | nil =>
      by_cases hl : l.text = []
      · exact ⟨[[]], by simp [hl], .inr rfl⟩
      · exact ⟨[], by simp [hl], .inl rfl⟩
    | cons l' ls =>
      obtain ⟨e, he⟩ := Option.ne_none_iff_exists'.1 h.1
      have hl : l.text ≠ [] := by
        intro hl
        rw [Line.text, he, List.append_eq_nil_iff] at hl
        exact ending_text_ne_nil e hl.2
      obtain ⟨r, hr, hempty⟩ := ih h.2
      refine ⟨r, ?_, hempty⟩
      rw [List.map_cons, List.filter_cons_of_pos (by simp [hl]), List.cons_append, ← hr]

theorem map_text_lines (t : Text) :
    ∃ r : List Text, (lines t).map Line.text = diffTokens t ++ r ∧ (r = [] ∨ r = [[]]) :=
  (closedButLast_lines t).exists_map_text_eq

theorem length_diffTokens_le (t : Text) : (diffTokens t).length ≤ lineCount t := by
  obtain ⟨r, hr, -⟩ := map_text_lines t
  have := congrArg List.length hr
  rw [List.length_map, List.length_append] at this
  rw [lineCount]
  omega

/-! ## Line numbers

A number up to the number of lines has an offset, and the number of lines itself stands for the end
of the text.  Both conversions are brought into one form, the length of the lines in front, from
which everything else about them follows. -/

section LineNumbers

variable {t : Text} {i j m n : Nat}

theorem total_lines (t : Text) : Line.total (lines t) = byteLen t := by
  rw [Line.total, flatten_lines]

/-- A line number has an offset up to the number of lines, which stands for the end of the text. -/
theorem offsetOfLine_eq_ok_iff :
    offsetOfLine t i = .ok n ↔ i ≤ lineCount t ∧ n = Line.total ((lines t).take i) := by
  rw [offsetOfLine, placedLines, PlacedLine.place_getElem?, Nat.zero_add]
  rcases Nat.lt_trichotomy i (lineCount t) with hlt | rfl | hlt
  · have hget : (lines t)[i]? = some (lines t)[i] := List.getElem?_eq_getElem hlt
    simp only [hget, Option.map_some, Line.total, Except.ok.injEq]
    exact ⟨fun h ↦ ⟨Nat.le_of_lt hlt, h.symm⟩, fun h ↦ h.2.symm⟩
  · have hget : (lines t)[lineCount t]? = none := List.getElem?_eq_none (Nat.le_refl _)
    have htake : (lines t).take (lineCount t) = lines t := List.take_length
    simp only [hget, Option.map_none, if_true, htake, total_lines, Except.ok.injEq, Nat.le_refl,
      true_and]
    exact eq_comm
  · have hget : (lines t)[i]? = none := List.getElem?_eq_none (Nat.le_of_lt hlt)
    simp only [hget, Option.map_none, if_neg (Nat.ne_of_gt hlt)]
    exact ⟨nofun, fun h ↦ absurd h.1 (Nat.not_le_of_lt hlt)⟩

theorem offsetOfLine_of_le (h : i ≤ lineCount t) :
    offsetOfLine t i = .ok (Line.total ((lines t).take i)) :=
  offsetOfLine_eq_ok_iff.2 ⟨h, rfl⟩

theorem offsetOfLine_of_lt (h : lineCount t < i) :
    offsetOfLine t i = .error (.lineOutOfRange i (lineCount t)) := by
  have hnone : (placedLines t)[i]? = none := by
    rw [placedLines]
    exact List.getElem?_eq_none (by rw [PlacedLine.length_place]; exact Nat.le_of_lt h)
  rw [offsetOfLine]
  simp only [hnone, if_neg (Nat.ne_of_gt h)]

/-- **A line number has no offset exactly past the number of lines.** -/
theorem offsetOfLine_eq_error_iff {error : TextError} :
    offsetOfLine t i = .error error ↔
      lineCount t < i ∧ error = .lineOutOfRange i (lineCount t) := by
  rcases Nat.lt_or_ge (lineCount t) i with hlt | hle
  · rw [offsetOfLine_of_lt hlt, Except.error.injEq, eq_comm]
    exact (and_iff_right hlt).symm
  · rw [offsetOfLine_of_le hle]
    exact ⟨nofun, fun h ↦ absurd h.1 (Nat.not_lt_of_le hle)⟩

/-- The last line ends where the text does. -/
theorem total_take_add_byteLen {l : Line} (hget : (lines t)[j]? = some l)
    (hlast : j + 1 = lineCount t) : Line.total ((lines t).take j) + l.byteLen = byteLen t := by
  have htake : (lines t).take (j + 1) = lines t := List.take_of_length_le (Nat.le_of_eq hlast.symm)
  calc Line.total ((lines t).take j) + l.byteLen
      = Line.total ((lines t).take (j + 1)) := by
        rw [List.take_add_one, hget, Line.total_append]
        simp [Line.total, Line.byteLen]
    _ = byteLen t := by rw [htake, total_lines]

/-- **Lines end where the next one starts.** -/
theorem endOfLines_eq_offsetOfLine (t : Text) (i : Nat) : endOfLines t i = offsetOfLine t i := by
  have hlength : (placedLines t).length = lineCount t := PlacedLine.length_place 0 (lines t)
  have hpos : 0 < lineCount t := List.length_pos_iff.2 (lines_ne_nil t)
  unfold endOfLines offsetOfLine
  cases hi : (placedLines t)[i]? with
  | some l => rfl
  | none =>
    have hle : lineCount t ≤ i := hlength ▸ List.getElem?_eq_none_iff.1 hi
    cases i with
    | zero => omega
    | succ j =>
      rcases Nat.lt_or_ge j (lineCount t) with hj | hj
      · have hlast : j + 1 = lineCount t := by omega
        obtain ⟨l, hget⟩ : ∃ l, (lines t)[j]? = some l := ⟨_, List.getElem?_eq_getElem hj⟩
        have hplaced : (placedLines t)[j]? = some ⟨Line.total ((lines t).take j), l⟩ := by
          rw [placedLines, PlacedLine.place_getElem?, hget, Nat.zero_add]
          rfl
        simp only [hplaced, if_pos hlast, PlacedLine.stop, total_take_add_byteLen hget hlast]
      · have hnone : (placedLines t)[j]? = none := List.getElem?_eq_none (hlength ▸ hj)
        have hne : j + 1 ≠ lineCount t := by omega
        simp only [hnone, if_neg hne]

/-- Later lines have later offsets. -/
theorem offset_le_of_offsetOfLine (hij : i ≤ j) (hm : offsetOfLine t i = .ok m)
    (hn : offsetOfLine t j = .ok n) : m ≤ n := by
  obtain ⟨-, rfl⟩ := offsetOfLine_eq_ok_iff.1 hm
  obtain ⟨-, rfl⟩ := offsetOfLine_eq_ok_iff.1 hn
  have htake : ((lines t).take j).take i = (lines t).take i := by
    rw [List.take_take, Nat.min_eq_left hij]
  rw [← List.take_append_drop i ((lines t).take j), htake, Line.total_append]
  exact Nat.le_add_right _ _

end LineNumbers

/-! ## Line numbers and tokens

A span of a diff counts tokens and never reaches further than their number, and up to there the
lines and the tokens are the same.  So what a diff says about tokens can be carried out on the text
by line numbers. -/

/-- The text of the first `i` tokens. -/
def firstLines (t : Text) (i : Nat) : Text := ((diffTokens t).take i).flatten

/-- A text falls apart behind its first `i` tokens. -/
theorem firstLines_append (t : Text) (i : Nat) :
    firstLines t i ++ ((diffTokens t).drop i).flatten = t := by
  rw [firstLines, ← List.flatten_append, List.take_append_drop, flatten_diffTokens]

/-- Behind some tokens come the next ones. -/
theorem firstLines_between (t : Text) {i j : Nat} (h : i ≤ j) :
    firstLines t i ++ (((diffTokens t).take j).drop i).flatten = firstLines t j := by
  have htake : ((diffTokens t).take j).take i = (diffTokens t).take i := by
    rw [List.take_take, Nat.min_eq_left h]
  rw [firstLines, firstLines, ← htake, ← List.flatten_append, List.take_append_drop]

/-- Up to the number of tokens, it makes no difference whether lines or tokens are counted. -/
theorem flatten_take_lines {t : Text} {i : Nat} (h : i ≤ (diffTokens t).length) :
    (((lines t).take i).map Line.text).flatten = firstLines t i := by
  obtain ⟨r, hr, -⟩ := map_text_lines t
  rw [List.map_take, hr, List.take_append_of_le_length h, firstLines]

/-- **A line starts where the tokens in front of it end.** -/
theorem offsetOfLine_eq {t : Text} {i : Nat} (h : i ≤ (diffTokens t).length) :
    offsetOfLine t i = .ok (byteLen (firstLines t i)) := by
  rw [offsetOfLine_eq_ok_iff, Line.total, flatten_take_lines h]
  exact ⟨Nat.le_trans h (length_diffTokens_le t), rfl⟩

/-- **Lines end where the tokens end.** -/
theorem endOfLines_eq {t : Text} {i : Nat} (h : i ≤ (diffTokens t).length) :
    endOfLines t i = .ok (byteLen (firstLines t i)) :=
  (endOfLines_eq_offsetOfLine t i).trans (offsetOfLine_eq h)

end Text

end Emend
