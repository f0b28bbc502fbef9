import Emend.Proofs.Text.Bounds
import Mathlib.Order.Bounds.Basic

/-!
# Positions and offsets in order

Positions are ordered by line and column, and the boundaries of a text by offset.

* `Text.positionOfOffset_embeds`: the boundaries are the offsets that have a position, their
  positions come in the same order, and each leads back to its offset outside line endings.
* `Text.offsetOfPosition_isGreatest`: a position has the greatest offset that it reaches
  (`Text.reach`), that is, the last boundary in the content of its line with a column that is not
  past its own.  So a column inside a character is rounded down, one past the content is cut, and
  later positions never have earlier offsets.

The two theorems describe one pair of maps from its two sides.  Boundaries go into positions without
losing anything, and only one kind of them does not come back.  Positions go into offsets by
rounding, so many of them have one offset, but the order is never turned around; this is what makes
edits that lie apart by their positions lie apart by their offsets.
-/

set_option autoImplicit false

namespace Emend

/-! ## Columns -/

/-- A column addresses the end of the longest part of a line that is no wider.  By induction on the
line: its first character either fits, and the others follow it, or nothing fits. -/
theorem PositionEncoding.exists_offsetOfColumn (e : PositionEncoding) (t : Text) (column : Nat) :
    ∃ q r, t = q ++ r ∧ e.offsetOfColumn t column = Text.byteLen q ∧ e.width q ≤ column ∧
      ∀ q', q' <+: t → e.width q' ≤ column → Text.byteLen q' ≤ Text.byteLen q := by
  induction t generalizing column with
  | nil =>
    refine ⟨[], [], rfl, rfl, Nat.zero_le _, fun q' hq' _ ↦ ?_⟩
    rw [List.prefix_nil.1 hq']
  | cons c t ih =>
    by_cases hc : e.charWidth c ≤ column
    · obtain ⟨q, r, rfl, hoffset, hwidth, hmax⟩ := ih (column - e.charWidth c)
      refine ⟨c :: q, r, rfl, ?_, ?_, fun q' hq' hwidth' ↦ ?_⟩
      · rw [offsetOfColumn, if_pos hc, hoffset, Text.byteLen_cons]
      · rw [width]
        omega
      · cases q' with
        | nil => exact Nat.zero_le _
        | cons c' q' =>
          obtain ⟨rfl, htail⟩ := List.cons_prefix_cons.1 hq'
          rw [width] at hwidth'
          have := hmax q' htail (by omega)
          rw [Text.byteLen_cons, Text.byteLen_cons]
          omega
    · refine ⟨[], c :: t, rfl, ?_, Nat.zero_le _, fun q' hq' hwidth' ↦ ?_⟩
      · rw [offsetOfColumn, if_neg hc, Text.byteLen_nil]
      · cases q' with
        | nil => exact Nat.le_refl _
        | cons c' q' =>
          obtain ⟨rfl, -⟩ := List.cons_prefix_cons.1 hq'
          rw [width] at hwidth'
          omega

namespace Text

variable {t : Text} {e : PositionEncoding} {p p' : Position} {m n : Nat}

/-! ## The offset of a position -/

/-- **A position has no offset exactly if its line does not exist.** -/
theorem offsetOfPosition_eq_error_iff {error : TextError} :
    offsetOfPosition t e p = .error error ↔
      lineCount t ≤ p.line.toNat ∧ error = .lineOutOfRange p.line.toNat (lineCount t) := by
  have hlength : (placedLines t).length = lineCount t := PlacedLine.length_place 0 (lines t)
  rw [offsetOfPosition]
  cases hget : (placedLines t)[p.line.toNat]? with
  | some l =>
    have hlt : p.line.toNat < lineCount t :=
      hlength ▸ (List.getElem?_eq_some_iff.1 hget).1
    refine ⟨fun h ↦ ?_, fun h ↦ absurd h.1 (Nat.not_le_of_lt hlt)⟩
    cases h
  | none =>
    have hle : lineCount t ≤ p.line.toNat := hlength ▸ List.getElem?_eq_none_iff.1 hget
    exact ⟨fun h ↦ ⟨hle, (Except.error.inj h).symm⟩, fun h ↦ congrArg Except.error h.2.symm⟩

theorem exists_offsetOfPosition (h : p.line.toNat < lineCount t) :
    ∃ n, offsetOfPosition t e p = .ok n := by
  cases hp : offsetOfPosition t e p with
  | ok n => exact ⟨n, rfl⟩
  | error error => exact absurd (offsetOfPosition_eq_error_iff.1 hp).1 (Nat.not_le_of_lt h)

/-- **The offset of a position is a place in the content of its line**, the last one behind a part
that is no wider than the column. -/
theorem exists_at_of_offsetOfPosition (h : offsetOfPosition t e p = .ok n) :
    ∃ q, At t n p.line.toNat q ∧ e.width q ≤ p.character.toNat ∧
      ∀ m r, At t m p.line.toNat r → e.width r ≤ p.character.toNat → m ≤ n := by
  rw [offsetOfPosition, placedLines, PlacedLine.place_getElem?] at h
  cases hget : (lines t)[p.line.toNat]? with
  | none => simp [hget] at h
  | some l =>
    obtain ⟨q, r, hcontent, hoffset, hwidth, hmax⟩ :=
      e.exists_offsetOfColumn l.content p.character.toNat
    obtain rfl : Line.total ((lines t).take p.line.toNat) + byteLen q = n := by
      simpa [hget, hoffset, Line.total] using h
    refine ⟨q, at_iff.2 ⟨l, hget, ⟨r, hcontent.symm⟩, rfl⟩, hwidth, fun m x hx hwidth' ↦ ?_⟩
    obtain ⟨l', hget', hx, rfl⟩ := at_iff.1 hx
    obtain rfl := Option.some.inj (hget.symm.trans hget')
    exact Nat.add_le_add_left (hmax x hx hwidth') _

/-- **Later positions have no earlier offsets.**  In one line, what the earlier position reaches the
later one reaches too; and the content of a line ends before the next line starts. -/
theorem offset_le_of_position_le (hle : p ≤ p') (hp : offsetOfPosition t e p = .ok m)
    (hp' : offsetOfPosition t e p' = .ok n) : m ≤ n := by
  obtain ⟨q, hq, hwidth, -⟩ := exists_at_of_offsetOfPosition hp
  obtain ⟨r, hr, -, hmax⟩ := exists_at_of_offsetOfPosition hp'
  rcases Position.le_iff.1 hle with hline | ⟨hline, hcolumn⟩
  · exact Nat.le_of_lt (hq.within.offset_lt hr.within hline)
  · rw [hline] at hq
    exact hmax m q hq (Nat.le_trans hwidth hcolumn)

/-! ## What a position reaches

`reach` is the set of boundaries that a position could stand for, in terms of offsets alone.  The
offset of a position is the greatest of them, which covers the clipping of a column at the end of a
line and the rounding of one inside a character by the same condition. -/

/-- The boundaries in the content of the line of a position, up to its column. -/
def reach (t : Text) (e : PositionEncoding) (p : Position) : Set Nat :=
  {n | ∃ l start, (lines t)[p.line.toNat]? = some l ∧ offsetOfLine t p.line.toNat = .ok start ∧
    start ≤ n ∧ n ≤ start + byteLen l.content ∧ isBoundary t n = true ∧
    e.columnOf (between t start n) ≤ p.character}

theorem mem_reach_iff (hsize : byteLen t < UInt32.size) :
    n ∈ reach t e p ↔ ∃ q, At t n p.line.toNat q ∧ e.width q ≤ p.character.toNat := by
  have hcolumn {start : Nat} {q : Text} (hq : At t n p.line.toNat q)
      (hstart : offsetOfLine t p.line.toNat = .ok start) :
      e.columnOf (between t start n) ≤ p.character ↔ e.width q ≤ p.character.toNat := by
    rw [hq.within.between_eq hstart, UInt32.le_iff_toNat_le,
      PositionEncoding.toNat_columnOf (hq.within.lt_of_byteLen_lt hsize).2]
  constructor
  · rintro ⟨l, start, hget, hstart, hle, hle', hb, hwidth⟩
    have hcontent := at_iff.2 ⟨l, hget, List.prefix_refl l.content, rfl⟩
    obtain ⟨x, s, ht, hend, hx⟩ := hcontent.within.exists_offsetOfLine
    obtain rfl := Except.ok.inj (hstart.symm.trans hx)
    rw [ht, isBoundary_middle hle hle'] at hb
    obtain ⟨q, r, hqr, hq⟩ := isBoundary_iff.1 hb
    have hat : At t n p.line.toNat q := at_iff.2 ⟨l, hget, ⟨r, hqr.symm⟩, by omega⟩
    exact ⟨q, hat, (hcolumn hat hstart).1 hwidth⟩
  · rintro ⟨q, hat, hwidth⟩
    obtain ⟨l, hget, hprefix, hn⟩ := at_iff.1 hat
    obtain ⟨x, s, -, hend, hx⟩ := hat.within.exists_offsetOfLine
    obtain ⟨r, hr⟩ := hprefix
    have hlen : byteLen l.content = byteLen q + byteLen r := by rw [← hr, byteLen_append]
    exact ⟨l, byteLen x, hget, hx, by omega, by omega, hat.within.isBoundary,
      (hcolumn hat hx).2 hwidth⟩

theorem isGreatest_of_offsetOfPosition (hsize : byteLen t < UInt32.size)
    (h : offsetOfPosition t e p = .ok n) : IsGreatest (reach t e p) n := by
  obtain ⟨q, hq, hwidth, hmax⟩ := exists_at_of_offsetOfPosition h
  refine ⟨(mem_reach_iff hsize).2 ⟨q, hq, hwidth⟩, fun m hm ↦ ?_⟩
  obtain ⟨r, hr, hwidth'⟩ := (mem_reach_iff hsize).1 hm
  exact hmax m r hr hwidth'

/-- **A position has the greatest offset that it reaches.**  It has none exactly if its line does
not exist, and later positions have no earlier offsets. -/
theorem offsetOfPosition_isGreatest (t : Text) (e : PositionEncoding)
    (hsize : byteLen t < UInt32.size) :
    (∀ p error, offsetOfPosition t e p = .error error ↔
      lineCount t ≤ p.line.toNat ∧ error = .lineOutOfRange p.line.toNat (lineCount t)) ∧
    (∀ p n, offsetOfPosition t e p = .ok n ↔ IsGreatest (reach t e p) n) ∧
    ∀ p p' m n, p ≤ p' → offsetOfPosition t e p = .ok m → offsetOfPosition t e p' = .ok n →
      m ≤ n := by
  refine ⟨fun p error ↦ offsetOfPosition_eq_error_iff,
    fun p n ↦ ⟨isGreatest_of_offsetOfPosition hsize, fun h ↦ ?_⟩,
    fun p p' m n ↦ offset_le_of_position_le⟩
  obtain ⟨l, start, hget, -⟩ := h.1
  obtain ⟨m, hm⟩ := exists_offsetOfPosition (e := e) (List.getElem?_eq_some_iff.1 hget).1
  rw [hm, (isGreatest_of_offsetOfPosition hsize hm).unique h]

/-- A column inside a character, and one past the content of a line. -/
theorem offsetOfPosition_isGreatest_rounded :
    let t : Text := ['a', '😀', '\r', '\n', 'b']
    byteLen t < UInt32.size ∧ IsGreatest (reach t .utf16 ⟨0, 2⟩) 1 ∧
      IsGreatest (reach t .utf16 ⟨0, 9⟩) 5 := by
  intro t
  have hsize : byteLen t < UInt32.size := by decide
  have h := (offsetOfPosition_isGreatest t .utf16 hsize).2.1
  exact ⟨hsize, (h ⟨0, 2⟩ 1).1 rfl, (h ⟨0, 9⟩ 5).1 rfl⟩

/-! ## Offsets as positions

Boundaries go to positions in order, and so no two of them have one position.  The way back is the
inverse where it can be.  It cannot be inside a line ending, since a position there would have to
address a column behind the content. -/

/-- **Offsets and positions come in one order.**  The boundaries are the offsets that have a
position, later boundaries have later positions, and the offset of a position is the one it was
made from, but for the one place that no position addresses: from between the two characters of a
line ending, it leads to the end of the content in front of that. -/
theorem positionOfOffset_embeds (t : Text) (e : PositionEncoding)
    (hsize : byteLen t < UInt32.size) :
    (∀ n, (∃ p, positionOfOffset t e n = .ok p) ↔ n ≤ byteLen t ∧ isBoundary t n = true) ∧
    (∀ m n p p', positionOfOffset t e m = .ok p → positionOfOffset t e n = .ok p' →
      (p < p' ↔ m < n)) ∧
    ∀ n p, positionOfOffset t e n = .ok p →
      (splitsEnding t n = false → offsetOfPosition t e p = .ok n) ∧
      (splitsEnding t n = true → offsetOfPosition t e p = .ok (n - 1)) := by
  refine ⟨fun n ↦ ⟨fun ⟨p, hp⟩ ↦ ?_, fun ⟨_, hb⟩ ↦ ?_⟩, fun m n p p' hp hp' ↦ ⟨fun hlt ↦ ?_,
    fun hlt ↦ position_lt_position hp hp' hlt hsize⟩, fun n p hp ↦ ?_⟩
  · obtain ⟨i, q, hq, -⟩ := exists_within_of_positionOfOffset hp
    exact ⟨le_byteLen_of_isBoundary hq.isBoundary, hq.isBoundary⟩
  · obtain ⟨i, q, hq, -⟩ := exists_within hb
    exact ⟨_, hq.positionOfOffset e⟩
  · exact Nat.lt_of_not_le fun hle ↦ position_le_position hp' hp hle hsize hlt
  · obtain ⟨i, q, -, -, hoffset⟩ := exists_within_of_positionOfOffset hp
    rw [hoffset hsize]
    constructor <;> intro hn
    · rw [addressable_of_not_splits hn]
    · rw [addressable, hn, if_pos rfl]

/-- The three places around the two characters of a line ending. -/
theorem positionOfOffset_embeds_around_ending :
    let t : Text := ['é', '\r', '\n', 'b']
    byteLen t < UInt32.size ∧
      positionOfOffset t .utf8 2 = .ok ⟨0, 2⟩ ∧ offsetOfPosition t .utf8 ⟨0, 2⟩ = .ok 2 ∧
      positionOfOffset t .utf8 3 = .ok ⟨0, 3⟩ ∧ offsetOfPosition t .utf8 ⟨0, 3⟩ = .ok 2 ∧
      positionOfOffset t .utf8 4 = .ok ⟨1, 0⟩ ∧ offsetOfPosition t .utf8 ⟨1, 0⟩ = .ok 4 := by
  intro t
  have hsize : byteLen t < UInt32.size := by decide
  have h := (positionOfOffset_embeds t .utf8 hsize).2.2
  exact ⟨hsize, rfl, (h 2 _ rfl).1 (by decide), rfl, (h 3 _ rfl).2 (by decide), rfl,
    (h 4 _ rfl).1 (by decide)⟩

end Text

end Emend
