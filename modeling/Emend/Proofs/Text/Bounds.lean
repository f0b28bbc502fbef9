import Emend.Proofs.Text.Endings

/-!
# Where lines start, and where the text ends

The offsets that lines have are those that positions on a line bound stand for: positions without a
column, and the last position of the text (`Text.exists_at_of_offsetOfLine`).  Positions keep the
order of offsets (`Text.position_le_position`).

Edits that are made from line numbers run between such bounds, and that is what makes them edits of
whole lines in the form of the protocol too.
-/

set_option autoImplicit false

namespace Emend.Text

variable {t : Text} {i m n : Nat}

/-- A line starts at the position, or the text ends there. -/
def IsLineBound (t : Text) (encoding : PositionEncoding) (p : Position) : Prop :=
  (p.line.toNat < lineCount t ∧ p.character = 0) ∨ p = t.endPosition encoding

/-- **The offset of a line is that of a position on a line bound.** -/
theorem exists_at_of_offsetOfLine (h : offsetOfLine t i = .ok n) : ∃ j q, At t n j q ∧
    ∀ encoding : PositionEncoding, byteLen t < UInt32.size →
      t.IsLineBound encoding ⟨j.toUInt32, encoding.columnOf q⟩ := by
  obtain ⟨hle, rfl⟩ := offsetOfLine_eq_ok_iff.1 h
  rcases Nat.lt_or_eq_of_le hle with hlt | rfl
  · refine ⟨i, [], at_line hlt, fun encoding hsize ↦ .inl ⟨?_, rfl⟩⟩
    have hsmall := ((at_line hlt).within.lt_of_byteLen_lt hsize).1
    have hline : i.toUInt32.toNat = i := UInt32.toNat_ofNat_of_lt' hsmall
    rwa [hline]
  · obtain ⟨j, q, hat, hposition⟩ := exists_at_end t
    have htake : (lines t).take (lineCount t) = lines t := List.take_length
    rw [htake, total_lines]
    exact ⟨j, q, hat, fun encoding _ ↦ .inr (hposition encoding).symm⟩

theorem isLineBound_of_offsetOfLine {encoding : PositionEncoding} {p : Position}
    (h : offsetOfLine t i = .ok n) (hp : positionOfOffset t encoding n = .ok p)
    (hsize : byteLen t < UInt32.size) : t.IsLineBound encoding p := by
  obtain ⟨j, q, hat, hbound⟩ := exists_at_of_offsetOfLine h
  obtain rfl := Except.ok.inj ((hat.within.positionOfOffset encoding).symm.trans hp)
  exact hbound encoding hsize

/-- No line bound lies inside a character. -/
theorem isBoundary_of_offsetOfLine (h : offsetOfLine t i = .ok n) : isBoundary t n = true := by
  obtain ⟨j, q, hat, -⟩ := exists_at_of_offsetOfLine h
  exact hat.within.isBoundary

/-- **Positions keep the order of offsets.** -/
theorem position_le_position {encoding : PositionEncoding} {p q : Position}
    (hp : positionOfOffset t encoding m = .ok p) (hq : positionOfOffset t encoding n = .ok q)
    (hle : m ≤ n) (hsize : byteLen t < UInt32.size) : p ≤ q := by
  obtain ⟨i, x, hx, rfl, -⟩ := exists_within_of_positionOfOffset hp
  obtain ⟨j, y, hy, rfl, -⟩ := exists_within_of_positionOfOffset hq
  exact hx.not_lt hy hle hsize encoding

theorem position_lt_position {encoding : PositionEncoding} {p q : Position}
    (hp : positionOfOffset t encoding m = .ok p) (hq : positionOfOffset t encoding n = .ok q)
    (hlt : m < n) (hsize : byteLen t < UInt32.size) : p < q := by
  obtain ⟨i, x, hx, rfl, -⟩ := exists_within_of_positionOfOffset hp
  obtain ⟨j, y, hy, rfl, -⟩ := exists_within_of_positionOfOffset hq
  exact hx.lt hy hlt hsize encoding

end Emend.Text
