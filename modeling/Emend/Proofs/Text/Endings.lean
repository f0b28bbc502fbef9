import Emend.Proofs.Result
import Emend.Proofs.Text.Positions

/-!
# The place inside a line ending

Positions address every boundary of a text but one kind: that between the carriage return and the
line feed of one ending.  Its position lies one column past the content of the line, and such a
column addresses the end of the content.

* `Text.splitsEnding` tests for that kind, and `Text.addressable` is the offset that the position of
  an offset has.
* `Text.linesJoin` cuts a text that falls apart elsewhere into the lines of both parts, so there
  every boundary is a place in the content of a line (`Text.exists_at`).
* `Text.exists_within` says how an offset becomes a position, and which offset that position has;
  `Text.exists_within_of_positionOfOffset` starts from the position.

The test looks at two characters of the text and knows nothing of lines.  That it finds just the
places inside an ending takes an argument, because `\r\n` could be the end of one ending and the
start of another if lines were cut differently.  They are not: a carriage return in front of a line
feed is never an ending of its own.
-/

set_option autoImplicit false

namespace Emend

theorem PositionEncoding.offsetOfColumn_of_width_le (e : PositionEncoding) {t : Text} {n : Nat}
    (h : e.width t ≤ n) : e.offsetOfColumn t n = Text.byteLen t := by
  induction t generalizing n with
  | nil => rfl
  | cons c t ih =>
    rw [width] at h
    rw [offsetOfColumn, if_pos (by omega), ih (by omega), Text.byteLen_cons]

namespace Text

/-- Whether an offset lies between the carriage return and the line feed of one line ending. -/
def splitsEnding (t : Text) (n : Nat) : Bool :=
  (takeBytes n t).getLast? = some '\r' && (dropBytes n t).head? = some '\n'

/-- The offset that the position of an offset has: inside a line ending, where that starts. -/
def addressable (t : Text) (n : Nat) : Nat := if splitsEnding t n then n - 1 else n

variable {t q : Text} {n i : Nat}

theorem addressable_le (t : Text) (n : Nat) : addressable t n ≤ n := by
  rw [addressable]
  split <;> omega

theorem addressable_of_not_splits (h : splitsEnding t n = false) : addressable t n = n := by
  rw [addressable, h]
  rfl

/-- Moving out of line endings keeps the order of offsets. -/
theorem addressable_le_addressable {m : Nat} (h : m ≤ n) : addressable t m ≤ addressable t n := by
  cases hn : splitsEnding t n with
  | false =>
    rw [addressable_of_not_splits hn]
    exact Nat.le_trans (addressable_le t m) h
  | true =>
    rcases Nat.lt_or_eq_of_le h with hlt | rfl
    · have hm := addressable_le t m
      have hmoved : addressable t n = n - 1 := by rw [addressable, hn, if_pos rfl]
      omega
    · exact Nat.le_refl _

/-! ## Cutting a text

Where a text `p ++ s` is cut without cutting an ending, its lines are those of the two parts, joined
at the last line of `p`, which has no ending, and the first of `s`.  The induction is along `lines
p`; only in its last step, where `p` is a single carriage return, does the condition on the cut come
in. -/

theorem lines_cr {t : Text} (h : t.head? ≠ some '\n') :
    lines ('\r' :: t) = ⟨[], some .cr⟩ :: lines t := by
  rw [lines]
  rintro t' rfl
  exact h rfl

theorem lines_cons {c : Char} {t : Text} (hlf : c ≠ '\n') (hcr : c ≠ '\r') :
    lines (c :: t) = (lines t).modifyHead fun l ↦ { l with content := c :: l.content } := by
  rw [lines]
  · exact hlf
  · exact fun _ h ↦ absurd h hcr
  · exact hcr

/-- The lines of two texts are those of the two in sequence, where the last line of the one goes on
with the first of the other. -/
def LinesJoin (p s : Text) : Prop :=
  ∃ before q, lines p = before ++ [⟨q, none⟩] ∧ ∀ l after, lines s = l :: after →
    lines (p ++ s) = before ++ { l with content := q ++ l.content } :: after

/-- A line that is closed before the cut stays as it is. -/
theorem LinesJoin.closed {p p' s : Text} {l : Line} (h : LinesJoin p s)
    (hp : lines p' = l :: lines p) (hps : lines (p' ++ s) = l :: lines (p ++ s)) :
    LinesJoin p' s := by
  obtain ⟨before, q, hq, hs⟩ := h
  refine ⟨l :: before, q, by rw [hp, hq, List.cons_append], fun l' after hl' ↦ ?_⟩
  rw [hps, hs l' after hl', List.cons_append]

/-- **Lines join wherever no line ending is cut.** -/
theorem linesJoin {p s : Text} (h : ¬ (p.getLast? = some '\r' ∧ s.head? = some '\n')) :
    LinesJoin p s := by
  have tail {c : Char} {p : Text} (h : ¬ ((c :: p).getLast? = some '\r' ∧ s.head? = some '\n')) :
      ¬ (p.getLast? = some '\r' ∧ s.head? = some '\n') := by
    rintro ⟨hlast, hhead⟩
    exact h ⟨by rw [List.getLast?_cons, hlast]; rfl, hhead⟩
  fun_induction lines p with
  | case1 => exact ⟨[], [], rfl, fun l after hl ↦ by simpa using hl⟩
  | case2 p ih => exact (ih (tail h)).closed (by rw [lines]) (by rw [List.cons_append, lines])
  | case3 p ih =>
    refine (ih (tail (tail h))).closed (by rw [lines]) ?_
    rw [List.cons_append, List.cons_append, lines]
  | case4 p hp ih =>
    have hhead : p.head? ≠ some '\n' := fun heq ↦
      (List.head?_eq_some_iff.1 heq).elim fun p' hp' ↦ hp p' hp'
    refine (ih (tail h)).closed (lines_cr hhead) (lines_cr ?_)
    cases p with
    | nil => exact fun hs ↦ h ⟨rfl, hs⟩
    | cons c p => exact hhead
  | case5 c p hlf _ hcr ih =>
    obtain ⟨before, q, hq, hs⟩ := ih (tail h)
    rw [LinesJoin, List.cons_append, lines_cons hlf hcr, lines_cons hlf hcr, hq]
    cases before with
    | nil =>
      refine ⟨[], c :: q, rfl, fun l after hl ↦ ?_⟩
      rw [hs l after hl]
      rfl
    | cons b before =>
      refine ⟨{ b with content := c :: b.content } :: before, q, rfl, fun l after hl ↦ ?_⟩
      rw [hs l after hl]
      rfl

/-! ## Places

A boundary is a place in the content of a line, or inside an ending, and the test decides which
(`exists_at` and `exists_inside`).  For the second, the text is cut in front of the whole ending
instead, which is a cut of the first kind. -/

/-- The offset lies in line `i` between the two characters of its ending, and `q` is its content. -/
def Inside (t : Text) (offset i : Nat) (q : Text) : Prop :=
  ∃ before after, lines t = before ++ ⟨q, some .crlf⟩ :: after ∧ i = before.length ∧
    offset = Line.total before + byteLen q + 1

namespace Inside

theorem within (h : Inside t n i q) : Within t n i (q ++ ['\r']) := by
  obtain ⟨before, after, hlines, rfl, rfl⟩ := h
  refine ⟨before, _, after, ['\n'], hlines, ?_, nofun, rfl, ?_⟩
  · simp [Line.text, LineEnding.text]
  · rw [byteLen_append]
    rfl

/-- In front of the ending, the content stops. -/
theorem at_content (h : Inside t n i q) : At t (n - 1) i q := by
  obtain ⟨before, after, hlines, rfl, rfl⟩ := h
  exact ⟨before, _, after, [], hlines, (List.append_nil q).symm, rfl, rfl⟩

/-- The offset of the position of a place inside an ending. -/
theorem offsetOfPosition (h : Inside t n i q) (hsize : byteLen t < UInt32.size)
    (e : PositionEncoding) :
    offsetOfPosition t e ⟨i.toUInt32, e.columnOf (q ++ ['\r'])⟩ = .ok (n - 1) := by
  obtain ⟨hi, hq⟩ := h.within.lt_of_byteLen_lt hsize
  obtain ⟨before, after, hlines, rfl, rfl⟩ := h
  have hline : before.length.toUInt32.toNat = before.length := UInt32.toNat_ofNat_of_lt' hi
  have hpast : e.width q ≤ e.width (q ++ ['\r']) := by
    rw [e.width_append]
    exact Nat.le_add_right _ _
  rw [Text.offsetOfPosition]
  simp only [hline, placedLines_getElem?_of_lines hlines, PositionEncoding.toNat_columnOf hq,
    e.offsetOfColumn_of_width_le hpast, Nat.add_sub_cancel]

end Inside

/-- A place in the content of a line is not inside an ending. -/
theorem At.not_inside {q' : Text} {i' : Nat} (h : At t n i q) : ¬ Inside t n i' q' := by
  intro h'
  obtain rfl : i = i' :=
    Except.ok.inj (h.within.lineOfOffset.symm.trans h'.within.lineOfOffset)
  obtain ⟨l, r, hget, hcontent, hn⟩ := h.placedLines_getElem?
  obtain ⟨before, after, hlines, rfl, hn'⟩ := h'
  obtain rfl := Option.some.inj (hget.symm.trans (placedLines_getElem?_of_lines hlines))
  have hlen := congrArg byteLen hcontent
  rw [byteLen_append] at hlen
  simp only at hn hlen
  omega

/-- A boundary that cuts no line ending is a place in the content of a line. -/
theorem exists_at (hb : isBoundary t n = true) (hn : splitsEnding t n = false) :
    ∃ i q, At t n i q := by
  obtain ⟨p, s, rfl, rfl⟩ := isBoundary_iff.1 hb
  rw [splitsEnding, takeBytes_append_byteLen, dropBytes_append_byteLen] at hn
  obtain ⟨before, q, hq, hs⟩ := linesJoin (p := p) (s := s) (by simpa using hn)
  obtain ⟨l, after, hl⟩ := List.exists_cons_of_ne_nil (lines_ne_nil s)
  refine ⟨before.length, q, before, _, after, l.content, hs l after hl, rfl, rfl, ?_⟩
  have := congrArg byteLen (flatten_lines p)
  rw [hq] at this
  simpa [Line.total, Line.text] using this.symm

/-- A boundary that cuts a line ending is a place inside that. -/
theorem exists_inside (hb : isBoundary t n = true) (hn : splitsEnding t n = true) :
    ∃ i q, Inside t n i q := by
  obtain ⟨p, s, rfl, rfl⟩ := isBoundary_iff.1 hb
  rw [splitsEnding, takeBytes_append_byteLen, dropBytes_append_byteLen, Bool.and_eq_true,
    decide_eq_true_eq, decide_eq_true_eq] at hn
  obtain ⟨p, rfl⟩ := List.getLast?_eq_some_iff.1 hn.1
  obtain ⟨s, rfl⟩ := List.head?_eq_some_iff.1 hn.2
  -- the text is cut in front of the whole ending instead
  obtain ⟨before, q, hq, hs⟩ := linesJoin (p := p) (s := '\r' :: '\n' :: s) (by simp)
  refine ⟨before.length, q, before, lines s, ?_, rfl, ?_⟩
  · rw [List.append_assoc]
    simpa using hs _ _ rfl
  · have := congrArg byteLen (flatten_lines p)
    rw [hq] at this
    have hcr : byteLen (p ++ ['\r']) = byteLen p + 1 := byteLen_append p ['\r']
    rw [hcr]
    simpa [Line.total, Line.text] using this.symm

theorem At.splitsEnding (h : At t n i q) : splitsEnding t n = false := by
  refine Bool.eq_false_iff.2 fun hn ↦ ?_
  obtain ⟨i', q', hinside⟩ := exists_inside h.within.isBoundary hn
  exact h.not_inside hinside

/-- **Every boundary is a place, and its position has the offset outside line endings.** -/
theorem exists_within (hb : isBoundary t n = true) : ∃ i q, Within t n i q ∧
    (byteLen t < UInt32.size → ∀ e,
      offsetOfPosition t e ⟨i.toUInt32, e.columnOf q⟩ = .ok (addressable t n)) := by
  cases hn : splitsEnding t n with
  | false =>
    obtain ⟨i, q, h⟩ := exists_at hb hn
    rw [addressable_of_not_splits hn]
    exact ⟨i, q, h.within, h.offsetOfPosition⟩
  | true =>
    obtain ⟨i, q, h⟩ := exists_inside hb hn
    rw [addressable, hn, if_pos rfl]
    exact ⟨i, _, h.within, h.offsetOfPosition⟩

/-- Only boundaries have positions. -/
theorem exists_within_of_positionOfOffset {e : PositionEncoding} {p : Position}
    (h : positionOfOffset t e n = .ok p) : ∃ i q, Within t n i q ∧ p = ⟨i.toUInt32, e.columnOf q⟩ ∧
      (byteLen t < UInt32.size → offsetOfPosition t e p = .ok (addressable t n)) := by
  obtain ⟨_, hcheck, -⟩ := exists_of_bind_eq_ok h
  obtain ⟨i, q, hwithin, hoffset⟩ := exists_within (checkOffset_eq_ok_iff.1 hcheck)
  obtain rfl := Except.ok.inj ((hwithin.positionOfOffset e).symm.trans h)
  exact ⟨i, q, hwithin, rfl, fun hsize ↦ hoffset hsize e⟩

/-- Outside line endings there is a boundary as well. -/
theorem isBoundary_addressable (hb : isBoundary t n = true) :
    isBoundary t (addressable t n) = true := by
  cases hn : Text.splitsEnding t n with
  | false => rwa [addressable_of_not_splits hn]
  | true =>
    obtain ⟨i, q, h⟩ := exists_inside hb hn
    rw [addressable, hn, if_pos rfl]
    exact h.at_content.within.isBoundary

end Text

end Emend
