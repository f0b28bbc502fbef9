import Emend.Proofs.Text.Starts
import Emend.Text.Position

/-!
# Positions address the content of lines

Every place in a text has a position, in each encoding.  If it lies within the content of a line,
that position has the offset of the place again, as long as the text is shorter than the 32 bits of
a line number or a column can count.

* `Text.Within t offset i q` says that the offset lies in line `i`, behind the part `q` of it, and
  `Text.At t offset i q` that this is a part of its content.
* `Text.Within.positionOfOffset` and `Text.At.offsetOfPosition` are the two conversions, and
  `Text.Within.lt` says that positions keep the order of offsets.
* `Text.positionOfOffset_byteLen` and `Text.offsetOfPosition_endPosition` say that the last position
  is that of the end of the text.

A place is given by lines and not by numbers: the lines in front of it, the part of its own line in
front of it, and the rest.  Both conversions compute with these, the offset by adding up bytes and
the position by counting lines and units, so a place is what the two have in common.
-/

set_option autoImplicit false

namespace Emend

/-! ## Columns

A column counts units, an offset bytes, and a character has at least one unit and no more units than
bytes in any encoding.  The first makes a column determine how much of a line is in front of it.
The second bounds every column by the length of the text, and this is where the hypotheses on
`UInt32.size` come from. -/

namespace PositionEncoding

theorem charWidth_pos (e : PositionEncoding) (c : Char) : 0 < e.charWidth c := by
  cases e with
  | utf8 => exact c.utf8Size_pos
  | utf16 =>
    rw [charWidth]
    split <;> omega
  | utf32 => exact Nat.one_pos

theorem charWidth_le (e : PositionEncoding) (c : Char) : e.charWidth c ≤ c.utf8Size := by
  cases e with
  | utf8 => exact Nat.le_refl _
  | utf16 =>
    rw [charWidth]
    split
    · exact c.utf8Size_pos
    · next h =>
      have hwide : ¬ c.val.toNat < 65536 := h
      rw [Char.utf8Size]
      split
      · next hle =>
        have : c.val.toNat ≤ 127 := hle
        omega
      · split
        · exact Nat.le_refl 2
        · split <;> omega
  | utf32 => exact c.utf8Size_pos

@[simp] theorem width_append (e : PositionEncoding) (q r : Text) :
    e.width (q ++ r) = e.width q + e.width r := by
  induction q with
  | nil => simp [width]
  | cons c q ih => simp [width, ih, Nat.add_assoc]

theorem width_pos (e : PositionEncoding) {t : Text} (h : t ≠ []) : 0 < e.width t := by
  cases t with
  | nil => exact absurd rfl h
  | cons c t => exact Nat.add_pos_left (e.charWidth_pos c) (e.width t)

/-- A text has at least as many bytes as units of any encoding. -/
theorem width_le (e : PositionEncoding) (t : Text) : e.width t ≤ Text.byteLen t := by
  induction t with
  | nil => exact Nat.le_refl 0
  | cons c t ih => exact Nat.add_le_add (e.charWidth_le c) ih

theorem offsetOfColumn_zero (e : PositionEncoding) (t : Text) : e.offsetOfColumn t 0 = 0 := by
  cases t with
  | nil => rfl
  | cons c t =>
    have := e.charWidth_pos c
    rw [offsetOfColumn, if_neg (by omega)]

/-- The column behind a part of a line addresses the end of that part. -/
theorem offsetOfColumn_width (e : PositionEncoding) (q r : Text) :
    e.offsetOfColumn (q ++ r) (e.width q) = Text.byteLen q := by
  induction q with
  | nil => exact e.offsetOfColumn_zero r
  | cons c q ih =>
    rw [List.cons_append, offsetOfColumn, width, if_pos (Nat.le_add_right _ _),
      Nat.add_sub_cancel_left, ih, Text.byteLen_cons]

theorem toNat_columnOf {e : PositionEncoding} {q : Text} (h : Text.byteLen q < UInt32.size) :
    (e.columnOf q).toNat = e.width q := by
  have := e.width_le q
  rw [columnOf, Nat.toUInt32_eq, UInt32.toNat_ofNat_of_lt']
  exact Nat.lt_of_le_of_lt this h

end PositionEncoding

/-! ## The order of positions -/

namespace Position

variable {p q : Position}

/-- Positions are ordered by line, and within a line by column. -/
theorem lt_iff : p < q ↔ p.line.toNat < q.line.toNat ∨
    p.line.toNat = q.line.toNat ∧ p.character.toNat < q.character.toNat := by
  rw [← UInt32.lt_iff_toNat_lt, ← UInt32.lt_iff_toNat_lt, UInt32.toNat_inj]
  exact Iff.rfl

theorem le_iff : p ≤ q ↔ p.line.toNat < q.line.toNat ∨
    p.line.toNat = q.line.toNat ∧ p.character.toNat ≤ q.character.toNat := by
  have hnot : p ≤ q ↔ ¬ q < p := Iff.rfl
  rw [hnot, lt_iff]
  omega

theorem not_lt_origin (p : Position) : ¬ p < origin := by
  rw [lt_iff]
  rintro (h | ⟨-, h⟩) <;> exact absurd h (Nat.not_lt_zero _)

end Position

/-- A range from the first position on is never turned around. -/
theorem Range.between_origin (p : Position) : Range.between .origin p = ⟨.origin, p⟩ :=
  if_neg p.not_lt_origin

/-! ## Lines in front of a line -/

namespace PlacedLine

theorem place_append (start : Nat) (ls ls' : List Line) :
    place start (ls ++ ls') = place start ls ++ place (start + Line.total ls) ls' := by
  induction ls generalizing start with
  | nil => simp [place, Line.total]
  | cons l ls ih => simp [place, ih, Nat.add_assoc]

end PlacedLine

namespace Text

theorem ClosedButLast.ending_ne_none {ls ls' : List Line} {l : Line}
    (h : ClosedButLast (ls ++ l :: ls')) (hls' : ls' ≠ []) : l.ending ≠ none := by
  induction ls with
  | nil =>
    cases ls' with
    | nil => exact absurd rfl hls'
    | cons l' ls' => exact h.1
  | cons k ls ih =>
    cases ls with
    | nil => exact ih h.2
    | cons k' ls => exact ih h.2

theorem ClosedButLast.ending_eq_none {ls : List Line} {l : Line}
    (h : ClosedButLast (ls ++ [l])) : l.ending = none := by
  induction ls with
  | nil => exact h
  | cons k ls ih =>
    cases ls with
    | nil => exact ih h.2
    | cons k' ls => exact ih h.2

/-- Lines in front of another line are not empty. -/
theorem length_le_total {ls ls' : List Line} (h : ClosedButLast (ls ++ ls')) (hls' : ls' ≠ []) :
    ls.length ≤ Line.total ls := by
  induction ls with
  | nil => exact Nat.zero_le _
  | cons l ls ih =>
    have hne : ls ++ ls' ≠ [] := by simp [hls']
    have hl : l.ending ≠ none := @ClosedButLast.ending_ne_none [] (ls ++ ls') l h hne
    have hlt := byteLen_content_lt hl
    have hrest : ClosedButLast (ls ++ ls') := by
      cases hls : ls ++ ls' with
      | nil => simp [hls'] at hls
      | cons k ks =>
        rw [List.cons_append, hls] at h
        exact h.2
    have := ih hrest
    rw [Line.total_cons, List.length_cons]
    omega

/-! ## Places

`At` allows the end of the content, and `Within` everything up to the end of the line, which for a
line with an ending excludes the place where the next line starts.  So of a boundary there is one
`Within`, and `At` is the stronger of the two.  The conversion to a position works for both; the one
back clips a column to the content, and works for `At` only. -/

/-- The offset lies in line `i`, behind the part `q` of it.  Where a line ends, the next one starts,
so only the last line has its end within it. -/
def Within (t : Text) (offset i : Nat) (q : Text) : Prop :=
  ∃ before l after r, lines t = before ++ l :: after ∧ l.text = q ++ r ∧ (r = [] → after = []) ∧
    i = before.length ∧ offset = Line.total before + byteLen q

/-- The offset lies in line `i`, behind the part `q` of its content. -/
def At (t : Text) (offset i : Nat) (q : Text) : Prop :=
  ∃ before l after r, lines t = before ++ l :: after ∧ l.content = q ++ r ∧ i = before.length ∧
    offset = Line.total before + byteLen q

/-- A line, where it starts. -/
theorem placedLines_getElem?_of_lines {t : Text} {before after : List Line} {l : Line}
    (h : lines t = before ++ l :: after) :
    (placedLines t)[before.length]? = some ⟨Line.total before, l⟩ := by
  rw [placedLines, h, PlacedLine.place_getElem?]
  simp [Line.total]

namespace Within

variable {t q q' : Text} {offset offset' i i' : Nat}

/-- The text in front of the place, and what follows it. -/
theorem exists_append (h : Within t offset i q) :
    ∃ p s, t = p ++ (q ++ s) ∧ offset = byteLen p + byteLen q := by
  obtain ⟨before, l, after, r, hlines, htext, -, -, rfl⟩ := h
  refine ⟨(before.map Line.text).flatten, r ++ (after.map Line.text).flatten, ?_, rfl⟩
  have := flatten_lines t
  rw [hlines] at this
  rw [← this]
  simp [htext]

theorem isBoundary (h : Within t offset i q) : isBoundary t offset = true := by
  obtain ⟨p, s, rfl, rfl⟩ := h.exists_append
  exact isBoundary_iff.2 ⟨p ++ q, s, by simp, by simp⟩

/-- The line of the place, where it starts. -/
theorem placedLines_getElem? (h : Within t offset i q) : ∃ l r,
    (placedLines t)[i]? = some l ∧ l.line.text = q ++ r ∧ offset = l.start + byteLen q := by
  obtain ⟨before, l, after, r, hlines, htext, -, rfl, rfl⟩ := h
  exact ⟨⟨Line.total before, l⟩, r, placedLines_getElem?_of_lines hlines, htext, rfl⟩

/-- The next line starts behind what follows the place in its line. -/
theorem inLine (h : Within t offset i q) : InLine t offset i := by
  obtain ⟨before, l, after, r, hlines, htext, hlast, rfl, rfl⟩ := h
  refine ⟨_, placedLines_getElem?_of_lines hlines, Nat.le_add_right _ _, fun l' hl' ↦ ?_⟩
  cases after with
  | nil =>
    rw [placedLines, PlacedLine.place_getElem?, hlines, List.getElem?_eq_none (by simp)] at hl'
    cases hl'
  | cons k after =>
    have hpos := byteLen_pos fun hr ↦ List.cons_ne_nil k after (hlast hr)
    have hnext : lines t = (before ++ [l]) ++ k :: after := by simp [hlines]
    have hget := placedLines_getElem?_of_lines hnext
    rw [List.length_append, List.length_singleton] at hget
    obtain rfl := Option.some.inj (hget.symm.trans hl')
    have htotal : Line.total [l] = byteLen q + byteLen r := by
      rw [Line.total_cons, Line.byteLen, htext, byteLen_append]
      rfl
    show Line.total before + byteLen q < Line.total (before ++ [l])
    rw [Line.total_append, htotal]
    omega

theorem lineOfOffset (h : Within t offset i q) : lineOfOffset t offset = .ok i :=
  h.inLine.lineOfOffset (le_byteLen_of_isBoundary h.isBoundary)

/-- The line of a place starts where the text in front of it ends. -/
theorem exists_offsetOfLine (h : Within t offset i q) : ∃ p s, t = p ++ (q ++ s) ∧
    offset = byteLen p + byteLen q ∧ offsetOfLine t i = .ok (byteLen p) := by
  obtain ⟨l, r, hget, htext, hoffset⟩ := h.placedLines_getElem?
  obtain ⟨p, s, ht, hp⟩ := h.exists_append
  refine ⟨p, s, ht, hp, ?_⟩
  rw [offsetOfLine, hget]
  exact congrArg Except.ok (by omega)

/-- The part of the line in front of the place can be cut out. -/
theorem exists_slice (h : Within t offset i q) :
    ∃ start, offsetOfLine t i = .ok start ∧ slice t start offset = .ok q := by
  obtain ⟨p, s, rfl, hoffset, hstart⟩ := h.exists_offsetOfLine
  exact ⟨_, hstart, slice_append p q s rfl hoffset⟩

/-- **The position of a place.** -/
theorem positionOfOffset (h : Within t offset i q) (e : PositionEncoding) :
    positionOfOffset t e offset = .ok ⟨i.toUInt32, e.columnOf q⟩ := by
  have hline := h.lineOfOffset
  have hcheck := checkOffset_of_isBoundary h.isBoundary
  obtain ⟨p, s, rfl, hoffset, hstart⟩ := h.exists_offsetOfLine
  have hbetween := between_append p q s rfl hoffset
  rw [Text.positionOfOffset, hcheck, hline]
  show (offsetOfLine (p ++ (q ++ s)) i >>= _) = _
  rw [hstart]
  show Except.ok (Position.mk i.toUInt32 (e.columnOf (between _ (byteLen p) offset))) = _
  rw [hbetween]

/-- What lies between the start of a line and a place in it. -/
theorem between_eq (h : Within t offset i q) {start : Nat}
    (hstart : offsetOfLine t i = .ok start) : between t start offset = q := by
  obtain ⟨p, s, rfl, hoffset, hp⟩ := h.exists_offsetOfLine
  exact between_append p q s (Except.ok.inj (hstart.symm.trans hp)) hoffset

theorem lt_of_byteLen_lt (h : Within t offset i q) (hsize : byteLen t < UInt32.size) :
    i < UInt32.size ∧ byteLen q < UInt32.size := by
  have hle := le_byteLen_of_isBoundary h.isBoundary
  obtain ⟨before, l, after, r, hlines, -, -, rfl, rfl⟩ := h
  have hclosed := closedButLast_lines t
  rw [hlines] at hclosed
  have := length_le_total hclosed (by simp)
  omega

/-- A place in an earlier line has an earlier offset. -/
theorem offset_lt (h : Within t offset i q) (h' : Within t offset' i' q') (hlt : i < i') :
    offset < offset' := by
  obtain ⟨before, l, after, r, hlines, htext, hlast, rfl, rfl⟩ := h
  obtain ⟨before', l', after', r', hlines', -, -, rfl, rfl⟩ := h'
  rw [hlines] at hlines'
  obtain ⟨m, rfl, hm⟩ : ∃ m, before' = before ++ l :: m ∧ after = m ++ l' :: after' := by
    rcases List.append_eq_append_iff.1 hlines' with ⟨m, rfl, hm⟩ | ⟨m, rfl, -⟩
    · cases m with
      | nil => simp at hlt
      | cons k m =>
        obtain ⟨rfl, hafter⟩ : l = k ∧ after = m ++ l' :: after' := by simpa using hm
        exact ⟨m, rfl, hafter⟩
    · rw [List.length_append] at hlt
      omega
  have hpos : 0 < byteLen r := byteLen_pos fun hr ↦ by simp [hlast hr] at hm
  rw [Line.total_append, Line.total_cons, Line.byteLen, htext, byteLen_append]
  omega

/-- Of two places in one line, the later one lies behind a longer part of it. -/
theorem exists_append_of_le (h : Within t offset i q) (h' : Within t offset' i q')
    (hle : offset ≤ offset') : ∃ m, q' = q ++ m ∧ offset' = offset + byteLen m := by
  obtain ⟨l, r, hget, htext, rfl⟩ := h.placedLines_getElem?
  obtain ⟨l', r', hget', htext', rfl⟩ := h'.placedLines_getElem?
  obtain rfl : l = l' := Option.some.inj (hget.symm.trans hget')
  obtain ⟨m, rfl, -⟩ := exists_append_of_byteLen_le (htext.symm.trans htext')
    (Nat.le_of_add_le_add_left hle)
  exact ⟨m, rfl, by rw [byteLen_append, Nat.add_assoc]⟩

/-- **Later places have later positions.** -/
theorem lt (h : Within t offset i q) (h' : Within t offset' i' q') (hlt : offset < offset')
    (hsize : byteLen t < UInt32.size) (e : PositionEncoding) :
    (⟨i.toUInt32, e.columnOf q⟩ : Position) < ⟨i'.toUInt32, e.columnOf q'⟩ := by
  obtain ⟨hi, hq⟩ := h.lt_of_byteLen_lt hsize
  obtain ⟨hi', hq'⟩ := h'.lt_of_byteLen_lt hsize
  have hline : i.toUInt32.toNat = i := UInt32.toNat_ofNat_of_lt' hi
  have hline' : i'.toUInt32.toNat = i' := UInt32.toNat_ofNat_of_lt' hi'
  rw [Position.lt_iff]
  simp only [hline, hline', PositionEncoding.toNat_columnOf hq, PositionEncoding.toNat_columnOf hq']
  rcases Nat.lt_trichotomy i i' with hii | rfl | hii
  · exact .inl hii
  · obtain ⟨m, rfl, hm⟩ := h.exists_append_of_le h' (Nat.le_of_lt hlt)
    have hpos : 0 < e.width m := e.width_pos fun hnil ↦ by
      rw [hnil, byteLen_nil] at hm
      omega
    exact .inr ⟨rfl, by rw [e.width_append]; omega⟩
  · exact absurd (h'.offset_lt h hii) (Nat.not_lt_of_lt hlt)

theorem not_lt (h : Within t offset i q) (h' : Within t offset' i' q') (hle : offset ≤ offset')
    (hsize : byteLen t < UInt32.size) (e : PositionEncoding) :
    ¬ (⟨i'.toUInt32, e.columnOf q'⟩ : Position) < ⟨i.toUInt32, e.columnOf q⟩ := by
  rcases Nat.lt_or_eq_of_le hle with hlt | rfl
  · have := h.lt h' hlt hsize e
    rw [Position.lt_iff] at this ⊢
    omega
  · rw [Except.ok.inj ((h.positionOfOffset e).symm.trans (h'.positionOfOffset e)),
      Position.lt_iff]
    omega

end Within

namespace At

variable {t q : Text} {offset i : Nat}

theorem within (h : At t offset i q) : Within t offset i q := by
  obtain ⟨before, l, after, r, hlines, hcontent, hi, hoffset⟩ := h
  refine ⟨before, l, after, r ++ (l.ending.map LineEnding.text).getD [], hlines, ?_, ?_, hi,
    hoffset⟩
  · rw [Line.text, hcontent, List.append_assoc]
  · -- a line that another follows has an ending behind its content
    intro hr
    refine Decidable.byContradiction fun hne ↦ ?_
    have hclosed := closedButLast_lines t
    rw [hlines] at hclosed
    obtain ⟨e, he⟩ := Option.ne_none_iff_exists'.1 (hclosed.ending_ne_none hne)
    rw [he] at hr
    exact ending_text_ne_nil e (List.append_eq_nil_iff.1 hr).2

/-- The line of the place, where it starts. -/
theorem placedLines_getElem? (h : At t offset i q) : ∃ l r,
    (placedLines t)[i]? = some l ∧ l.line.content = q ++ r ∧ offset = l.start + byteLen q := by
  obtain ⟨before, l, after, r, hlines, hcontent, rfl, rfl⟩ := h
  exact ⟨⟨Line.total before, l⟩, r, placedLines_getElem?_of_lines hlines, hcontent, rfl⟩

/-- **The offset of the position of a place.** -/
theorem offsetOfPosition (h : At t offset i q) (hsize : byteLen t < UInt32.size)
    (e : PositionEncoding) :
    offsetOfPosition t e ⟨i.toUInt32, e.columnOf q⟩ = .ok offset := by
  obtain ⟨hi, hq⟩ := h.within.lt_of_byteLen_lt hsize
  obtain ⟨l, r, hget, hcontent, hoffset⟩ := h.placedLines_getElem?
  have hline : i.toUInt32.toNat = i := UInt32.toNat_ofNat_of_lt' hi
  rw [Text.offsetOfPosition]
  simp only [hline, hget, PositionEncoding.toNat_columnOf hq, hcontent, e.offsetOfColumn_width,
    hoffset]

end At

/-- A place in the content of a line, by the number of the line. -/
theorem at_iff {t q : Text} {offset i : Nat} : At t offset i q ↔ ∃ l, (lines t)[i]? = some l ∧
    q <+: l.content ∧ offset = Line.total ((lines t).take i) + byteLen q := by
  constructor
  · rintro ⟨before, l, after, r, hlines, hcontent, rfl, rfl⟩
    refine ⟨l, ?_, ⟨r, hcontent.symm⟩, ?_⟩
    · rw [hlines, List.getElem?_append_right (Nat.le_refl _), Nat.sub_self,
        List.getElem?_cons_zero]
    · rw [hlines, List.take_left]
  · rintro ⟨l, hget, ⟨r, hcontent⟩, hoffset⟩
    obtain ⟨hi, rfl⟩ := List.getElem?_eq_some_iff.1 hget
    refine ⟨(lines t).take i, (lines t)[i], (lines t).drop (i + 1), r, ?_, hcontent.symm, ?_,
      hoffset⟩
    · rw [List.getElem_cons_drop, List.take_append_drop]
    · rw [List.length_take, Nat.min_eq_left (Nat.le_of_lt hi)]

/-! ## The places that edits use

Edits run between the start of a line, the end of the text and the origin.  For each of these the
place is given, for whoever has to convert one. -/

/-- A place at which a line starts. -/
theorem at_line {t : Text} {i : Nat} (h : i < lineCount t) :
    At t (Line.total ((lines t).take i)) i [] := by
  exact at_iff.2 ⟨(lines t)[i], List.getElem?_eq_getElem h, List.nil_prefix, rfl⟩

/-- The last line has its end where the text has, and the position there is the last one. -/
theorem exists_at_end (t : Text) : ∃ i q, At t (byteLen t) i q ∧
    ∀ e, endPosition t e = ⟨i.toUInt32, e.columnOf q⟩ := by
  obtain ⟨before, last, hlines⟩ : ∃ before last, lines t = before ++ [last] :=
    ⟨_, _, (List.dropLast_concat_getLast (lines_ne_nil t)).symm⟩
  have hclosed := closedButLast_lines t
  have hflat := flatten_lines t
  rw [hlines] at hclosed hflat
  have hlast : last.text = last.content := by simp [Line.text, hclosed.ending_eq_none]
  rw [List.map_append, List.flatten_append, List.map_singleton, List.flatten_singleton, hlast]
    at hflat
  refine ⟨before.length, last.content, ⟨before, last, [], [], hlines, by simp, rfl, ?_⟩,
    fun e ↦ ?_⟩
  · rw [← hflat, byteLen_append, Line.total]
  · have hdrop : dropBytes (Line.total before) t = last.content := by
      rw [← hflat, Line.total, dropBytes_append_byteLen]
    rw [endPosition, placedLines, lineCount, hlines, PlacedLine.place_append, PlacedLine.place,
      PlacedLine.place, List.getLast?_concat, Nat.zero_add]
    simp only [List.length_append, List.length_singleton, Nat.add_sub_cancel, hdrop]

/-- The origin is the start of the first line. -/
theorem at_origin (t : Text) : At t 0 0 [] := by
  have := at_line (List.length_pos_iff.2 (lines_ne_nil t))
  simpa [Line.total] using this

/-! ## The two ends of a text -/

section Ends

variable {t : Text} {e : PositionEncoding}

theorem positionOfOffset_zero (t : Text) (e : PositionEncoding) :
    positionOfOffset t e 0 = .ok .origin :=
  (at_origin t).within.positionOfOffset e

/-- **The last position is that of the last offset.** -/
theorem positionOfOffset_byteLen (t : Text) (e : PositionEncoding) :
    positionOfOffset t e (byteLen t) = .ok (endPosition t e) := by
  obtain ⟨i, q, hend, hposition⟩ := exists_at_end t
  rw [hposition]
  exact hend.within.positionOfOffset e

theorem offsetOfPosition_origin (hsize : byteLen t < UInt32.size) :
    offsetOfPosition t e .origin = .ok 0 :=
  (at_origin t).offsetOfPosition hsize e

theorem offsetOfPosition_endPosition (hsize : byteLen t < UInt32.size) :
    offsetOfPosition t e (endPosition t e) = .ok (byteLen t) := by
  obtain ⟨i, q, hend, hposition⟩ := exists_at_end t
  rw [hposition]
  exact hend.offsetOfPosition hsize e

end Ends

end Text

end Emend
