import Emend.Proofs.Text.Endings
import Mathlib.Data.List.Chain

/-!
# One way to cut a text into lines

`Text.CutInto t ls` says what lines of a text are without scanning it: in sequence they make up the
text, only the last of them is left open, none holds a line ending in its content, and none ends
between the two characters of one.  There is exactly one such list, and it is `Text.lines`
(`Text.CutInto.eq_lines`, `Text.cutInto_lines`).

Each line starts behind the one before it, so an offset lies in one line only (`Text.InLine`), and
that is the line that `Text.lineOfOffset` finds.  `Text.lines_unique` puts it together, with what
the tokens of a diff have to do with the lines.

All four conditions are needed.  Without the first the lines could be those of another text, without
the second one of them could be cut in two, without the third a line feed could stand in the middle
of one, and without the fourth the two characters of an ending could close a line each.
-/

set_option autoImplicit false

namespace Emend

/-- A line ends and the next one begins within one ending. -/
def Line.CutsEnding (l l' : Line) : Prop :=
  l.ending = some .cr ∧ l'.text.head? = some '\n'

namespace Text

/-- A content without a character that ends a line. -/
def Bare (c : Text) : Prop := '\n' ∉ c ∧ '\r' ∉ c

/-- The lines make up the text, and each of them is a line: bare but for its ending, which the last
one alone does not have, and which is not cut in two. -/
structure CutInto (t : Text) (ls : List Line) : Prop where
  flatten : (ls.map Line.text).flatten = t
  bare : ∀ l ∈ ls, Bare l.content
  closed : ClosedButLast ls
  uncut : ls.IsChain fun l l' ↦ ¬ l.CutsEnding l'

variable {c s t : Text} {l : Line} {ls : List Line} {offset i : Nat}

/-! ## Cutting at the first ending

A text that is given as a bare content, an ending and a rest has these for its first line and the
lines of the rest.  The condition on the ending is the one that a list of lines has to satisfy too:
a carriage return does not end a line in front of a line feed. -/

theorem bare_cons {x : Char} : Bare (x :: c) ↔ (x ≠ '\n' ∧ x ≠ '\r') ∧ Bare c := by
  simp only [Bare, List.mem_cons, not_or, ne_eq, eq_comm (a := x)]
  exact ⟨fun h ↦ ⟨⟨h.1.1, h.2.1⟩, h.1.2, h.2.2⟩, fun h ↦ ⟨⟨h.1.1, h.2.1⟩, h.1.2, h.2.2⟩⟩

theorem lines_of_bare (hc : Bare c) : lines c = [⟨c, none⟩] := by
  induction c with
  | nil => rfl
  | cons x c ih =>
    obtain ⟨⟨hlf, hcr⟩, hc⟩ := bare_cons.1 hc
    rw [lines_cons hlf hcr, ih hc]
    rfl

/-- A bare content and its ending are the first line, wherever the text goes on. -/
theorem lines_closed_append {e : LineEnding} (hc : Bare c)
    (he : ¬ (e = .cr ∧ s.head? = some '\n')) :
    lines (c ++ (e.text ++ s)) = ⟨c, some e⟩ :: lines s := by
  induction c with
  | nil =>
    cases e with
    | lf => rfl
    | crlf => rfl
    | cr => exact lines_cr fun hs ↦ he ⟨rfl, hs⟩
  | cons x c ih =>
    obtain ⟨⟨hlf, hcr⟩, hc⟩ := bare_cons.1 hc
    rw [List.cons_append, lines_cons hlf hcr, ih hc]
    rfl

/-- A text begins as its first line does: only the last line can be empty. -/
theorem ClosedButLast.head?_flatten (h : ClosedButLast (l :: ls)) :
    ((l :: ls).map Line.text).flatten.head? = l.text.head? := by
  cases ls with
  | nil => simp
  | cons l' ls =>
    obtain ⟨e, he⟩ := Option.ne_none_iff_exists'.1 h.1
    have hne : l.text ≠ [] := by
      rw [Line.text, he]
      simp [ending_text_ne_nil]
    rw [List.map_cons, List.flatten_cons, List.head?_append_of_ne_nil _ hne]

/-! ## The one cut

Both directions together say that `CutInto` describes `lines` and nothing else, without mentioning
how a text is scanned.  For existence, each of the four conditions is an induction along `lines`. -/

/-- **Whatever lines a text can be cut into, they are its lines.**  By induction on the lines: the
first ending in the text is that of the first line. -/
theorem CutInto.eq_lines (h : CutInto t ls) : ls = lines t := by
  induction ls generalizing t with
  | nil => cases h.closed
  | cons l ls ih =>
    obtain ⟨hbare, hrest⟩ := List.forall_mem_cons.1 h.bare
    have hflatten := h.flatten
    obtain ⟨content, ending⟩ := l
    cases ls with
    | nil =>
      obtain rfl : ending = none := h.closed
      obtain rfl : content = t := by simpa [Line.text] using hflatten
      exact (lines_of_bare hbare).symm
    | cons l' ls =>
      obtain ⟨hclosed, hclosed'⟩ := h.closed
      obtain ⟨huncut, huncut'⟩ := List.isChain_cons_cons.1 h.uncut
      obtain ⟨e, rfl⟩ := Option.ne_none_iff_exists'.1 hclosed
      have htail := ih ⟨rfl, hrest, hclosed', huncut'⟩
      have hnext : ¬ (e = .cr ∧
          ((l' :: ls).map Line.text).flatten.head? = some '\n') := by
        rw [hclosed'.head?_flatten]
        exact fun hcr ↦ huncut ⟨congrArg some hcr.1, hcr.2⟩
      rw [← hflatten, List.map_cons, List.flatten_cons, Line.text, List.append_assoc]
      show _ = lines (content ++ (e.text ++ _))
      rw [lines_closed_append hbare hnext, ← htail]

theorem bare_of_mem_lines (t : Text) : ∀ l ∈ lines t, Bare l.content := by
  have hnil : Bare [] := ⟨List.not_mem_nil, List.not_mem_nil⟩
  fun_induction lines t with
  | case1 => exact List.forall_mem_singleton.2 hnil
  | case2 t ih => exact List.forall_mem_cons.2 ⟨hnil, ih⟩
  | case3 t ih => exact List.forall_mem_cons.2 ⟨hnil, ih⟩
  | case4 t _ ih => exact List.forall_mem_cons.2 ⟨hnil, ih⟩
  | case5 x t hlf _ hcr ih =>
    obtain ⟨l, ls, hlines⟩ := List.exists_cons_of_ne_nil (lines_ne_nil t)
    rw [hlines] at ih ⊢
    obtain ⟨hl, hls⟩ := List.forall_mem_cons.1 ih
    exact List.forall_mem_cons.2 ⟨bare_cons.2 ⟨⟨hlf, hcr⟩, hl⟩, hls⟩

/-- A line in front of lines that are not cut. -/
theorem uncut_cons {e : LineEnding} (he : ¬ (e = .cr ∧ t.head? = some '\n'))
    (h : (lines t).IsChain fun l l' ↦ ¬ l.CutsEnding l') :
    (Line.mk [] (some e) :: lines t).IsChain fun l l' ↦ ¬ l.CutsEnding l' := by
  have hclosed := closedButLast_lines t
  have hflatten := flatten_lines t
  obtain ⟨l, ls, hlines⟩ := List.exists_cons_of_ne_nil (lines_ne_nil t)
  rw [hlines] at h hclosed hflatten ⊢
  refine List.isChain_cons_cons.2 ⟨fun hcut ↦ he ⟨Option.some.inj hcut.1, ?_⟩, h⟩
  rw [← hflatten, hclosed.head?_flatten]
  exact hcut.2

/-- No line ends between the carriage return and the line feed of one ending. -/
theorem uncut_lines (t : Text) : (lines t).IsChain fun l l' ↦ ¬ l.CutsEnding l' := by
  fun_induction lines t with
  | case1 => exact .singleton _
  | case2 t ih => exact uncut_cons (by simp) ih
  | case3 t ih => exact uncut_cons (by simp) ih
  | case4 t ht ih =>
    refine uncut_cons (fun hcut ↦ ?_) ih
    obtain ⟨t', rfl⟩ := List.head?_eq_some_iff.1 hcut.2
    exact ht t' rfl
  | case5 x t _ _ _ ih =>
    obtain ⟨l, ls, hlines⟩ := List.exists_cons_of_ne_nil (lines_ne_nil t)
    rw [hlines] at ih ⊢
    cases ls with
    | nil => exact .singleton _
    | cons l' ls =>
      obtain ⟨hl, hls⟩ := List.isChain_cons_cons.1 ih
      exact List.isChain_cons_cons.2 ⟨hl, hls⟩

theorem cutInto_lines (t : Text) : CutInto t (lines t) :=
  ⟨flatten_lines t, bare_of_mem_lines t, closedButLast_lines t, uncut_lines t⟩

/-! ## Where lines start -/

/-- A line is the part of the text from where it starts to where it stops, and its content the part
in front of its ending. -/
theorem slice_of_mem_placedLines {p : PlacedLine} (h : p ∈ placedLines t) :
    slice t p.start (p.start + byteLen p.line.content) = .ok p.line.content ∧
      slice t p.start p.stop = .ok p.line.text := by
  obtain ⟨i, hi⟩ := List.mem_iff_getElem?.1 h
  rw [placedLines, PlacedLine.place_getElem?, Nat.zero_add] at hi
  obtain ⟨l, hget, rfl⟩ := Option.map_eq_some_iff.1 hi
  obtain ⟨hlt, rfl⟩ := List.getElem?_eq_some_iff.1 hget
  have ht : t = (((lines t).take i).map Line.text).flatten ++
      ((lines t)[i].text ++ (((lines t).drop (i + 1)).map Line.text).flatten) := by
    conv_lhs => rw [← flatten_lines t, ← List.take_append_drop i (lines t),
      ← List.getElem_cons_drop hlt, List.map_append, List.flatten_append, List.map_cons,
      List.flatten_cons]
  constructor
  · have hslice := slice_append (((lines t).take i).map Line.text).flatten (lines t)[i].content
      (((lines t)[i].ending.map LineEnding.text).getD [] ++
        (((lines t).drop (i + 1)).map Line.text).flatten) rfl rfl
    rwa [← List.append_assoc (lines t)[i].content, ← Line.text, ← ht] at hslice
  · have hslice := slice_append (((lines t).take i).map Line.text).flatten (lines t)[i].text
      (((lines t).drop (i + 1)).map Line.text).flatten rfl rfl
    rwa [← ht] at hslice

theorem isBoundary_start_of_mem_placedLines {p : PlacedLine} (h : p ∈ placedLines t) :
    isBoundary t p.start = true := by
  obtain ⟨_, hcheck, -⟩ := exists_of_bind_eq_ok (slice_of_mem_placedLines h).1
  exact checkOffset_eq_ok_iff.1 hcheck

/-- **A text is cut into lines in one way.**  There is at least one line, and `CutInto` leaves no
choice of them.  The lines are the parts of the text from where they start to where they stop, and
each starts at a boundary behind the start of the one before.  So every offset up to the length of
the text lies in one line, which is found.  The tokens are the texts of the lines, under the same
numbers; an empty line at the end is none. -/
theorem lines_unique (t : Text) :
    lines t ≠ [] ∧ (∀ ls, CutInto t ls ↔ ls = lines t) ∧
    (placedLines t).map PlacedLine.line = lines t ∧
    (∀ l ∈ placedLines t,
      slice t l.start (l.start + byteLen l.line.content) = .ok l.line.content ∧
      slice t l.start l.stop = .ok l.line.text ∧ isBoundary t l.start = true) ∧
    ((placedLines t).Pairwise fun l l' ↦ l.start < l'.start) ∧
    (∀ offset, offset ≤ byteLen t →
      ∃ i, lineOfOffset t offset = .ok i ∧ ∀ j, InLine t offset j ↔ j = i) ∧
    [] ∉ diffTokens t ∧
    ((lines t).map Line.text = diffTokens t ∨
      (lines t).map Line.text = diffTokens t ++ [[]]) := by
  refine ⟨lines_ne_nil t, fun ls ↦ ⟨CutInto.eq_lines, fun h ↦ h ▸ cutInto_lines t⟩, ?_,
    fun l hl ↦ ?_, (closedButLast_lines t).pairwise_place, fun offset hle ↦ ?_, ?_, ?_⟩
  · exact PlacedLine.map_line_place 0 (lines t)
  · obtain ⟨hcontent, htext⟩ := slice_of_mem_placedLines hl
    exact ⟨hcontent, htext, isBoundary_start_of_mem_placedLines hl⟩
  · obtain ⟨i, hi⟩ := exists_inLine t offset
    refine ⟨i, hi.lineOfOffset hle, fun j ↦ ⟨fun hj ↦ ?_, fun hj ↦ hj ▸ hi⟩⟩
    exact Except.ok.inj ((hj.lineOfOffset hle).symm.trans (hi.lineOfOffset hle))
  · intro hmem
    cases (List.mem_filter.1 hmem).2
  · obtain ⟨r, hr, rfl | rfl⟩ := map_text_lines t
    · exact .inl (by rwa [List.append_nil] at hr)
    · exact .inr hr

/-- A run of endings: each character ends a line but the one that starts a longer ending. -/
example : lines ['a', '\r', '\r', '\n', '\n'] =
    [⟨['a'], some .cr⟩, ⟨[], some .crlf⟩, ⟨[], some .lf⟩, ⟨[], none⟩] := rfl

end Text

end Emend
