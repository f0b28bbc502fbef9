import Emend.Diff.Span
import Emend.Proofs.Diff.Script

/-!
# What the spans of a script say

The spans that are read off a script turn its one end into the other.  The definitions work with
numbers of lines, and a proof about numbers would have to carry along how they lie to one another.
`Turns x y spans old new` says the same of the two lists without cutting them: in front of each span
stand tokens that both lists have, and the span replaces a run of old tokens by a run of new ones.
Its numbers count from `x` and `y`, so that it can be proved by induction on the spans from the
front.

* `turns_spansOf` says it of the spans of a script, and that something is kept between any two of
  them.
* `Turns.bounds`, `Turns.agree` and `Turns.splice?` say the same by numbers: the spans lie within
  the lists, the lists agree outside of them, and splicing gives the new list.

Everything that uses line diffs goes through these three, or through `Turns` itself.
-/

set_option autoImplicit false

namespace Emend.Diff

variable {α : Type}

/-! ## Spans between two lists

`Turns` is built from the front, but spans are found one behind the other, and the last one may
grow.  `append_kept`, `append_span` and `extend_last` are the three ways in which reading goes on;
each is an induction on the spans that walks to the last one. -/

/-- The spans, whose numbers count from `x` and `y`, turn the list `old` into the list `new`. -/
def Turns (x y : Nat) : List Span → List α → List α → Prop
  | [], old, new => new = old
  | s :: spans, old, new => ∃ kept removed added old' new',
      old = kept ++ (removed ++ old') ∧ new = kept ++ (added ++ new') ∧
      s.old = ⟨x + kept.length, x + kept.length + removed.length⟩ ∧
      s.new = ⟨y + kept.length, y + kept.length + added.length⟩ ∧
      Turns s.old.stop s.new.stop spans old' new'

/-- Outside of the spans, from the numbers `x` and `y` on, two lists have the same tokens. -/
def AgreeOutside (old new : List α) (x y : Nat) : List Span → Prop
  | [] => old.drop x = new.drop y
  | s :: spans => (old.take s.old.start).drop x = (new.take s.new.start).drop y ∧
      AgreeOutside old new s.old.stop s.new.stop spans

/-- On both sides, each span stops before the next one starts. -/
def Separated (spans : List Span) : Prop :=
  spans.Pairwise fun s t ↦ s.old.stop < t.old.start ∧ s.new.stop < t.new.start

namespace Turns

variable {x y : Nat} {spans : List Span} {last : Span} {old new : List α}

/-- Kept tokens behind all spans. -/
theorem append_kept (ts : List α) (h : Turns x y spans old new) :
    Turns x y spans (old ++ ts) (new ++ ts) := by
  induction spans generalizing x y old new with
  | nil => exact congrArg (· ++ ts) h
  | cons s spans ih =>
    obtain ⟨kept, removed, added, old', new', rfl, rfl, hold, hnew, h⟩ := h
    exact ⟨kept, removed, added, old' ++ ts, new' ++ ts, by simp, by simp, hold, hnew, ih h⟩

/-- One more span behind all others. -/
theorem append_span (removed added : List α) (h : Turns x y spans old new) :
    Turns x y (spans ++ [⟨⟨x + old.length, x + old.length + removed.length⟩,
        ⟨y + new.length, y + new.length + added.length⟩⟩]) (old ++ removed) (new ++ added) := by
  induction spans generalizing x y old new with
  | nil =>
    obtain rfl : new = old := h
    exact ⟨new, removed, added, [], [], by simp, by simp, rfl, rfl, rfl⟩
  | cons s spans ih =>
    obtain ⟨kept, gone, come, old', new', rfl, rfl, hold, hnew, h⟩ := h
    have := ih h
    refine ⟨kept, gone, come, old' ++ removed, new' ++ added, by simp, by simp, hold, hnew, ?_⟩
    simpa [hold, hnew, Nat.add_assoc] using this

/-- Behind the last span stands the same number of tokens on both sides. -/
theorem exists_rest (h : Turns x y (spans ++ [last]) old new) :
    ∃ n, last.old.stop + n = x + old.length ∧ last.new.stop + n = y + new.length := by
  induction spans generalizing x y old new with
  | nil =>
    obtain ⟨kept, removed, added, old', new', rfl, rfl, hold, hnew, hrest⟩ := h
    obtain rfl : new' = old' := hrest
    refine ⟨new'.length, ?_, ?_⟩
    · simp only [hold, List.length_append]
      omega
    · simp only [hnew, List.length_append]
      omega
  | cons s spans ih =>
    obtain ⟨kept, removed, added, old', new', rfl, rfl, hold, hnew, h⟩ := h
    obtain ⟨n, h1, h2⟩ := ih h
    simp only [hold, hnew] at h1 h2
    refine ⟨n, ?_, ?_⟩ <;> simp only [List.length_append] <;> omega

/-- A last span that nothing stands behind can be extended. -/
theorem extend_last (removed added : List α) (h : Turns x y (spans ++ [last]) old new)
    (hold : last.old.stop = x + old.length) (hnew : last.new.stop = y + new.length) :
    Turns x y (spans ++ [⟨⟨last.old.start, last.old.stop + removed.length⟩,
        ⟨last.new.start, last.new.stop + added.length⟩⟩]) (old ++ removed) (new ++ added) := by
  induction spans generalizing x y old new with
  | nil =>
    obtain ⟨kept, gone, come, old', new', rfl, rfl, hlold, hlnew, hrest⟩ := h
    obtain rfl : new' = old' := hrest
    obtain rfl : new' = [] := by
      simp only [hlold, List.length_append] at hold
      exact List.length_eq_zero_iff.1 (by omega)
    refine ⟨kept, gone ++ removed, come ++ added, [], [], by simp, by simp, ?_, ?_, rfl⟩
    · simp [hlold, Nat.add_assoc]
    · simp [hlnew, Nat.add_assoc]
  | cons s spans ih =>
    obtain ⟨kept, gone, come, old', new', rfl, rfl, hsold, hsnew, h⟩ := h
    refine ⟨kept, gone, come, old' ++ removed, new' ++ added, by simp, by simp, hsold, hsnew,
      ih h ?_ ?_⟩
    · simp only [hold, hsold, List.length_append]
      omega
    · simp only [hnew, hsnew, List.length_append]
      omega

/-! ### By numbers -/

theorem bounds (h : Turns x y spans old new) : ∀ s ∈ spans,
    (x ≤ s.old.start ∧ s.old.start ≤ s.old.stop ∧ s.old.stop ≤ x + old.length) ∧
      y ≤ s.new.start ∧ s.new.start ≤ s.new.stop ∧ s.new.stop ≤ y + new.length := by
  induction spans generalizing x y old new with
  | nil => simp
  | cons t spans ih =>
    obtain ⟨kept, removed, added, old', new', rfl, rfl, hold, hnew, h⟩ := h
    intro s hs
    simp only [List.length_append]
    rcases List.mem_cons.1 hs with rfl | hs
    · rw [hold, hnew]
      simp only
      omega
    · have := ih h s hs
      rw [hold, hnew] at this
      simp only at this
      omega

/-- A run of tokens cut out by numbers. -/
theorem take_drop_append (p m r : List α) {i j : Nat} (hi : i = p.length)
    (hj : j = p.length + m.length) : ((p ++ (m ++ r)).take j).drop i = m := by
  rw [hi, hj, ← List.append_assoc, List.take_left' (by simp), List.drop_left' rfl]

/-- **Outside of the spans the lists agree.** -/
theorem agree {p q : List α} (h : Turns x y spans old new) (hp : p.length = x)
    (hq : q.length = y) : AgreeOutside (p ++ old) (q ++ new) x y spans := by
  induction spans generalizing x y old new p q with
  | nil =>
    obtain rfl : new = old := h
    show (p ++ new).drop x = (q ++ new).drop y
    rw [List.drop_left' hp, List.drop_left' hq]
  | cons s spans ih =>
    obtain ⟨kept, removed, added, old', new', rfl, rfl, hold, hnew, h⟩ := h
    refine ⟨?_, ?_⟩
    · rw [take_drop_append p kept _ hp.symm (by rw [hold, hp]),
        take_drop_append q kept _ hq.symm (by rw [hnew, hq])]
    · have := ih (p := p ++ kept ++ removed) (q := q ++ kept ++ added) h
        (by simp [hold, hp, Nat.add_assoc]) (by simp [hnew, hq, Nat.add_assoc])
      simpa using this

theorem slice?_append (p m r : List α) {i j : Nat} (hi : i = p.length)
    (hj : j = p.length + m.length) : slice? ⟨i, j⟩ (p ++ (m ++ r)) = some m := by
  rw [slice?, if_pos (by simp [hi, hj]), take_drop_append p m r hi hj]

/-- **Splicing gives the new list.** -/
theorem spliceFrom? {p q : List α} (h : Turns x y spans old new) (hp : p.length = x)
    (hq : q.length = y) : spliceFrom? (p ++ old) (q ++ new) x spans = some new := by
  induction spans generalizing x y old new p q with
  | nil =>
    obtain rfl : new = old := h
    have := slice?_append p new [] hp.symm (j := (p ++ new).length) (by simp)
    rwa [List.append_nil] at this
  | cons s spans ih =>
    obtain ⟨kept, removed, added, old', new', rfl, rfl, hold, hnew, h⟩ := h
    have hkept : slice? ⟨x, s.old.start⟩ (p ++ (kept ++ (removed ++ old'))) = some kept :=
      slice?_append p kept _ hp.symm (by rw [hold, hp])
    have hadded : slice? s.new (q ++ (kept ++ (added ++ new'))) = some added := by
      have := slice?_append (q ++ kept) added new' (i := s.new.start) (j := s.new.stop)
        (by simp [hnew, hq]) (by simp [hnew, hq])
      simpa using this
    have hrest : Diff.spliceFrom? (p ++ (kept ++ (removed ++ old')))
        (q ++ (kept ++ (added ++ new'))) s.old.stop spans = some new' := by
      have := ih (p := p ++ kept ++ removed) (q := q ++ kept ++ added) h
        (by simp [hold, hp, Nat.add_assoc]) (by simp [hnew, hq, Nat.add_assoc])
      simpa using this
    rw [Diff.spliceFrom?, hkept, hadded, hrest]
    simp

theorem splice? (h : Turns 0 0 spans old new) : splice? old new spans = some new :=
  h.spliceFrom? (p := []) (q := []) rfl rfl

end Turns

/-! ## Merged scripts -/

/-- The list that merged steps start from. -/
def Run.sources (rs : List (Run α)) : List α := rs.flatMap Run.source

/-- The list that merged steps arrive at. -/
def Run.targets (rs : List (Run α)) : List α := rs.flatMap Run.target

theorem sources_keep (ts : List α) (rs : List (Run α)) :
    Run.sources (Run.keep ts rs) = ts ++ Run.sources rs ∧
      Run.targets (Run.keep ts rs) = ts ++ Run.targets rs := by
  fun_cases Run.keep ts rs <;> simp [Run.sources, Run.targets, Run.source, Run.target]

theorem sources_change (old new : List α) (rs : List (Run α)) :
    Run.sources (Run.change old new rs) = old ++ Run.sources rs ∧
      Run.targets (Run.change old new rs) = new ++ Run.targets rs := by
  fun_cases Run.change old new rs <;> simp [Run.sources, Run.targets, Run.source, Run.target]

/-- Merging keeps both ends of a script. -/
theorem sources_merge (s : Script α) :
    Run.sources s.merge = s.source ∧ Run.targets s.merge = s.target := by
  induction s with
  | nil => exact ⟨rfl, rfl⟩
  | cons op s ih =>
    obtain ⟨hsource, htarget⟩ := ih
    cases op with
    | equal ts =>
      have := sources_keep ts (Script.merge s)
      rw [hsource, htarget] at this
      exact this
    | delete ts =>
      have := sources_change ts [] (Script.merge s)
      rw [hsource, htarget] at this
      exact this
    | insert ts =>
      have := sources_change [] ts (Script.merge s)
      rw [hsource, htarget] at this
      exact this

/-! ## Reading spans off

The invariant of the reading is `Found`: the spans found so far turn the old tokens read so far into
the new ones read so far.  A change extends the last span if that ends where the change begins, *on
both sides*.  If it ended there on one side only, the change would touch the last span without
extending it.  This does not happen: behind the last span there stand as many tokens on the one side
as on the other (`Turns.exists_rest`).  That is also why spans are separated on both sides at
once. -/

/-- The spans read so far, in reverse order, turn the old tokens read so far into the new ones. -/
structure Found (found : List Span) (old new : List α) : Prop where
  turns : Turns 0 0 found.reverse old new
  separated : found.Pairwise fun t s ↦ s.old.stop < t.old.start ∧ s.new.stop < t.new.start

namespace Found

variable {found : List Span} {old new : List α}

theorem keep (h : Found found old new) (ts : List α) : Found found (old ++ ts) (new ++ ts) :=
  ⟨h.turns.append_kept ts, h.separated⟩

/-- **One more change.**  Where the last span stops, the change extends it; otherwise something has
been kept since, on both sides. -/
theorem change (h : Found found old new) (r : Run α) :
    Found (extendSpans old.length new.length r found) (old ++ r.source) (new ++ r.target) := by
  cases found with
  | nil =>
    have := h.turns.append_span r.source r.target
    refine ⟨?_, List.pairwise_singleton _ _⟩
    simpa [extendSpans] using this
  | cons last found =>
    obtain ⟨hlast, hfound⟩ := List.pairwise_cons.1 h.separated
    have hturns := h.turns
    rw [List.reverse_cons] at hturns
    obtain ⟨n, hold, hnew⟩ := hturns.exists_rest
    rw [Nat.zero_add] at hold hnew
    rw [extendSpans]
    split
    · next hstop =>
      have := hturns.extend_last r.source r.target (by rw [hstop.1, Nat.zero_add])
        (by rw [hstop.2, Nat.zero_add])
      rw [hstop.1, hstop.2, ← List.reverse_cons] at this
      exact ⟨this, List.pairwise_cons.2 ⟨hlast, hfound⟩⟩
    · next hstop =>
      have hlt : last.old.stop < old.length ∧ last.new.stop < new.length := by omega
      have := h.turns.append_span r.source r.target
      rw [Nat.zero_add, Nat.zero_add, ← List.reverse_cons] at this
      refine ⟨this, List.pairwise_cons.2 ⟨fun s hs ↦ ?_, h.separated⟩⟩
      rcases List.mem_cons.1 hs with rfl | hs
      · exact hlt
      · have h1 := hlast s hs
        have h2 := h.turns.bounds last (by simp)
        simp only
        omega

/-- Reading spans off merged steps, from any point on. -/
theorem read (h : Found found old new) (rs : List (Run α)) :
    Turns 0 0 (spansFrom old.length new.length found rs) (old ++ Run.sources rs)
        (new ++ Run.targets rs) ∧
      Separated (spansFrom old.length new.length found rs) := by
  induction rs generalizing found old new with
  | nil =>
    refine ⟨?_, List.pairwise_reverse.2 h.separated⟩
    simpa [spansFrom, Run.sources, Run.targets] using h.turns
  | cons r rs ih =>
    cases r with
    | kept ts =>
      have := ih (h.keep ts)
      simpa [spansFrom, Run.sources, Run.targets, Run.source, Run.target] using this
    | changed gone come =>
      have := ih (h.change (.changed gone come))
      simpa [spansFrom, Run.sources, Run.targets, Run.source, Run.target] using this

end Found

/-- **The spans of a script turn its one end into the other**, and something is kept between any two
of them. -/
theorem turns_spansOf (s : Script α) :
    Turns 0 0 (spansOf s) s.source s.target ∧ Separated (spansOf s) := by
  have h : Found [] ([] : List α) [] := ⟨rfl, .nil⟩
  have := h.read s.merge
  rwa [(sources_merge s).1, (sources_merge s).2] at this

end Emend.Diff
