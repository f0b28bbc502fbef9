import Emend.Diff.Middle

/-!
# The search for the middle finds a proper cut

Two lists that are not empty and agree neither in their first nor in their last token are always cut
by `middle`, at a point inside them, and both halves are smaller than the whole
(`middle_isProperCut`).  So a diff that cuts and goes on with the halves comes to an end.

## The grid

A pair of prefixes of the two lists is a point of a grid, `x` steps to the right and `y` down.  A
deletion is a step to the right, an insertion one down, and a common token a step along a diagonal.
The search keeps two frontiers, one from either corner: after depth `d`, how far `d` deletions and
insertions lead on each diagonal.

The search itself does not look where the edge of the grid is.  A frontier enters a diagonal from
one of its neighbours by a step down or to the right, whether or not there is still a token for it,
so the points of a frontier may lie outside.  The theorem has to show that the point at which the
search stops does not.

* `far` is how far a frontier comes on a diagonal, and `enter` where the diagonal is entered.
* `far_le_of_lt` and its mirror image say that a frontier leaves the grid on one diagonal only if it
  has reached the edge on the next.
* `inside_of_unmet` says that a frontier is inside the grid on each diagonal on which the other one
  could have met it and has not.
* `enter_inside` is the step: as long as the frontiers have not met, they enter the diagonals on
  which they can meet next at points inside the grid.
* `not_unmet` bounds the number of depths, because two frontiers that have not met cover fewer
  tokens than there are.
* `middleFrom_spec` puts these together, by induction on the depths that are left.

The point at which the lists are cut is where the diagonal of the meeting is *entered* for the
frontier from the start, and where it *ends* for the one from the end.  The two kinds of meeting
therefore have a lemma each (`cut_forward` and `cut_backward`), and only the second has to rule out
that a slide runs into the far corner, where it would pass the first tokens of the two lists.
-/

set_option autoImplicit false

namespace Emend.Diff

variable {α : Type} [DecidableEq α] {a b : Array α} {d i j x y : Nat}

/-! ## Sliding along a diagonal -/

theorem slide_le (a b : Array α) (x y : Nat) :
    slide a b x y ≤ a.size - x ∧ slide a b x y ≤ b.size - y := by
  fun_induction slide a b x y with
  | case1 x y h heq ih => omega
  | case2 x y h hne => omega
  | case3 x y h => omega

/-- The last tokens that a slide passes agree. -/
theorem getElem?_of_slide {n m : Nat} (h : 0 < slide a b x y) (hn : x + slide a b x y = n)
    (hm : y + slide a b x y = m) : a[n - 1]? = b[m - 1]? := by
  subst hn hm
  fun_induction slide a b x y with
  | case1 x y hlt heq ih =>
    by_cases hs : 0 < slide a b (x + 1) (y + 1)
    · have := ih hs
      rwa [Nat.add_right_comm x 1, Nat.add_right_comm y 1] at this
    · rw [Nat.eq_zero_of_not_pos hs]
      show a[x]? = b[y]?
      rw [Array.getElem?_eq_getElem hlt.1, Array.getElem?_eq_getElem hlt.2, heq]
  | case2 x y hlt hne => omega
  | case3 x y hlt => omega

theorem slide_eq_zero (h : a[x]? ≠ b[y]?) : slide a b x y = 0 := by
  rw [slide]
  split
  · next hlt =>
    rw [if_neg]
    intro heq
    rw [Array.getElem?_eq_getElem hlt.1, Array.getElem?_eq_getElem hlt.2, heq] at h
    exact h rfl
  · rfl

/-! ## Frontiers, depth by depth

Diagonals are told by their index here: on diagonal `i` of depth `d`, the point with `x` old tokens
has `x + 2 * i - d` new ones.  The frontier of a depth is a whole array, made from the array of the
depth before; `enter_succ` and `far_eq` are the recurrence entry by entry, which is all that is used
from here on.  The subtraction of numbers does not cut anything off, because `i` of the steps of
depth `d` were insertions (`le_enter`). -/

/-- The frontier of the depth before `d`. -/
def reach (a b : Array α) : Nat → Array Nat
  | 0 => #[]
  | d + 1 => frontier a b d (entries d (reach a b d))

/-- The number of old tokens at which diagonal `i` of depth `d` is entered. -/
def enter (a b : Array α) (d i : Nat) : Nat := (entries d (reach a b d))[i]?.getD 0

/-- The number of old tokens at which the frontier of depth `d` ends on diagonal `i`. -/
def far (a b : Array α) (d i : Nat) : Nat := (reach a b (d + 1))[i]?.getD 0

theorem enter_eq_entry (h : i ≤ d) : enter a b d i = entry d (reach a b d) i := by
  simp [enter, entries, Nat.lt_succ_of_le h]

theorem enter_zero : enter a b 0 0 = 0 := by
  rw [enter_eq_entry (Nat.le_refl 0), entry, if_pos rfl]

/-- A diagonal is entered where the frontier of the depth before ends on a neighbour of it. -/
theorem enter_succ (h : i ≤ d + 1) :
    enter a b (d + 1) i = if i = d + 1 ∨ i ≠ 0 ∧ far a b d i < far a b d (i - 1)
      then far a b d (i - 1) else far a b d i + 1 := by
  rw [enter_eq_entry h, entry, if_neg (Nat.succ_ne_zero d)]
  rfl

/-- The two ways to enter a diagonal: by an insertion or by a deletion. -/
theorem enter_succ_cases (h : i ≤ d + 1) :
    (∃ j, i = j + 1 ∧ j ≤ d ∧ enter a b (d + 1) i = far a b d j) ∨
      i ≤ d ∧ enter a b (d + 1) i = far a b d i + 1 := by
  rw [enter_succ h]
  split
  · next hcond =>
    obtain ⟨j, rfl⟩ : ∃ j, i = j + 1 := Nat.exists_eq_succ_of_ne_zero (by omega)
    exact .inl ⟨j, rfl, by omega, rfl⟩
  · exact .inr ⟨by omega, rfl⟩

theorem far_le_enter (h : i ≤ d) : far a b d i ≤ enter a b (d + 1) (i + 1) := by
  rw [enter_succ (Nat.add_le_add_right h 1), Nat.add_sub_cancel]
  split <;> omega

theorem far_lt_enter (h : i ≤ d) : far a b d i < enter a b (d + 1) i := by
  rw [enter_succ (Nat.le_succ_of_le h)]
  split <;> omega

theorem far_eq_ite (h : i ≤ d) : far a b d i = if d ≤ enter a b d i + 2 * i
    then enter a b d i + slide a b (enter a b d i) (enter a b d i + 2 * i - d)
    else enter a b d i := by
  have hsize : i < (entries d (reach a b d)).size := by
    simpa [entries] using Nat.lt_succ_of_le h
  have henter : enter a b d i = (entries d (reach a b d))[i] := by
    rw [enter, Array.getElem?_eq_getElem hsize, Option.getD_some]
  rw [far, reach, frontier, Array.getElem?_mapIdx, Array.getElem?_eq_getElem hsize, henter]
  rfl

theorem enter_le_far (h : i ≤ d) : enter a b d i ≤ far a b d i := by
  rw [far_eq_ite h]
  split <;> omega

/-- On diagonal `i` of depth `d` at least `d - i` old tokens and `i` new ones are used. -/
theorem le_enter (h : i ≤ d) : d ≤ enter a b d i + i := by
  induction d generalizing i with
  | zero => omega
  | succ d ih =>
    rcases enter_succ_cases (a := a) (b := b) h with ⟨j, rfl, hj, henter⟩ | ⟨hi, henter⟩
    · have h1 := ih hj
      have h2 := enter_le_far (a := a) (b := b) hj
      omega
    · have h1 := ih hi
      have h2 := enter_le_far (a := a) (b := b) hi
      omega

theorem le_far (h : i ≤ d) : d ≤ far a b d i + i :=
  Nat.le_trans (le_enter h) (Nat.add_le_add_right (enter_le_far h) i)

/-- A frontier slides on from where it enters a diagonal. -/
theorem far_eq (h : i ≤ d) : far a b d i
    = enter a b d i + slide a b (enter a b d i) (enter a b d i + 2 * i - d) := by
  have := le_enter (a := a) (b := b) h
  rw [far_eq_ite h, if_pos (by omega)]

/-! ## Frontiers at the edge of the grid

A frontier does leave the grid: a diagonal that begins at the edge is entered all the same.  But a
slide stops at the edge, so a point outside has been *entered* there, and its neighbour of the depth
before was at the edge or outside already.  Going back depth by depth, the frontier has reached the
edge on the neighbouring diagonal of its own depth too.  Both lemmas are by induction on the depth;
the outermost diagonals have no such neighbour and are treated first. -/

/-- Sliding does not lead out of the old tokens. -/
theorem far_le_of_enter_le (h : i ≤ d) (hx : enter a b d i ≤ a.size) : far a b d i ≤ a.size := by
  have := (slide_le a b (enter a b d i) (enter a b d i + 2 * i - d)).1
  rw [far_eq h]
  omega

/-- Sliding does not lead out of the new tokens. -/
theorem far_add_le_of_enter_add_le (h : i ≤ d) (hy : enter a b d i + 2 * i ≤ b.size + d) :
    far a b d i + 2 * i ≤ b.size + d := by
  have h1 := (slide_le a b (enter a b d i) (enter a b d i + 2 * i - d)).2
  have h2 := le_enter (a := a) (b := b) h
  rw [far_eq h]
  omega

/-- The lowest diagonal is entered by insertions only. -/
theorem far_self_le (a b : Array α) (d : Nat) : far a b d d ≤ a.size := by
  induction d with
  | zero => exact far_le_of_enter_le (Nat.le_refl 0) (by rw [enter_zero]; omega)
  | succ d ih =>
    refine far_le_of_enter_le (Nat.le_refl _) ?_
    rw [enter_succ (Nat.le_refl _), if_pos (.inl rfl)]
    exact ih

/-- The highest diagonal is entered by deletions only. -/
theorem far_zero_le (a b : Array α) (d : Nat) : far a b d 0 ≤ b.size + d := by
  induction d with
  | zero => exact far_add_le_of_enter_add_le (Nat.le_refl 0) (by rw [enter_zero]; omega)
  | succ d ih =>
    refine far_add_le_of_enter_add_le (Nat.zero_le _) ?_
    rw [enter_succ (Nat.zero_le _), if_neg (by omega)]
    omega

/-- A frontier leaves the old tokens on a diagonal only if it has used them up on the diagonal
below. -/
theorem far_le_of_lt (h : i < d) (hx : a.size < far a b d i) : a.size ≤ far a b d (i + 1) := by
  induction d generalizing i with
  | zero => omega
  | succ d ih =>
    have hx : a.size < enter a b (d + 1) i := by
      refine Nat.lt_of_not_le fun hle ↦ ?_
      have := far_le_of_enter_le (Nat.le_of_lt h) hle
      omega
    have hprevious : a.size ≤ far a b d i := by
      rcases enter_succ_cases (a := a) (b := b) (Nat.le_of_lt h) with
        ⟨j, rfl, hj, henter⟩ | ⟨hi, henter⟩
      · exact ih (by omega) (by omega)
      · omega
    have h1 := far_le_enter (a := a) (b := b) (Nat.le_of_lt_succ h)
    have h2 := enter_le_far (a := a) (b := b) (show i + 1 ≤ d + 1 from h)
    omega

/-- A frontier leaves the new tokens on a diagonal only if it has used them up on the diagonal
above. -/
theorem le_far_of_lt (h : i < d) (hy : b.size + d < far a b d (i + 1) + 2 * (i + 1)) :
    b.size + d ≤ far a b d i + 2 * i := by
  induction d generalizing i with
  | zero => omega
  | succ d ih =>
    have hy : b.size + (d + 1) < enter a b (d + 1) (i + 1) + 2 * (i + 1) := by
      refine Nat.lt_of_not_le fun hle ↦ ?_
      have := far_add_le_of_enter_add_le (show i + 1 ≤ d + 1 from h) hle
      omega
    have hprevious : b.size + d ≤ far a b d i + 2 * i := by
      rcases enter_succ_cases (a := a) (b := b) (show i + 1 ≤ d + 1 from h) with
        ⟨j, hj, -, henter⟩ | ⟨hi, henter⟩
      · obtain rfl : i = j := by omega
        omega
      · exact ih hi (by omega)
    have h1 := far_lt_enter (a := a) (b := b) (Nat.le_of_lt_succ h)
    have h2 := enter_le_far (a := a) (b := b) (Nat.le_of_lt h)
    omega

/-! ## Inside the grid

Two frontiers can meet on diagonals `i` and `j` of depths `d` and `e` only if these are one diagonal
of the grid, seen from the two corners.  `Opposite` says so without subtraction, for `omega` to see.
If they have not met there, what the one has used up and what the other has used up together is less
than all, so neither can be outside.

What `enter_inside` asks of the depth before are the diagonals next to the one entered, and these
have opposite diagonals too, unless they are at the end of the other frontier.  There the lemmas
about the edge take over. -/

/-- Diagonal `i` of depth `d` from the one end is diagonal `j` of depth `e` from the other. -/
def Opposite (a b : Array α) (d e i j : Nat) : Prop := a.size + 2 * (i + j) = b.size + d + e

/-- The frontier of depth `d` has used up neither list on diagonal `i`. -/
def Inside (a b : Array α) (d i : Nat) : Prop :=
  far a b d i < a.size ∧ far a b d i + 2 * i < b.size + d

/-- A frontier that has not met the one from the other end has used up neither list. -/
theorem inside_of_unmet {ra rb : Array α} {e : Nat} (hj : j ≤ e) (hopp : Opposite a b d e i j)
    (h : far a b d i + far ra rb e j < a.size) : Inside a b d i := by
  have := le_far (a := ra) (b := rb) hj
  rw [Opposite] at hopp
  refine ⟨?_, ?_⟩ <;> omega

/-- A point that cuts two lists of `n` and `m` tokens, so that both halves are smaller than the
whole. -/
structure IsProperCut (n m x y : Nat) : Prop where
  left_le : x ≤ n
  right_le : y ≤ m
  pos : 0 < x + y
  lt : x + y < n + m

/-- **Where a diagonal is entered.**  If the frontier of the depth before is inside the grid on the
diagonals on which it could have met the other one, then the diagonals on which the next frontier
can meet it are entered at proper points. -/
theorem enter_inside {e : Nat} (he : 0 < e) (hi : i ≤ d + 1) (hj : j ≤ e)
    (hopp : Opposite a b (d + 1) e i j)
    (hinside : ∀ i' ≤ d, ∀ j' < e, i' + j' + 1 = i + j → Inside a b d i') :
    IsProperCut a.size b.size (enter a b (d + 1) i) (enter a b (d + 1) i + 2 * i - (d + 1)) := by
  rw [Opposite] at hopp
  have hle := le_enter (a := a) (b := b) hi
  rcases enter_succ_cases (a := a) (b := b) hi with ⟨i, rfl, hi', henter⟩ | ⟨hi', henter⟩
  · -- an insertion: the diagonal above is opposite to the same one, unless that is the last
    by_cases hje : j < e
    · obtain ⟨hx, hy⟩ := hinside i hi' j hje (by omega)
      constructor <;> omega
    · have hx : far a b d i ≤ a.size := by
        refine Nat.le_of_not_lt fun hlt ↦ ?_
        by_cases hid : i < d
        · have h1 := far_le_of_lt hid hlt
          have h2 := (hinside (i + 1) hid (e - 1) (by omega) (by omega)).1
          omega
        · obtain rfl : i = d := by omega
          have := far_self_le a b i
          omega
      constructor <;> omega
  · -- a deletion: the diagonal below is opposite to the next one, unless that is the first
    by_cases hj0 : 0 < j
    · obtain ⟨hx, hy⟩ := hinside i hi' (j - 1) (by omega) (by omega)
      constructor <;> omega
    · have hy : far a b d i + 2 * i ≤ b.size + d := by
        refine Nat.le_of_not_lt fun hlt ↦ ?_
        cases i with
        | zero =>
          have := far_zero_le a b d
          omega
        | succ i =>
          have h1 := le_far_of_lt hi' hlt
          have h2 := (hinside i (by omega) 0 he (by omega)).2
          omega
      constructor <;> omega

/-! ## Meeting

`meeting` works with signed numbers and halves a difference, which is only right where the
difference is even.  It is: the parity of `n + m` decides at which of the two frontiers a meeting is
looked for.  Under that hypothesis, the diagonals that `meeting` looks at are those with an opposite
one. -/

section Meeting

variable {n m e : Nat} {front other : Array Nat}

/-- The diagonal opposite to a diagonal, if the other frontier has it. -/
theorem opposite_iff (hparity : (n + m + d + e) % 2 = 0) :
    ((d - 2 * i : Int) - (n - m)).natAbs ≤ e ↔ ∃ j ≤ e, n + 2 * (i + j) = m + d + e := by
  constructor
  · intro h
    exact ⟨((e : Int) - (n - m) + (d - 2 * i)).toNat / 2, by omega, by omega⟩
  · rintro ⟨j, hj, hopp⟩
    omega

theorem toNat_opposite (hopp : n + 2 * (i + j) = m + d + e) :
    (((e : Int) - ((n - m) - (d - 2 * i))) / 2).toNat = j := by
  omega

theorem exists_of_meeting_eq_some (hparity : (n + m + d + e) % 2 = 0)
    (h : meeting n (n - m) d front e other = some i) :
    i ≤ d ∧ ∃ j ≤ e, n + 2 * (i + j) = m + d + e ∧
      n ≤ front[i]?.getD 0 + other[j]?.getD 0 := by
  have hi := List.mem_of_find?_eq_some h
  have hcond := List.find?_some h
  simp only [Bool.and_eq_true, decide_eq_true_eq] at hcond
  obtain ⟨j, hj, hopp⟩ := (opposite_iff hparity).1 hcond.1
  have hle := hcond.2
  rw [toNat_opposite hopp] at hle
  exact ⟨Nat.le_of_lt_succ (List.mem_range.1 hi), j, hj, hopp, hle⟩

theorem lt_of_meeting_eq_none (h : meeting n (n - m) d front e other = none) (hi : i ≤ d)
    (hj : j ≤ e) (hopp : n + 2 * (i + j) = m + d + e) :
    front[i]?.getD 0 + other[j]?.getD 0 < n := by
  have hcond := List.find?_eq_none.1 h i (List.mem_range.2 (Nat.lt_succ_of_le hi))
  simp only [Bool.and_eq_true, decide_eq_true_eq, not_and, toNat_opposite hopp] at hcond
  refine Nat.lt_of_not_le (hcond ?_)
  omega

end Meeting

/-! ## The search

`Unmet` is what the search knows when it comes to a depth: at the one kind of meeting that the
parity allows, the frontiers have not met yet.  It speaks only of the depth before, since the
frontiers only move on.  For each parity there is a lemma about a depth without a meeting, which
gives `Unmet` for the next one, and a lemma about a depth with a meeting, which gives the cut.  The
induction is on the fuel; when that is used up, `not_unmet` is the contradiction. -/

/-- Two arrays of tokens with their reversals, which differ at both ends. -/
structure Apart (a b ra rb : Array α) : Prop where
  size_left : ra.size = a.size
  size_right : rb.size = b.size
  left_pos : 0 < a.size
  right_pos : 0 < b.size
  head : a[0]? ≠ b[0]?
  reverse_head : ra[0]? ≠ rb[0]?
  reverse_last : ra[a.size - 1]? ≠ rb[b.size - 1]?

/-- The frontiers have not met in the depth before `d`. -/
structure Unmet (a b ra rb : Array α) (d : Nat) : Prop where
  odd : (a.size + b.size) % 2 = 1 → ∀ e i j, e + 2 = d → i ≤ e + 1 → j ≤ e →
    Opposite a b (e + 1) e i j → far a b (e + 1) i + far ra rb e j < a.size
  even : (a.size + b.size) % 2 = 0 → ∀ e i j, e + 1 = d → i ≤ e → j ≤ e →
    Opposite a b e e i j → far ra rb e i + far a b e j < a.size

namespace Apart

variable {ra rb : Array α}

theorem far_zero (h : a[0]? ≠ b[0]?) : far a b 0 0 = 0 := by
  rw [far_eq (Nat.le_refl 0), enter_zero, slide_eq_zero h]

/-- A meeting of the frontier from the start with the one from the end. -/
theorem cut_forward (h : Apart a b ra rb) (hunmet : Unmet a b ra rb (d + 1))
    (hodd : (a.size + b.size) % 2 = 1) (hi : i ≤ d + 1) (hj : j ≤ d)
    (hopp : Opposite a b (d + 1) d i j) :
    IsProperCut a.size b.size (enter a b (d + 1) i) (enter a b (d + 1) i + 2 * i - (d + 1)) := by
  have hleft := h.left_pos
  have hright := h.right_pos
  cases d with
  | zero =>
    have hfar := far_zero h.head
    rcases enter_succ_cases (a := a) (b := b) hi with ⟨i, rfl, hi', henter⟩ | ⟨hi', henter⟩
    · obtain rfl : i = 0 := by omega
      constructor <;> omega
    · obtain rfl : i = 0 := by omega
      constructor <;> omega
  | succ e =>
    refine enter_inside (Nat.succ_pos e) hi hj hopp fun i' hi' j' hj' hsum ↦ ?_
    have hopp' : Opposite a b (e + 1) e i' j' := by
      rw [Opposite] at hopp ⊢
      omega
    exact inside_of_unmet (Nat.le_of_lt_succ hj') hopp'
      (hunmet.odd hodd e i' j' rfl hi' (Nat.le_of_lt_succ hj') hopp')

/-- A meeting of the frontier from the end with the one from the start. -/
theorem cut_backward (h : Apart a b ra rb) (hunmet : Unmet a b ra rb (d + 1))
    (heven : (a.size + b.size) % 2 = 0) (hi : i ≤ d + 1) (hj : j ≤ d + 1)
    (hopp : Opposite a b (d + 1) (d + 1) i j) :
    IsProperCut a.size b.size (a.size - far ra rb (d + 1) i)
      (b.size - (far ra rb (d + 1) i + 2 * i - (d + 1))) := by
  have hleft := h.size_left
  have hright := h.size_right
  obtain ⟨hx, hy, hpos, hlt⟩ : IsProperCut ra.size rb.size (enter ra rb (d + 1) i)
      (enter ra rb (d + 1) i + 2 * i - (d + 1)) := by
    refine enter_inside (e := d + 1) (Nat.succ_pos d) hi hj ?_ fun i' hi' j' hj' hsum ↦ ?_
    · rw [Opposite] at hopp ⊢
      rwa [hleft, hright]
    · have hopp' : Opposite a b d d i' j' := by
        rw [Opposite] at hopp ⊢
        omega
      have := hunmet.even heven d i' j' rfl hi' (Nat.le_of_lt_succ hj') hopp'
      have hopp'' : Opposite ra rb d d i' j' := by
        rw [Opposite] at hopp' ⊢
        rwa [hleft, hright]
      rw [← hleft] at this
      exact inside_of_unmet (Nat.le_of_lt_succ hj') hopp'' this
  have hle := le_enter (a := ra) (b := rb) hi
  have hslide := slide_le ra rb (enter ra rb (d + 1) i) (enter ra rb (d + 1) i + 2 * i - (d + 1))
  have hfar := far_eq (a := ra) (b := rb) hi
  -- the slide does not reach the corner, where the lists would begin alike
  have hcorner : ¬ (far ra rb (d + 1) i = a.size ∧
      far ra rb (d + 1) i + 2 * i - (d + 1) = b.size) := by
    rintro ⟨hxe, hye⟩
    by_cases hs : 0 < slide ra rb (enter ra rb (d + 1) i)
        (enter ra rb (d + 1) i + 2 * i - (d + 1))
    · exact h.reverse_last (getElem?_of_slide hs (by omega) (by omega))
    · omega
  constructor <;> omega

/-- After that many depths the frontiers must have met: together they cover all old tokens. -/
theorem not_unmet (h : Apart a b ra rb) : ¬ Unmet a b ra rb ((a.size + b.size + 1) / 2 + 1) := by
  intro hunmet
  have hleft := h.left_pos
  have hright := h.right_pos
  rcases Nat.mod_two_eq_zero_or_one (a.size + b.size) with heven | hodd
  · obtain ⟨i, j, hij, hi, hj⟩ : ∃ i j, i + j = b.size ∧ i ≤ (a.size + b.size + 1) / 2 ∧
        j ≤ (a.size + b.size + 1) / 2 := by
      by_cases hm : b.size ≤ (a.size + b.size + 1) / 2
      · exact ⟨b.size, 0, rfl, hm, Nat.zero_le _⟩
      · exact ⟨(a.size + b.size + 1) / 2, b.size - (a.size + b.size + 1) / 2, by omega,
          Nat.le_refl _, by omega⟩
    have hopp : Opposite a b ((a.size + b.size + 1) / 2) ((a.size + b.size + 1) / 2) i j := by
      rw [Opposite]
      omega
    have hlt := hunmet.even heven _ i j rfl hi hj hopp
    have h1 := le_far (a := ra) (b := rb) hi
    have h2 := le_far (a := a) (b := b) hj
    omega
  · obtain ⟨e, he⟩ : ∃ e, e + 2 = (a.size + b.size + 1) / 2 + 1 :=
      ⟨_, Nat.sub_add_cancel (by omega)⟩
    obtain ⟨i, j, hij, hi, hj⟩ : ∃ i j, i + j = b.size ∧ i ≤ e + 1 ∧ j ≤ e := by
      by_cases hm : b.size ≤ e + 1
      · exact ⟨b.size, 0, rfl, hm, Nat.zero_le _⟩
      · exact ⟨e + 1, b.size - (e + 1), by omega, Nat.le_refl _, by omega⟩
    have hopp : Opposite a b (e + 1) e i j := by
      rw [Opposite]
      omega
    have hlt := hunmet.odd hodd e i j he hi hj hopp
    have h1 := le_far (a := a) (b := b) hi
    have h2 := le_far (a := ra) (b := rb) hj
    omega

/-- At a depth without a meeting, in a grid with an even number of edges. -/
theorem unmet_of_even (heven : (a.size + b.size) % 2 = 0)
    (hmet : meeting a.size (a.size - b.size) d (reach ra rb (d + 1)) d (reach a b (d + 1)) = none) :
    Unmet a b ra rb (d + 1) := by
  refine ⟨fun hodd ↦ by omega, fun _ e i j he hi hj hopp ↦ ?_⟩
  obtain rfl : e = d := by omega
  exact lt_of_meeting_eq_none hmet hi hj hopp

/-- At a depth with a meeting, in a grid with an even number of edges. -/
theorem cut_of_even (h : Apart a b ra rb) (hunmet : Unmet a b ra rb d)
    (heven : (a.size + b.size) % 2 = 0)
    (hmet : meeting a.size (a.size - b.size) d (reach ra rb (d + 1)) d (reach a b (d + 1))
      = some i) :
    IsProperCut a.size b.size (a.size - far ra rb d i) (b.size - (far ra rb d i + 2 * i - d)) := by
  obtain ⟨hi, j, hj, hopp, hle⟩ := exists_of_meeting_eq_some (m := b.size) (by omega) hmet
  cases d with
  | zero =>
    -- the lists differ at both ends, so neither frontier has left its corner
    have h1 := far_zero h.head
    have h2 := far_zero h.reverse_head
    have h3 := h.left_pos
    obtain rfl : i = 0 := by omega
    obtain rfl : j = 0 := by omega
    have : a.size ≤ far ra rb 0 0 + far a b 0 0 := hle
    omega
  | succ d => exact h.cut_backward hunmet heven hi hj hopp

/-- At a depth without a meeting, in a grid with an odd number of edges. -/
theorem unmet_of_odd (hodd : (a.size + b.size) % 2 = 1)
    (hmet : meeting a.size (a.size - b.size) (d + 1) (reach a b (d + 2)) d (reach ra rb (d + 1))
      = none) :
    Unmet a b ra rb (d + 2) := by
  refine ⟨fun _ e i j he hi hj hopp ↦ ?_, fun heven ↦ by omega⟩
  obtain rfl : e = d := by omega
  exact lt_of_meeting_eq_none hmet hi hj hopp

/-- At a depth with a meeting, in a grid with an odd number of edges. -/
theorem cut_of_odd (h : Apart a b ra rb) (hunmet : Unmet a b ra rb (d + 1))
    (hodd : (a.size + b.size) % 2 = 1)
    (hmet : meeting a.size (a.size - b.size) (d + 1) (reach a b (d + 2)) d (reach ra rb (d + 1))
      = some i) :
    IsProperCut a.size b.size (enter a b (d + 1) i) (enter a b (d + 1) i + 2 * i - (d + 1)) := by
  obtain ⟨hi, j, hj, hopp, -⟩ := exists_of_meeting_eq_some (m := b.size) (by omega) hmet
  exact h.cut_forward hunmet hodd hi hj hopp

/-- **The search finds a proper cut**, whichever depth it has come to without one. -/
theorem middleFrom_spec (h : Apart a b ra rb) {fuel : Nat}
    (hfuel : fuel + d = (a.size + b.size + 1) / 2 + 1) (hunmet : Unmet a b ra rb d) :
    ∃ x y, middleFrom a b ra rb fuel d (reach a b d) (reach ra rb d) = some (x, y) ∧
      IsProperCut a.size b.size x y := by
  induction fuel generalizing d with
  | zero =>
    obtain rfl : d = (a.size + b.size + 1) / 2 + 1 := by omega
    exact absurd hunmet h.not_unmet
  | succ fuel ih =>
    rw [middleFrom]
    rcases Nat.mod_two_eq_zero_or_one (a.size + b.size) with heven | hodd
    · have hdelta : ((a.size : Int) - b.size) % 2 = 0 := by omega
      simp only [hdelta, true_or, if_true]
      rcases hmet : meeting a.size (a.size - b.size) d (reach ra rb (d + 1)) d (reach a b (d + 1))
        with _ | i
      · have hnext := unmet_of_even heven hmet
        rw [reach, reach] at hmet
        simp only [hmet]
        exact ih (by omega) hnext
      · have hcut := h.cut_of_even hunmet heven hmet
        rw [reach, reach] at hmet
        simp only [hmet]
        exact ⟨_, _, rfl, hcut⟩
    · have hdelta : ¬ ((a.size : Int) - b.size) % 2 = 0 := by omega
      simp only [hdelta, false_or, if_false]
      cases d with
      | zero =>
        simp only [if_true]
        exact ih (by omega) ⟨fun _ e i j he ↦ by omega, fun heven ↦ by omega⟩
      | succ d =>
        simp only [Nat.succ_ne_zero, if_false, Nat.add_sub_cancel]
        rcases hmet : meeting a.size (a.size - b.size) (d + 1) (reach a b (d + 2)) d
          (reach ra rb (d + 1)) with _ | i
        · have hnext := unmet_of_odd hodd hmet
          rw [reach] at hmet
          simp only [hmet]
          exact ih (by omega) hnext
        · have hcut := h.cut_of_odd hunmet hodd hmet
          rw [reach] at hmet
          simp only [hmet]
          exact ⟨_, _, rfl, hcut⟩

end Apart

/-- **The middle of two lists is a proper cut.**  Lists that are not empty, and differ in their
first and in their last tokens, are always cut, and both halves are smaller than the whole. -/
theorem middle_isProperCut {a b : List α} (ha : a ≠ []) (hb : b ≠ []) (hhead : a.head? ≠ b.head?)
    (hlast : a.getLast? ≠ b.getLast?) :
    ∃ x y, middle a b = some (x, y) ∧ IsProperCut a.length b.length x y := by
  have hleft := List.length_pos_iff.2 ha
  have hright := List.length_pos_iff.2 hb
  rw [List.head?_eq_getElem?, List.head?_eq_getElem?] at hhead
  have happart : Apart a.toArray b.toArray a.reverse.toArray b.reverse.toArray := by
    refine ⟨by simp, by simp, by simpa using hleft, by simpa using hright, by simpa using hhead,
      ?_, ?_⟩
    · simpa [← List.head?_eq_getElem?] using hlast
    · simp only [List.size_toArray, List.getElem?_toArray]
      rw [List.getElem?_reverse (by omega), List.getElem?_reverse (by omega), Nat.sub_self,
        Nat.sub_self]
      exact hhead
  have hfuel : (a.length + b.length + 1) / 2 + 1 + 0
      = (a.toArray.size + b.toArray.size + 1) / 2 + 1 := by simp
  have := happart.middleFrom_spec hfuel
    ⟨fun _ e i j he ↦ by omega, fun _ e i j he ↦ by omega⟩
  simpa [middle, reach] using this

end Emend.Diff
