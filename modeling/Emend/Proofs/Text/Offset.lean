import Emend.Text.Basic

/-!
# Boundaries are the ends of prefixes

An offset of a text is a character boundary exactly when it is the length of a prefix
(`Text.isBoundary_iff`).  So a text with a boundary in it is `p ++ s`, with the boundary at `byteLen
p`, and cutting there gives `p` and `s` back.  Everything that is proved about offsets goes through
this: the lemmas here say what `isBoundary`, `takeBytes`, `dropBytes`, `between` and `checkOffset`
do to a text that is given in parts.

An offset is a number, and a text is a list of characters of different lengths, so a statement about
an offset does not fit an induction on the text.  A statement about a prefix does.  Later proofs
hardly ever mention `takeBytes` with a number: they take the text apart with `obtain` first, and the
simp lemmas do the rest.
-/

set_option autoImplicit false

namespace Emend
namespace Text

/-! ## Length -/

@[simp] theorem byteLen_eq_zero {t : Text} : byteLen t = 0 ↔ t = [] := by
  cases t with
  | nil => simp
  | cons c t =>
    have := c.utf8Size_pos
    simp only [byteLen_cons, reduceCtorEq, iff_false]
    omega

theorem byteLen_pos {t : Text} (h : t ≠ []) : 0 < byteLen t :=
  Nat.pos_of_ne_zero (mt byteLen_eq_zero.1 h)

/-- Two prefixes of one text are comparable, and the shorter one is a prefix of the other. -/
theorem exists_append_of_byteLen_le {p s p' s' : Text} (h : p ++ s = p' ++ s')
    (hle : byteLen p ≤ byteLen p') : ∃ m, p' = p ++ m ∧ s = m ++ s' := by
  rcases List.append_eq_append_iff.1 h with ⟨m, rfl, rfl⟩ | ⟨m, rfl, rfl⟩
  · exact ⟨m, rfl, rfl⟩
  · obtain rfl : m = [] := by
      rw [byteLen_append] at hle
      exact byteLen_eq_zero.1 (by omega)
    exact ⟨[], by simp, by simp⟩

/-! ## Boundaries -/

@[simp] theorem isBoundary_zero (t : Text) : isBoundary t 0 = true := by
  cases t <;> rfl

/-- Behind a prefix, the boundaries are those of what follows it. -/
@[simp] theorem isBoundary_append_add (p s : Text) (n : Nat) :
    isBoundary (p ++ s) (byteLen p + n) = isBoundary s n := by
  induction p with
  | nil => simp
  | cons c p ih =>
    have hpos := c.utf8Size_pos
    obtain ⟨m, hm⟩ : ∃ m, c.utf8Size + byteLen p + n = m + 1 := ⟨_, (Nat.succ_pred (by omega)).symm⟩
    rw [List.cons_append, byteLen_cons, hm, isBoundary, ← hm,
      show c.utf8Size + byteLen p + n - c.utf8Size = byteLen p + n by omega, ih]
    simp [Nat.add_assoc]

@[simp] theorem isBoundary_append_byteLen (p s : Text) :
    isBoundary (p ++ s) (byteLen p) = true := by
  simpa using isBoundary_append_add p s 0

/-- **An offset is a boundary exactly when it is the length of a prefix.** -/
theorem isBoundary_iff {t : Text} {n : Nat} :
    isBoundary t n = true ↔ ∃ p s, t = p ++ s ∧ byteLen p = n := by
  constructor
  · intro h
    induction t generalizing n with
    | nil =>
      cases n with
      | zero => exact ⟨[], [], rfl, rfl⟩
      | succ n => simp [isBoundary] at h
    | cons c t ih =>
      cases n with
      | zero => exact ⟨[], c :: t, rfl, rfl⟩
      | succ n =>
        rw [isBoundary, Bool.and_eq_true, decide_eq_true_eq] at h
        obtain ⟨p, s, rfl, hp⟩ := ih h.2
        exact ⟨c :: p, s, rfl, by rw [byteLen_cons, hp]; omega⟩
  · rintro ⟨p, s, rfl, rfl⟩
    exact isBoundary_append_byteLen p s

theorem le_byteLen_of_isBoundary {t : Text} {n : Nat} (h : isBoundary t n = true) :
    n ≤ byteLen t := by
  obtain ⟨p, s, rfl, rfl⟩ := isBoundary_iff.1 h
  simp

/-- Within a prefix, the boundaries are those of the prefix. -/
theorem isBoundary_append_of_le {p s : Text} {n : Nat} (h : n ≤ byteLen p) :
    isBoundary (p ++ s) n = isBoundary p n := by
  rw [Bool.eq_iff_iff]
  constructor
  · intro hb
    obtain ⟨q, r, hqr, rfl⟩ := isBoundary_iff.1 hb
    obtain ⟨m, rfl, -⟩ := exists_append_of_byteLen_le hqr.symm h
    simp
  · intro hb
    obtain ⟨q, r, rfl, rfl⟩ := isBoundary_iff.1 hb
    simp

/-- In the middle part of a text, the boundaries are those of that part. -/
theorem isBoundary_middle {p m s : Text} {n : Nat} (h : byteLen p ≤ n)
    (h' : n ≤ byteLen p + byteLen m) :
    isBoundary (p ++ (m ++ s)) n = isBoundary m (n - byteLen p) := by
  obtain ⟨k, rfl⟩ := Nat.exists_eq_add_of_le h
  rw [Nat.add_sub_cancel_left, isBoundary_append_add, isBoundary_append_of_le (by omega)]

/-! ## Cutting -/

@[simp] theorem takeBytes_append_add (p s : Text) (n : Nat) :
    takeBytes (byteLen p + n) (p ++ s) = p ++ takeBytes n s := by
  induction p with
  | nil => simp
  | cons c p ih =>
    rw [List.cons_append, takeBytes, byteLen_cons, if_pos (by omega),
      show c.utf8Size + byteLen p + n - c.utf8Size = byteLen p + n by omega, ih, List.cons_append]

@[simp] theorem dropBytes_append_add (p s : Text) (n : Nat) :
    dropBytes (byteLen p + n) (p ++ s) = dropBytes n s := by
  induction p with
  | nil => simp
  | cons c p ih =>
    rw [List.cons_append, dropBytes, byteLen_cons, if_pos (by omega),
      show c.utf8Size + byteLen p + n - c.utf8Size = byteLen p + n by omega, ih]

@[simp] theorem takeBytes_zero (t : Text) : takeBytes 0 t = [] := by
  cases t with
  | nil => rfl
  | cons c t =>
    have := c.utf8Size_pos
    rw [takeBytes, if_neg (by omega)]

@[simp] theorem dropBytes_zero (t : Text) : dropBytes 0 t = t := by
  have h := takeBytes_append_dropBytes 0 t
  rwa [takeBytes_zero, List.nil_append] at h

@[simp] theorem takeBytes_append_byteLen (p s : Text) : takeBytes (byteLen p) (p ++ s) = p := by
  simpa using takeBytes_append_add p s 0

@[simp] theorem dropBytes_append_byteLen (p s : Text) : dropBytes (byteLen p) (p ++ s) = s := by
  simpa using dropBytes_append_add p s 0

@[simp] theorem dropBytes_byteLen (t : Text) : dropBytes (byteLen t) t = [] := by
  simpa using dropBytes_append_byteLen t []

theorem takeBytes_append_of_le {p s : Text} {n : Nat} (h : n ≤ byteLen p) :
    takeBytes n (p ++ s) = takeBytes n p := by
  induction p generalizing n with
  | nil =>
    obtain rfl : n = 0 := by simpa using h
    simp
  | cons c p ih =>
    rw [byteLen_cons] at h
    rw [List.cons_append, takeBytes, takeBytes]
    split
    · rw [ih (by omega)]
    · rfl

theorem dropBytes_append_of_le {p s : Text} {n : Nat} (h : n ≤ byteLen p) :
    dropBytes n (p ++ s) = dropBytes n p ++ s := by
  induction p generalizing n with
  | nil =>
    obtain rfl : n = 0 := by simpa using h
    simp
  | cons c p ih =>
    rw [byteLen_cons] at h
    rw [List.cons_append, dropBytes, dropBytes]
    split
    · rw [ih (by omega)]
    · rfl

/-- The part of a text between two of its boundaries. -/
theorem between_append (p m s : Text) {start stop : Nat} (hstart : start = byteLen p)
    (hstop : stop = byteLen p + byteLen m) : between (p ++ (m ++ s)) start stop = m := by
  rw [between, hstart, hstop, dropBytes_append_byteLen, Nat.add_sub_cancel_left,
    takeBytes_append_byteLen]

/-! ## Replacing

`replaceBetween` is what an edit does to a text.  In a text of three parts it replaces the middle
one, or something within it, and leaves the outer ones alone.  So edits at a distance from one
another do not disturb each other. -/

/-- The text with the part between two offsets replaced. -/
def replaceBetween (t : Text) (start stop : Nat) (x : Text) : Text :=
  takeBytes start t ++ (x ++ dropBytes stop t)

/-- Replacing nothing by nothing changes nothing, wherever it is. -/
@[simp] theorem replaceBetween_self_nil (t : Text) (n : Nat) : replaceBetween t n n [] = t := by
  simp [replaceBetween]

/-- The middle part of a text replaced. -/
theorem replaceBetween_append (p m s x : Text) {start stop : Nat} (hstart : start = byteLen p)
    (hstop : stop = byteLen p + byteLen m) :
    replaceBetween (p ++ (m ++ s)) start stop x = p ++ (x ++ s) := by
  rw [replaceBetween, hstart, hstop, takeBytes_append_byteLen, dropBytes_append_add,
    dropBytes_append_byteLen]

/-- What is replaced within the middle part of a text. -/
theorem replaceBetween_middle {p m s x : Text} {start stop : Nat} (hstart : byteLen p ≤ start)
    (hle : start ≤ stop) (hstop : stop ≤ byteLen p + byteLen m) :
    replaceBetween (p ++ (m ++ s)) start stop x
      = p ++ (replaceBetween m (start - byteLen p) (stop - byteLen p) x ++ s) := by
  obtain ⟨k, rfl⟩ := Nat.exists_eq_add_of_le hstart
  obtain ⟨l, rfl⟩ := Nat.exists_eq_add_of_le (Nat.le_trans hstart hle)
  rw [replaceBetween, replaceBetween, takeBytes_append_add, dropBytes_append_add,
    takeBytes_append_of_le (by omega), dropBytes_append_of_le (by omega)]
  simp

/-- The length of a text after a replacement between two boundaries. -/
theorem byteLen_replaceBetween {t x : Text} {start stop : Nat} (hle : start ≤ stop)
    (hstart : isBoundary t start = true) (hstop : isBoundary t stop = true) :
    byteLen (replaceBetween t start stop x) = byteLen t - (stop - start) + byteLen x := by
  obtain ⟨p, s, rfl, rfl⟩ := isBoundary_iff.1 hstart
  obtain ⟨k, rfl⟩ := Nat.exists_eq_add_of_le hle
  rw [isBoundary_append_add] at hstop
  obtain ⟨m, s, rfl, rfl⟩ := isBoundary_iff.1 hstop
  rw [replaceBetween, takeBytes_append_byteLen, dropBytes_append_add, dropBytes_append_byteLen]
  simp only [byteLen_append]
  omega

/-! ## Checks -/

theorem checkOffset_eq_ok_iff {t : Text} {n : Nat} :
    checkOffset t n = .ok () ↔ isBoundary t n = true := by
  rw [checkOffset]
  split
  · next h =>
    simp only [reduceCtorEq, false_iff]
    intro hb
    have := le_byteLen_of_isBoundary hb
    omega
  · split <;> simp_all

theorem checkOffset_of_isBoundary {t : Text} {n : Nat} (h : isBoundary t n = true) :
    checkOffset t n = .ok () :=
  checkOffset_eq_ok_iff.2 h

theorem exists_checkOffset_eq_error {t : Text} {n : Nat} (h : ¬ isBoundary t n = true) :
    ∃ e, checkOffset t n = .error e := by
  cases hc : checkOffset t n with
  | ok _ => exact absurd (checkOffset_eq_ok_iff.1 hc) h
  | error e => exact ⟨e, rfl⟩

theorem eq_of_checkOffset_eq_error {t : Text} {n : Nat} {e : TextError} (hle : n ≤ byteLen t)
    (h : checkOffset t n = .error e) : e = .notCharBoundary n ∧ isBoundary t n = false := by
  rw [checkOffset, if_neg (Nat.not_lt_of_le hle)] at h
  split at h
  · cases h
  · next hcut => exact ⟨(Except.error.inj h).symm, Bool.eq_false_iff.2 hcut⟩

/-- Between two boundaries in order there is a slice. -/
theorem slice_of_isBoundary {t : Text} {start stop : Nat} (hle : start ≤ stop)
    (hstart : isBoundary t start = true) (hstop : isBoundary t stop = true) :
    slice t start stop = .ok (between t start stop) := by
  rw [slice, checkOffset_of_isBoundary hstart, checkOffset_of_isBoundary hstop]
  show (if stop < start then _ else _) = _
  rw [if_neg (Nat.not_lt_of_le hle)]

/-- A slice between two boundaries is the part of the text between them. -/
theorem slice_append (p m s : Text) {start stop : Nat} (hstart : start = byteLen p)
    (hstop : stop = byteLen p + byteLen m) : slice (p ++ (m ++ s)) start stop = .ok m := by
  rw [slice_of_isBoundary (by omega) (by simp [hstart]) (by simp [hstop]),
    between_append p m s hstart hstop]

end Text
end Emend
