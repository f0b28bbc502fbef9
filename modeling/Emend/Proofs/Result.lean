import Mathlib.Data.List.Forall2

/-!
# Results that may be failures

How a result was come by: `exists_of_bind_eq_ok` and its like take a computation apart that has
ended in a certain way, and `mapM_eq_ok_iff` and `mapM_eq_error_iff` do so for one computation for
each item of a list.  `SucceedsIff` says exactly when there is a result, and what it is then.

A proof about a function written with `do` peels it step by step with these, and does not unfold the
functions that it calls.
-/

set_option autoImplicit false

namespace Emend

/-! ## Taking computations apart -/

section Except

variable {α β ε ε' : Type} {x : Except ε α}

theorem exists_of_bind_eq_ok {f : α → Except ε β} {b : β} (h : x >>= f = .ok b) :
    ∃ a, x = .ok a ∧ f a = .ok b := by
  cases x with
  | ok a => exact ⟨a, rfl, h⟩
  | error e => cases h

theorem bind_eq_ok_iff {f : α → Except ε β} {b : β} :
    x >>= f = .ok b ↔ ∃ a, x = .ok a ∧ f a = .ok b :=
  ⟨exists_of_bind_eq_ok, fun ⟨_, hx, hf⟩ ↦ hx ▸ hf⟩

theorem exists_of_bind_eq_error {f : α → Except ε β} {e : ε} (h : x >>= f = .error e) :
    x = .error e ∨ ∃ a, x = .ok a ∧ f a = .error e := by
  cases x with
  | ok a => exact .inr ⟨a, rfl, h⟩
  | error e' => exact .inl (congrArg Except.error (Except.error.inj h))

theorem map_eq_ok_iff {f : α → β} {b : β} : x.map f = .ok b ↔ ∃ a, x = .ok a ∧ f a = b := by
  cases x <;> simp [Except.map]

theorem error_of_map_eq_error {f : α → β} {e : ε} (h : x.map f = .error e) : x = .error e := by
  cases x with
  | ok a => cases h
  | error e' => exact congrArg Except.error (Except.error.inj h)

theorem eq_ok_of_mapError_eq_ok {f : ε → ε'} {a : α} (h : x.mapError f = .ok a) : x = .ok a := by
  cases x with
  | ok a' => exact congrArg Except.ok (Except.ok.inj h)
  | error e => cases h

theorem exists_of_mapError_eq_error {f : ε → ε'} {e : ε'} (h : x.mapError f = .error e) :
    ∃ e', x = .error e' ∧ f e' = e := by
  cases x with
  | ok a => cases h
  | error e' => exact ⟨e', rfl, Except.error.inj h⟩

theorem toOption_eq_some_iff {a : α} : x.toOption = some a ↔ x = .ok a := by
  cases x <;> simp [Except.toOption]

end Except

/-! ## Lists of results -/

section Lists

variable {α β ε : Type} {R : α → β → Prop} {xs : List α} {ys : List β}

/-- There are results for a list exactly if there is one for each item. -/
theorem mapM_eq_ok_iff {f : α → Except ε β} :
    xs.mapM f = .ok ys ↔ List.Forall₂ (fun x y ↦ f x = .ok y) xs ys := by
  induction xs generalizing ys with
  | nil =>
    rw [List.forall₂_nil_left_iff]
    exact ⟨fun h ↦ (Except.ok.inj h).symm, fun h ↦ h ▸ rfl⟩
  | cons x xs ih =>
    rw [List.mapM_cons, List.forall₂_cons_left_iff]
    constructor
    · intro h
      obtain ⟨y, hy, h⟩ := exists_of_bind_eq_ok h
      obtain ⟨ys', hys, h⟩ := exists_of_bind_eq_ok h
      exact ⟨y, ys', hy, ih.1 hys, (Except.ok.inj h).symm⟩
    · rintro ⟨y, ys', hy, hys, rfl⟩
      rw [hy, ih.2 hys]
      rfl

/-- Results for a list fail as the first item does that fails. -/
theorem mapM_eq_error_iff {f : α → Except ε β} {g : α → Option ε}
    (hg : ∀ x e, f x = .error e ↔ g x = some e) {e : ε} :
    xs.mapM f = .error e ↔ xs.findSome? g = some e := by
  induction xs with
  | nil => exact ⟨nofun, nofun⟩
  | cons x xs ih =>
    rw [List.mapM_cons, List.findSome?_cons]
    cases hx : f x with
    | error e' =>
      rw [(hg x e').1 hx]
      exact ⟨fun h ↦ congrArg some (Except.error.inj h),
        fun h ↦ congrArg Except.error (Option.some.inj h)⟩
    | ok y =>
      have hnone : g x = none := by
        refine Option.eq_none_iff_forall_ne_some.2 fun e' he' ↦ ?_
        cases hx.symm.trans ((hg x e').2 he')
      rw [hnone, ← ih]
      cases xs.mapM f with
      | error e' => exact Iff.rfl
      | ok ys => exact ⟨nofun, nofun⟩

theorem exists_of_mem_of_forall₂ (h : List.Forall₂ R xs ys) {y : β} (hy : y ∈ ys) :
    ∃ x ∈ xs, R x y := by
  induction h with
  | nil => cases hy
  | cons hxy _ ih =>
    rcases List.mem_cons.1 hy with rfl | hy
    · exact ⟨_, List.mem_cons_self, hxy⟩
    · obtain ⟨x, hx, hxy⟩ := ih hy
      exact ⟨x, List.mem_cons_of_mem _ hx, hxy⟩

/-- Results are related among each other as their items are. -/
theorem pairwise_of_forall₂ {P : α → α → Prop} {Q : β → β → Prop} (h : List.Forall₂ R xs ys)
    (hxs : xs.Pairwise P) (hPQ : ∀ x ∈ xs, ∀ x' ∈ xs, ∀ y y', R x y → R x' y' → P x x' → Q y y') :
    ys.Pairwise Q := by
  induction h with
  | nil => exact .nil
  | @cons x y xs ys hxy hrest ih =>
    obtain ⟨hx, hxs⟩ := List.pairwise_cons.1 hxs
    refine .cons (fun y' hy' ↦ ?_) (ih hxs fun z hz z' hz' ↦ ?_)
    · obtain ⟨x', hx', hxy'⟩ := exists_of_mem_of_forall₂ hrest hy'
      exact hPQ x List.mem_cons_self x' (List.mem_cons_of_mem _ hx') y y' hxy hxy' (hx x' hx')
    · exact hPQ z (List.mem_cons_of_mem _ hz) z' (List.mem_cons_of_mem _ hz')

/-- There is at most one result exactly if no two items have one. -/
theorem length_filterMap_le_one_iff {f : α → Option β} : (xs.filterMap f).length ≤ 1 ↔
    xs.Pairwise fun x x' ↦ ¬ ((∃ y, f x = some y) ∧ ∃ y, f x' = some y) := by
  have hlength : ∀ ys : List β, ys.length ≤ 1 ↔ ys.Pairwise fun _ _ ↦ False
    | [] => by simp
    | [y] => by simp
    | y :: y' :: ys =>
      iff_of_false (by simp) fun h ↦ (List.pairwise_cons.1 h).1 y' List.mem_cons_self
  rw [hlength, List.pairwise_filterMap]
  refine List.Pairwise.iff fun x x' ↦ ?_
  constructor
  · rintro h ⟨⟨y, hy⟩, y', hy'⟩
    exact h y hy y' hy'
  · intro h y hy y' hy'
    exact h ⟨⟨y, hy⟩, y', hy'⟩

end Lists

/-! ## Exact conditions

That a function gives a result under a condition, that it gives one under no other, and what is true
of the result are three statements that are proved along the same branches.  `SucceedsIff` keeps
them together: each branch either meets the condition and has a result, or does neither. -/

/-- A result is there exactly under a condition, and then has a property. -/
def SucceedsIff {ε α : Type} (p : Prop) (r : Except ε α) (P : α → Prop) : Prop :=
  ((∃ a, r = .ok a) ↔ p) ∧ ∀ a, r = .ok a → P a

namespace SucceedsIff

variable {ε α β : Type} {p : Prop} {r : Except ε α} {P : α → Prop}

theorem of_ok {a : α} (hp : p) (hr : r = .ok a) (hP : P a) : SucceedsIff p r P := by
  subst hr
  exact ⟨⟨fun _ ↦ hp, fun _ ↦ ⟨a, rfl⟩⟩, fun b hb ↦ by cases hb; exact hP⟩

theorem of_error {e : ε} (hp : ¬ p) (hr : r = .error e) : SucceedsIff p r P := by
  subst hr
  exact ⟨⟨fun ⟨_, ha⟩ ↦ (by cases ha), fun h ↦ absurd h hp⟩, fun a ha ↦ (by cases ha)⟩

theorem imp {Q : α → Prop} (h : SucceedsIff p r P) (hPQ : ∀ a, P a → Q a) : SucceedsIff p r Q :=
  ⟨h.1, fun a ha ↦ hPQ a (h.2 a ha)⟩

/-- Where the result is an error, the condition fails. -/
theorem not_of_error {e : ε} (h : SucceedsIff p r P) (hr : r = .error e) : ¬ p := by
  intro hp
  obtain ⟨a, ha⟩ := h.1.2 hp
  rw [hr] at ha
  cases ha

theorem map {f : α → β} {Q : β → Prop} (h : SucceedsIff p r P) (hf : ∀ a, P a → Q (f a)) :
    SucceedsIff p (f <$> r) Q := by
  cases r with
  | ok a => exact of_ok (h.1.1 ⟨a, rfl⟩) rfl (hf a (h.2 a rfl))
  | error e => exact of_error (h.not_of_error rfl) rfl

theorem of_map {f : α → β} {Q : β → Prop} (h : SucceedsIff p (r.map f) Q) :
    SucceedsIff p r fun a ↦ Q (f a) := by
  cases r with
  | ok a => exact of_ok (h.1.1 ⟨f a, rfl⟩) rfl (h.2 (f a) rfl)
  | error e => exact of_error (h.not_of_error rfl) rfl

end SucceedsIff

end Emend
