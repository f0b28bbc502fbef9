/-!
# Steps that may be refused

A step reads and writes a state, and may be refused with an error.  The state after it stands beside
the error, so that what a step has written by the time it is refused is not lost from sight.  That a
refused step leaves everything as it was is then something to be shown of a step, and not a matter
of its type.

## What is here

* `Step.after` is the state after a step, refused or not; `Step.result` is the new state or the
  error, for those who ask for nothing more.
* `Step.check` refuses for an error, and `Step.onPart` makes a step on a part of the state.
* `Step.Atomic` says that a step leaves the state as it was where it is refused.  The rules follow
  the order in which a step is put together: whatever only reads may come first
  (`Atomic.after_reading`, `Atomic.after_check`), and whatever cannot be refused may come last
  (`Atomic.before_writing`).  So a step is atomic if all its checks come before the first thing that
  it writes.
-/

set_option autoImplicit false

namespace Emend

/-- A step on a state: it gives a value or is refused with an error, and leaves a state in both
cases. -/
abbrev Step (ε σ α : Type) : Type := EStateM ε σ α

namespace Step

variable {ε ε' σ τ α β : Type}

/-- The state after a step, refused or not. -/
def after (x : Step ε σ α) (s : σ) : σ :=
  match x.run s with
  | .ok _ s' => s'
  | .error _ s' => s'

/-- The state after a step that is not refused. -/
def result (x : Step ε σ α) (s : σ) : Except ε σ :=
  match x.run s with
  | .ok _ s' => .ok s'
  | .error e _ => .error e

/-- Refuses for an error, and does nothing else. -/
def check (r : Except ε α) : Step ε σ α :=
  match r with
  | .ok a => pure a
  | .error e => throw e

/-- Makes a step on a part of the state.  The part is put back whether the step is refused or
not. -/
def onPart (part : σ → τ) (put : σ → τ → σ) (x : Step ε τ α) : Step ε σ α := fun s ↦
  match x.run (part s) with
  | .ok a t => .ok a (put s t)
  | .error e t => .error e (put s t)

/-! ## Results -/

theorem result_get_bind (f : σ → Step ε σ α) (s : σ) :
    result (get >>= f) s = (f s).result s := rfl

theorem result_check_bind (r : Except ε α) (f : α → Step ε σ β) (s : σ) :
    result (check r >>= f) s = r >>= fun a ↦ (f a).result s := by
  cases r <;> rfl

theorem result_adaptExcept (f : ε → ε') (x : Step ε σ α) (s : σ) :
    result (EStateM.adaptExcept f x) s = (x.result s).mapError f := by
  simp only [result, EStateM.adaptExcept, EStateM.run]
  cases x s <;> rfl

/-- A step on a part of the state, with a change of the state behind it. -/
theorem result_onPart_bind (part : σ → τ) (put : σ → τ → σ) (x : Step ε τ α) (g : σ → σ) (s : σ) :
    result (onPart part put x >>= fun _ ↦ modify g) s
      = (x.result (part s)).map fun t ↦ g (put s t) := by
  simp only [result, onPart, EStateM.run, bind, EStateM.bind]
  cases x (part s) <;> rfl

theorem after_of_result {x : Step ε σ α} {s s' : σ} (h : x.result s = .ok s') : x.after s = s' := by
  rw [result] at h
  rw [after]
  cases hx : x.run s with
  | ok a t =>
    rw [hx] at h
    exact Except.ok.inj h
  | error e t =>
    rw [hx] at h
    cases h

/-! ## Steps that are made as a whole or not at all -/

/-- **A refused step leaves the state as it was.** -/
def Atomic (x : Step ε σ α) : Prop := ∀ s e s', x.run s = .error e s' → s' = s

namespace Atomic

variable {x : Step ε σ α}

theorem after_of_error (h : x.Atomic) {s : σ} {e : ε} (hx : x.result s = .error e) :
    x.after s = s := by
  rw [result] at hx
  rw [after]
  cases hrun : x.run s with
  | ok a s' =>
    rw [hrun] at hx
    cases hx
  | error e' s' => exact h s e' s' hrun

/-- A step that cannot be refused. -/
theorem of_run (h : ∀ s, ∃ a s', x.run s = .ok a s') : x.Atomic := by
  intro s e s' he
  obtain ⟨a, t, hok⟩ := h s
  cases hok.symm.trans he

theorem throw (e : ε) : Atomic (throw e : Step ε σ α) := by
  intro s e' s' h
  cases h
  rfl

/-- Whatever only reads may come first. -/
theorem after_reading (hx : ∀ s, x.after s = s) {f : α → Step ε σ β} (hf : ∀ a, (f a).Atomic) :
    Atomic (x >>= f) := by
  intro s e s' h
  have hs := hx s
  rw [after, EStateM.run] at hs
  simp only [EStateM.run, bind, EStateM.bind] at h
  cases hrun : x s with
  | ok a t =>
    rw [hrun] at h hs
    obtain rfl : t = s := hs
    exact hf a t e s' h
  | error e' t =>
    rw [hrun] at h hs
    cases h
    exact hs

theorem after_get {f : σ → Step ε σ β} (hf : ∀ s, (f s).Atomic) : Atomic (get >>= f) :=
  after_reading (fun _ ↦ rfl) hf

theorem after_check (r : Except ε α) {f : α → Step ε σ β} (hf : ∀ a, (f a).Atomic) :
    Atomic (check r >>= f) :=
  after_reading (fun _ ↦ by cases r <;> rfl) hf

/-- Whatever cannot be refused may come last. -/
theorem before_writing (h : x.Atomic) {f : α → Step ε σ β}
    (hf : ∀ a s, ∃ b s', (f a).run s = .ok b s') : Atomic (x >>= f) := by
  intro s e s' he
  simp only [EStateM.run, bind, EStateM.bind] at he
  cases hrun : x s with
  | ok a t =>
    rw [hrun] at he
    obtain ⟨b, t', hok⟩ := hf a t
    cases hok.symm.trans he
  | error e' t =>
    rw [hrun] at he
    cases he
    exact h s _ _ hrun

theorem onPart (h : x.Atomic) {part : τ → σ} {put : τ → σ → τ} (hput : ∀ s, put s (part s) = s) :
    Atomic (onPart part put x) := by
  intro s e s' he
  simp only [Step.onPart, EStateM.run] at he
  cases hrun : x (part s) with
  | ok a t =>
    rw [hrun] at he
    cases he
  | error e' t =>
    rw [hrun] at he
    cases he
    rw [h (part s) e t hrun, hput]

theorem adaptExcept (h : x.Atomic) (f : ε → ε') : Atomic (EStateM.adaptExcept f x) := by
  intro s e s' he
  simp only [EStateM.run, EStateM.adaptExcept] at he
  cases hrun : x s with
  | ok a t =>
    rw [hrun] at he
    cases he
  | error e' t =>
    rw [hrun] at he
    cases he
    exact h s _ _ hrun

end Atomic

end Step

end Emend
