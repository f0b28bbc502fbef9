import Emend.Diff.Script

/-!
# Compaction

A script can often be told in fewer steps: an insertion may slide over kept tokens that repeat it,
and on the way meet others of its kind.  Compaction takes each deletion, and then each insertion,
slides it towards the start as far as it goes, then towards the end as far as it goes, and joins it
with every step of its own kind that it meets.

A step in the middle of a script is held in a `Focus`, which has the steps before it in reverse.
Sliding keeps both ends of the script: an insertion moves past kept tokens only where these agree
with its own, and past deletions freely.

* `slideBack` and `slideOn` move the step of a focus as far as it goes in one direction.
* `passFrom` does both with each step of one kind, from the front of a script to its end.
* `compact` makes a pass over the deletions and then one over the insertions.
-/

set_option autoImplicit false

namespace Emend.Diff

variable {α : Type}

/-- One step of a script, with the steps before it, the nearest first, and those after it. -/
structure Focus (α : Type) where
  before : Script α
  this : Op α
  after : Script α

/-- The script around a step. -/
def Focus.script (f : Focus α) : Script α := f.before.reverse ++ f.this :: f.after

/-- The size of a script: its tokens and its steps. -/
def Script.size : Script α → Nat
  | [] => 0
  | op :: s => op.tokens.length + 1 + size s

/-- Adds kept tokens in front of a script, to its first step if that keeps tokens too. -/
def keepBefore (ts : List α) : Script α → Script α
  | .equal us :: s => .equal (ts ++ us) :: s
  | s => .equal ts :: s

/-- Adds kept tokens behind a reversed script, to its nearest step if that keeps tokens too. -/
def keepBehind (ts : List α) : Script α → Script α
  | .equal us :: s => .equal (us ++ ts) :: s
  | s => .equal ts :: s

/-! ## Kinds -/

/-- The two kinds of step that change something. -/
inductive ChangeKind where
  | deletion
  | insertion
  deriving DecidableEq, Repr

/-- Whether a step is of a kind. -/
def ChangeKind.holds : ChangeKind → Op α → Bool
  | deletion, .delete _ => true
  | insertion, .insert _ => true
  | _, _ => false

variable [DecidableEq α]

/-! ## Sliding

A deletion does not slide over kept tokens as an insertion does: it stops at the first step that
keeps anything.  It still passes insertions, and joins deletions.  The recursion ends because the
steps in front of the focus, or behind it, get smaller by at least a token or a step each time. -/

/-- Slides a step towards the start of its script.  Over kept tokens an insertion moves as far as
their ends agree; it passes steps of the other kind and absorbs steps of its own. -/
def slideBack (before : Script α) (this : Op α) (after : Script α) : Focus α :=
  match before with
  | [] => ⟨[], this, after⟩
  | .equal ps :: rest =>
    match this with
    | .insert ts =>
      let c := commonSuffix ps ts
      if c = 0 then
        if ps = [] then slideBack rest this after else ⟨before, this, after⟩
      else
        let moved := ps.drop (ps.length - c)
        let this := Op.insert (moved ++ ts.take (ts.length - c))
        if _h : c < ps.length then
          slideBack (.equal (ps.take (ps.length - c)) :: rest) this (keepBefore moved after)
        else slideBack rest this (keepBefore moved after)
    | _ => if ps = [] then slideBack rest this after else ⟨before, this, after⟩
  | .delete ps :: rest =>
    match this with
    | .delete ts => slideBack rest (.delete (ps ++ ts)) after
    | _ => slideBack rest this (.delete ps :: after)
  | .insert ps :: rest =>
    match this with
    | .insert ts => slideBack rest (.insert (ps ++ ts)) after
    | _ => slideBack rest this (.insert ps :: after)
termination_by before.size
decreasing_by
  all_goals simp only [Script.size, Op.tokens, List.length_take]; omega

/-- Slides a step towards the end of its script.  Over kept tokens an insertion moves as far as
their starts agree; it passes steps of the other kind and absorbs steps of its own. -/
def slideOn (before : Script α) (this : Op α) (after : Script α) : Focus α :=
  match after with
  | [] => ⟨before, this, []⟩
  | .equal ns :: rest =>
    match this with
    | .insert ts =>
      let c := commonPrefix ns ts
      if c = 0 then
        if ns = [] then slideOn before this rest else ⟨before, this, after⟩
      else
        let moved := ns.take c
        let this := Op.insert (ts.drop c ++ moved)
        if _h : c < ns.length then
          slideOn (keepBehind moved before) this (.equal (ns.drop c) :: rest)
        else slideOn (keepBehind moved before) this rest
    | _ => if ns = [] then slideOn before this rest else ⟨before, this, after⟩
  | .delete ns :: rest =>
    match this with
    | .delete ts => slideOn before (.delete (ts ++ ns)) rest
    | _ => slideOn (.delete ns :: before) this rest
  | .insert ns :: rest =>
    match this with
    | .insert ts => slideOn before (.insert (ts ++ ns)) rest
    | _ => slideOn (.insert ns :: before) this rest
termination_by after.size
decreasing_by
  all_goals simp only [Script.size, Op.tokens, List.length_drop]; omega

/-! ## Passes

A step that slides on may join steps of its kind from behind, so a pass does not simply go through
the script.  What decreases is the number of steps of the kind behind the focus: sliding back does
not add to it, sliding on does not either, and the step that has slid is no longer one of them. -/

section Passes

variable {kind : ChangeKind} {this : Op α} {before after : Script α}

omit [DecidableEq α] in
theorem countP_keepBefore (kind : ChangeKind) (ts : List α) (s : Script α) :
    (keepBefore ts s).countP kind.holds = s.countP kind.holds := by
  cases kind <;> fun_cases keepBefore ts s <;> simp [ChangeKind.holds]

omit [DecidableEq α] in
theorem ChangeKind.holds_iff : kind.holds this = true ↔
    kind = .deletion ∧ (∃ ts, this = .delete ts) ∨ kind = .insertion ∧ ∃ ts, this = .insert ts := by
  cases kind <;> cases this <;> simp [holds]

/-- Sliding back brings no step of the same kind behind the one that slides. -/
theorem countP_slideBack (h : kind.holds this = true) :
    (slideBack before this after).after.countP kind.holds = after.countP kind.holds := by
  fun_induction slideBack before this after <;>
    grind [ChangeKind.holds_iff, countP_keepBefore]

/-- Sliding on passes no step of the same kind, but joins it. -/
theorem countP_slideOn_le (kind : ChangeKind) (before : Script α) (this : Op α) (after : Script α) :
    (slideOn before this after).after.countP kind.holds ≤ after.countP kind.holds := by
  fun_induction slideOn before this after <;> grind [ChangeKind.holds_iff]

/-- Compacts the steps of one kind from some point of a script on, the steps before it in
reverse. -/
def passFrom (kind : ChangeKind) (before after : Script α) : Script α :=
  match after with
  | [] => before.reverse
  | op :: after =>
    if _h : kind.holds op then
      let back := slideBack before op after
      let on := slideOn back.before back.this back.after
      passFrom kind (on.this :: on.before) on.after
    else passFrom kind (op :: before) after
termination_by (after.countP kind.holds, after.length)
decreasing_by
  · have := countP_slideOn_le kind (slideBack before op after).before
      (slideBack before op after).this (slideBack before op after).after
    rw [countP_slideBack _h] at this
    refine Prod.Lex.left _ _ ?_
    rw [List.countP_cons_of_pos _h]
    omega
  · rw [List.countP_cons_of_neg _h]
    exact Prod.Lex.right _ (Nat.lt_succ_self _)

end Passes

/-- Compacts the steps of one kind. -/
def pass (kind : ChangeKind) (s : Script α) : Script α := passFrom kind [] s

/-- Compacts a script: first its deletions, then its insertions. -/
def compact (s : Script α) : Script α := pass .insertion (pass .deletion s)

end Emend.Diff
