import Emend.Diff.Compaction
import Emend.Proofs.Diff.Script

/-!
# Compaction keeps both ends of a script

A compacted script leads from the same list to the same list (`sameEnds_compact`).  A pass does
nothing but slide, and sliding is a succession of small exchanges: two steps change places, two of
one kind become one, or an insertion moves past kept tokens that repeat it.  Each exchange is a
statement about a script of two or three steps, and `SameEnds.append` puts it into the middle of any
script.

* `sameEnds_delete_insert` and its mirror image are the exchanges of places,
  `sameEnds_delete_append` and `sameEnds_insert_append` those that join two steps.
* `sameEnds_insert_back` and `sameEnds_insert_on` move an insertion past tokens that repeat it.
* `sameEnds_slideBack` and `sameEnds_slideOn` go through the cases of the definitions and name, for
  each, the exchange that is made.

Where compaction ends up, and whether the result has fewer steps, plays no part in it.
-/

set_option autoImplicit false

namespace Emend.Diff

variable {α : Type}

/-- Two scripts lead from the same list to the same list. -/
structure SameEnds (s t : Script α) : Prop where
  source : s.source = t.source
  target : s.target = t.target

namespace SameEnds

variable {s t u : Script α}

theorem rfl : SameEnds s s := ⟨Eq.refl _, Eq.refl _⟩

theorem trans (h : SameEnds s t) (h' : SameEnds t u) : SameEnds s u :=
  ⟨h.source.trans h'.source, h.target.trans h'.target⟩

/-- What stands in front of two scripts and behind them makes no difference. -/
theorem append {p q : Script α} (h : SameEnds s t) : SameEnds (p ++ (s ++ q)) (p ++ (t ++ q)) := by
  constructor
  · simp only [Script.source_append, h.source]
  · simp only [Script.target_append, h.target]

end SameEnds

theorem sameEnds_keepBefore (ts : List α) (s : Script α) :
    SameEnds (keepBefore ts s) (.equal ts :: s) := by
  fun_cases keepBefore ts s with
  | case1 us s => constructor <;> simp [Op.source, Op.target]
  | case2 => exact .rfl

theorem sameEnds_keepBehind (ts : List α) (s : Script α) :
    SameEnds (keepBehind ts s).reverse (s.reverse ++ [.equal ts]) := by
  fun_cases keepBehind ts s with
  | case1 us s => constructor <;> simp [Op.source, Op.target]
  | case2 => rw [List.reverse_cons]; exact .rfl

/-! ## Scripts around a focus -/

/-- The script around a step. -/
theorem script_eq (before : Script α) (this : Op α) (after : Script α) :
    (Focus.mk before this after).script = before.reverse ++ ([this] ++ after) :=
  rfl

/-- The script around a step, with the step in front of it shown. -/
theorem script_cons_before (op : Op α) (before : Script α) (this : Op α) (after : Script α) :
    (Focus.mk (op :: before) this after).script = before.reverse ++ ([op, this] ++ after) := by
  simp [Focus.script]

/-- The script around a step, with the step behind it shown. -/
theorem script_cons_after (before : Script α) (this op : Op α) (after : Script α) :
    (Focus.mk before this (op :: after)).script = before.reverse ++ ([this, op] ++ after) :=
  rfl

/-- A deletion and an insertion can change places. -/
theorem sameEnds_delete_insert (ps ts : List α) :
    SameEnds [.delete ps, .insert ts] [.insert ts, .delete ps] := by
  constructor <;> simp [Op.source, Op.target]

theorem sameEnds_insert_delete (ps ts : List α) :
    SameEnds [.insert ps, .delete ts] [.delete ts, .insert ps] := by
  constructor <;> simp [Op.source, Op.target]

/-- Two steps of one kind can be joined. -/
theorem sameEnds_delete_append (ps ts : List α) :
    SameEnds [.delete (ps ++ ts)] [.delete ps, .delete ts] := by
  constructor <;> simp [Op.source, Op.target]

theorem sameEnds_insert_append (ps ts : List α) :
    SameEnds [.insert (ps ++ ts)] [.insert ps, .insert ts] := by
  constructor <;> simp [Op.source, Op.target]

/-- A step that keeps nothing can be left out in front of a step. -/
theorem sameEnds_equal_nil_cons (op : Op α) : SameEnds [op] [.equal [], op] := by
  constructor <;> simp [Op.source, Op.target]

/-- A step that keeps nothing can be left out behind a step. -/
theorem sameEnds_cons_equal_nil (op : Op α) : SameEnds [op] [op, .equal []] := by
  constructor <;> simp [Op.source, Op.target]

theorem holds_delete (kind : ChangeKind) (ts us : List α) :
    kind.holds (.delete ts) = kind.holds (.delete us) := by
  cases kind <;> exact rfl

theorem holds_insert (kind : ChangeKind) (ts us : List α) :
    kind.holds (.insert ts) = kind.holds (.insert us) := by
  cases kind <;> exact rfl

variable [DecidableEq α]

/-! ## Sliding

An insertion of `ts` behind kept tokens `ps` can move to the front of those at the end of `ps` that
agree with the end of `ts`.  What is inserted is then another list, turned by the number of tokens
passed, and it is still true that both ends stay.  The two lemmas about this are the only ones that
look into tokens; every other case exchanges whole steps. -/

/-- An insertion and the kept tokens in front of it that repeat its end can change places. -/
theorem sameEnds_insert_back (ps ts : List α) :
    SameEnds
      [.equal (ps.take (ps.length - commonSuffix ps ts)),
        .insert (ps.drop (ps.length - commonSuffix ps ts) ++
          ts.take (ts.length - commonSuffix ps ts)),
        .equal (ps.drop (ps.length - commonSuffix ps ts))]
      [.equal ps, .insert ts] := by
  constructor
  · simp [Op.source]
  · simp only [Script.target_cons, Op.target, Script.target_nil, List.append_nil]
    rw [List.append_assoc, ← List.append_assoc (List.take _ ps), List.take_append_drop,
      drop_commonSuffix, List.take_append_drop]

/-- An insertion and the kept tokens behind it that repeat its start can change places. -/
theorem sameEnds_insert_on (ns ts : List α) :
    SameEnds
      [.equal (ns.take (commonPrefix ns ts)),
        .insert (ts.drop (commonPrefix ns ts) ++ ns.take (commonPrefix ns ts)),
        .equal (ns.drop (commonPrefix ns ts))]
      [.insert ts, .equal ns] := by
  constructor
  · simp [Op.source]
  · simp only [Script.target_cons, Op.target, Script.target_nil, List.append_nil]
    rw [List.append_assoc, List.take_append_drop, ← List.append_assoc, take_commonPrefix,
      List.take_append_drop]

section Sliding

variable {kind : ChangeKind} {this : Op α} {before after : Script α}

/-- Sliding back keeps both ends, whatever change slides. -/
theorem sameEnds_slideBack (h : kind.holds this = true) :
    SameEnds (slideBack before this after).script (Focus.mk before this after).script := by
  fun_induction slideBack before this after with
  | case1 => exact .rfl
  | case2 after rest ts c hc ih =>
    refine (ih h).trans ?_
    rw [script_eq, script_cons_before]
    exact (sameEnds_equal_nil_cons _).append
  | case3 => exact .rfl
  | case4 after ps rest ts c hc moved this hlt ih =>
    refine (ih ((holds_insert kind _ ts).trans h)).trans ?_
    refine SameEnds.trans (t := rest.reverse ++
      ([.equal (ps.take (ps.length - c)), this, .equal moved] ++ after)) ?_ ?_
    · have := (sameEnds_keepBefore moved after).append (p := rest.reverse ++
        [.equal (ps.take (ps.length - c)), this]) (q := [])
      simpa [Focus.script] using this
    · rw [script_cons_before]
      exact (sameEnds_insert_back ps ts).append
  | case5 after ps rest ts c hc moved this hlt ih =>
    refine (ih ((holds_insert kind _ ts).trans h)).trans ?_
    have hall : ps.take (ps.length - c) = [] := by
      rw [List.take_eq_nil_iff]
      omega
    refine SameEnds.trans (t := rest.reverse ++
      ([.equal (ps.take (ps.length - c)), this, .equal moved] ++ after)) ?_ ?_
    · rw [hall]
      have hkeep := (sameEnds_keepBefore moved after).append (p := rest.reverse ++ [this]) (q := [])
      have hnil := (sameEnds_equal_nil_cons this).append (p := rest.reverse)
        (q := .equal moved :: after)
      refine SameEnds.trans ?_ hnil
      simpa [Focus.script] using hkeep
    · rw [script_cons_before]
      exact (sameEnds_insert_back ps ts).append
  | case6 this after rest hthis ih =>
    refine (ih h).trans ?_
    rw [script_eq, script_cons_before]
    exact (sameEnds_equal_nil_cons _).append
  | case7 => exact .rfl
  | case8 after ps rest ts ih =>
    refine (ih ((holds_delete kind _ ts).trans h)).trans ?_
    rw [script_eq, script_cons_before]
    exact (sameEnds_delete_append _ _).append
  | case9 this after ps rest hthis ih =>
    obtain ⟨-, ts, rfl⟩ | ⟨-, ts, rfl⟩ := ChangeKind.holds_iff.1 h
    · exact absurd rfl (hthis ts)
    · refine (ih h).trans ?_
      rw [script_cons_after, script_cons_before]
      exact (sameEnds_insert_delete _ _).append
  | case10 after ps rest ts ih =>
    refine (ih ((holds_insert kind _ ts).trans h)).trans ?_
    rw [script_eq, script_cons_before]
    exact (sameEnds_insert_append _ _).append
  | case11 this after ps rest hthis ih =>
    obtain ⟨-, ts, rfl⟩ | ⟨-, ts, rfl⟩ := ChangeKind.holds_iff.1 h
    · refine (ih h).trans ?_
      rw [script_cons_after, script_cons_before]
      exact (sameEnds_delete_insert _ _).append
    · exact absurd rfl (hthis ts)

/-- Sliding on keeps both ends, whatever change slides. -/
theorem sameEnds_slideOn (h : kind.holds this = true) :
    SameEnds (slideOn before this after).script (Focus.mk before this after).script := by
  fun_induction slideOn before this after with
  | case1 => exact .rfl
  | case2 before rest ts c hc ih =>
    refine (ih h).trans ?_
    rw [script_eq, script_cons_after]
    exact (sameEnds_cons_equal_nil _).append
  | case3 => exact .rfl
  | case4 before ns rest ts c hc moved this hlt ih =>
    refine (ih ((holds_insert kind _ ts).trans h)).trans ?_
    refine SameEnds.trans (t := before.reverse ++
      ([.equal moved, this, .equal (ns.drop c)] ++ rest)) ?_ ?_
    · have := (sameEnds_keepBehind moved before).append (p := [])
        (q := this :: .equal (ns.drop c) :: rest)
      simpa [Focus.script] using this
    · rw [script_cons_after]
      exact (sameEnds_insert_on ns ts).append
  | case5 before ns rest ts c hc moved this hlt ih =>
    refine (ih ((holds_insert kind _ ts).trans h)).trans ?_
    have hall : ns.drop c = [] := List.drop_eq_nil_of_le (Nat.le_of_not_lt hlt)
    refine SameEnds.trans (t := before.reverse ++
      ([.equal moved, this, .equal (ns.drop c)] ++ rest)) ?_ ?_
    · rw [hall]
      have hkeep := (sameEnds_keepBehind moved before).append (p := []) (q := this :: rest)
      have hnil := (sameEnds_cons_equal_nil this).append (p := before.reverse ++ [.equal moved])
        (q := rest)
      refine SameEnds.trans ?_ (by simpa using hnil)
      simpa [Focus.script] using hkeep
    · rw [script_cons_after]
      exact (sameEnds_insert_on ns ts).append
  | case6 before this rest hthis ih =>
    refine (ih h).trans ?_
    rw [script_eq, script_cons_after]
    exact (sameEnds_cons_equal_nil _).append
  | case7 => exact .rfl
  | case8 before ns rest ts ih =>
    refine (ih ((holds_delete kind _ ts).trans h)).trans ?_
    rw [script_eq, script_cons_after]
    exact (sameEnds_delete_append _ _).append
  | case9 before this ns rest hthis ih =>
    obtain ⟨-, ts, rfl⟩ | ⟨-, ts, rfl⟩ := ChangeKind.holds_iff.1 h
    · exact absurd rfl (hthis ts)
    · refine (ih h).trans ?_
      rw [script_cons_after, script_cons_before]
      exact (sameEnds_delete_insert _ _).append
  | case10 before ns rest ts ih =>
    refine (ih ((holds_insert kind _ ts).trans h)).trans ?_
    rw [script_eq, script_cons_after]
    exact (sameEnds_insert_append _ _).append
  | case11 before this ns rest hthis ih =>
    obtain ⟨-, ts, rfl⟩ | ⟨-, ts, rfl⟩ := ChangeKind.holds_iff.1 h
    · refine (ih h).trans ?_
      rw [script_cons_after, script_cons_before]
      exact (sameEnds_insert_delete _ _).append
    · exact absurd rfl (hthis ts)

/-- A change stays a change of its kind while it slides back. -/
theorem holds_slideBack (h : kind.holds this = true) :
    kind.holds (slideBack before this after).this = true := by
  fun_induction slideBack before this after <;> grind [ChangeKind.holds_iff]

end Sliding

/-! ## Passes

By induction on the pass itself, whose recursion is on the steps of its kind that are still behind
it.  At each of them the step slides back and then on, and both keep the ends of the script around
it. -/

/-- A pass keeps both ends. -/
theorem sameEnds_passFrom (kind : ChangeKind) (before after : Script α) :
    SameEnds (passFrom kind before after) (before.reverse ++ after) := by
  fun_induction passFrom kind before after with
  | case1 before =>
    rw [List.append_nil]
    exact .rfl
  | case2 before op after h back on ih =>
    have hback : SameEnds back.script (Focus.mk before op after).script := sameEnds_slideBack h
    have hon : SameEnds on.script back.script := sameEnds_slideOn (holds_slideBack h)
    rw [List.reverse_cons, List.append_assoc] at ih
    exact ih.trans (hon.trans hback)
  | case3 before op after h ih =>
    rw [List.reverse_cons, List.append_assoc] at ih
    exact ih

/-- **Compaction keeps both ends.** -/
theorem sameEnds_compact (s : Script α) : SameEnds (compact s) s :=
  (sameEnds_passFrom .insertion [] _).trans (sameEnds_passFrom .deletion [] s)

end Emend.Diff
