import Emend.Proofs.Diff.Algorithms

/-!
# What a diff changes

A line diff of two texts is empty exactly if the texts are the same, and each of its spans changes
something.  Both come from the script that an algorithm finds:

* `Script.Busy` says that no step of a script deletes or inserts nothing.  What an algorithm finds
  is busy, compaction keeps it so, and then no span is empty.
* `Script.Still` says that a script changes nothing at all.  What an algorithm finds between a list
  and itself is still, compaction leaves it alone, and it has no spans.

Neither follows from the script leading from the one list to the other: a script may delete a token
and insert it again, or insert nothing.  So each algorithm has to be looked at, and each of the two
properties is followed through the same three stages, from the algorithm through compaction and
merging to the spans.

There is one exception.  Against an empty list the table diff answers with one deletion, whatever
there is to delete, so between two empty texts it finds one empty span (`diff_lcs_nil_nil`).
`Algorithm.diff_eq_nil_iff` and `Algorithm.exists_kind_eq_empty_iff` say that there is no other.
-/

set_option autoImplicit false

namespace Emend.Diff

variable {α : Type}

/-! ## Steps that change something -/

/-- A step that deletes nothing or inserts nothing. -/
def Op.Idle : Op α → Prop
  | equal _ => False
  | delete ts => ts = []
  | insert ts => ts = []

namespace Script

variable {op : Op α} {s s' : Script α}

/-- Each deletion has something to delete, and each insertion something to insert. -/
def Busy (s : Script α) : Prop := ∀ op ∈ s, ¬ op.Idle

theorem busy_cons : Busy (op :: s) ↔ ¬ op.Idle ∧ s.Busy := List.forall_mem_cons

theorem Busy.append (h : s.Busy) (h' : s'.Busy) : (s ++ s').Busy :=
  List.forall_mem_append.2 ⟨h, h'⟩

theorem busy_keep (ts : List α) : (keep ts).Busy := by
  cases ts <;> simp [keep, Busy, Op.Idle]

theorem busy_erase (ts : List α) : (erase ts).Busy := by
  cases ts <;> simp [erase, Busy, Op.Idle]

theorem busy_write (ts : List α) : (write ts).Busy := by
  cases ts <;> simp [write, Busy, Op.Idle]

/-- Every step keeps what it finds. -/
def Still (s : Script α) : Prop := ∀ op ∈ s, ∃ ts, op = .equal ts

theorem Still.append (h : s.Still) (h' : s'.Still) : (s ++ s').Still :=
  List.forall_mem_append.2 ⟨h, h'⟩

theorem still_keep (ts : List α) : (keep ts).Still := by
  cases ts <;> simp [keep, Still]

end Script

/-! ## Merged steps and spans -/

/-- A merged step that changes nothing into nothing. -/
def Run.Idle : Run α → Prop
  | kept _ => False
  | changed old new => old = [] ∧ new = []

theorem Run.not_idle_keep {rs : List (Run α)} (h : ∀ r ∈ rs, ¬ r.Idle) (ts : List α) :
    ∀ r ∈ Run.keep ts rs, ¬ r.Idle := by
  fun_cases Run.keep ts rs with
  | case1 us rs => exact List.forall_mem_cons.2 ⟨id, (List.forall_mem_cons.1 h).2⟩
  | case2 rs => exact List.forall_mem_cons.2 ⟨id, h⟩

theorem Run.not_idle_change {old new : List α} {rs : List (Run α)} (h : ∀ r ∈ rs, ¬ r.Idle)
    (hne : ¬ (changed old new).Idle) : ∀ r ∈ Run.change old new rs, ¬ r.Idle := by
  fun_cases Run.change old new rs with
  | case1 old' new' rs =>
    refine List.forall_mem_cons.2 ⟨fun hidle ↦ hne ?_, (List.forall_mem_cons.1 h).2⟩
    exact ⟨(List.append_eq_nil_iff.1 hidle.1).1, (List.append_eq_nil_iff.1 hidle.2).1⟩
  | case2 rs => exact List.forall_mem_cons.2 ⟨hne, h⟩

/-- What changes between two kept runs of a busy script is not nothing. -/
theorem Script.Busy.merge {s : Script α} (h : s.Busy) : ∀ r ∈ s.merge, ¬ r.Idle := by
  induction s with
  | nil => exact List.forall_mem_nil _
  | cons op s ih =>
    obtain ⟨hop, hs⟩ := busy_cons.1 h
    cases op with
    | equal ts => exact Run.not_idle_keep (ih hs) ts
    | delete ts => exact Run.not_idle_change (ih hs) fun hidle ↦ hop hidle.1
    | insert ts => exact Run.not_idle_change (ih hs) fun hidle ↦ hop hidle.2

/-- Merged steps of a script that changes nothing change nothing. -/
theorem Script.Still.merge {s : Script α} (h : s.Still) : ∀ r ∈ s.merge, ∃ ts, r = .kept ts := by
  induction s with
  | nil => exact List.forall_mem_nil _
  | cons op s ih =>
    obtain ⟨⟨ts, rfl⟩, hs⟩ := List.forall_mem_cons.1 h
    have hrest := ih hs
    rw [Script.merge]
    generalize Script.merge s = rs at hrest
    fun_cases Run.keep ts rs with
    | case1 us rs => exact List.forall_mem_cons.2 ⟨⟨_, rfl⟩, (List.forall_mem_cons.1 hrest).2⟩
    | case2 rs => exact List.forall_mem_cons.2 ⟨⟨_, rfl⟩, hrest⟩

theorem Span.kind_eq_empty_iff {s : Span} :
    s.kind = .empty ↔ s.old.stop ≤ s.old.start ∧ s.new.stop ≤ s.new.start := by
  have hempty (r : Interval) : r.isEmpty = true ↔ r.stop ≤ r.start := decide_eq_true_iff
  rw [kind, ← hempty, ← hempty]
  cases s.old.isEmpty <;> cases s.new.isEmpty <;> simp

/-- A change makes a span, or goes on with one, that is not empty. -/
theorem kind_ne_empty_of_mem_extendSpans {x y : Nat} {r : Run α} {found : List Span}
    (hr : 0 < r.source.length + r.target.length) (hfound : ∀ s ∈ found, s.kind ≠ .empty) :
    ∀ s ∈ extendSpans x y r found, s.kind ≠ .empty := by
  have hnew : Span.kind ⟨⟨x, x + r.source.length⟩, ⟨y, y + r.target.length⟩⟩ ≠ .empty := by
    rw [Ne, Span.kind_eq_empty_iff]
    simp only
    omega
  cases found with
  | nil => simpa [extendSpans] using hnew
  | cons last found =>
    obtain ⟨hlast, hfound⟩ := List.forall_mem_cons.1 hfound
    rw [extendSpans]
    split
    · next hstop =>
      refine List.forall_mem_cons.2 ⟨?_, hfound⟩
      rw [Ne, Span.kind_eq_empty_iff] at hlast ⊢
      simp only
      omega
    · exact List.forall_mem_cons.2 ⟨hnew, List.forall_mem_cons.2 ⟨hlast, hfound⟩⟩

/-- Reading spans off merged steps, from any point on, finds none that is empty. -/
theorem kind_ne_empty_of_mem_spansFrom {x y : Nat} {found : List Span} {rs : List (Run α)}
    (hrs : ∀ r ∈ rs, ¬ r.Idle) (hfound : ∀ s ∈ found, s.kind ≠ .empty) :
    ∀ s ∈ spansFrom x y found rs, s.kind ≠ .empty := by
  induction rs generalizing x y found with
  | nil =>
    intro s hs
    exact hfound s (List.mem_reverse.1 hs)
  | cons r rs ih =>
    obtain ⟨hr, hrest⟩ := List.forall_mem_cons.1 hrs
    cases r with
    | kept ts => exact ih hrest hfound
    | changed old new =>
      refine ih hrest (kind_ne_empty_of_mem_extendSpans ?_ hfound)
      rcases Classical.not_and_iff_not_or_not.1 hr with hold | hnew
      · exact Nat.add_pos_left (List.length_pos_iff.2 hold) _
      · exact Nat.add_pos_right _ (List.length_pos_iff.2 hnew)

/-- **No span of a busy script is empty.** -/
theorem Script.Busy.kind_ne_empty {s : Script α} (h : s.Busy) :
    ∀ span ∈ spansOf s, span.kind ≠ .empty :=
  kind_ne_empty_of_mem_spansFrom h.merge (List.forall_mem_nil _)

theorem spansFrom_of_kept {x y : Nat} {found : List Span} {rs : List (Run α)}
    (h : ∀ r ∈ rs, ∃ ts, r = .kept ts) : spansFrom x y found rs = found.reverse := by
  induction rs generalizing x y with
  | nil => rfl
  | cons r rs ih =>
    obtain ⟨⟨ts, rfl⟩, hrs⟩ := List.forall_mem_cons.1 h
    exact ih hrs

/-- **A script that changes nothing has no spans.** -/
theorem Script.Still.spansOf_eq_nil {s : Script α} (h : s.Still) : spansOf s = [] :=
  spansFrom_of_kept h.merge

/-! ## Compaction

A step that slides neither loses tokens nor leaves an idle step behind, so `Focus.Busy` is kept by
both directions, by induction along the definitions.  A still script has no step for a pass to begin
with. -/

theorem busy_keepBefore {ts : List α} {s : Script α} : (keepBefore ts s).Busy ↔ s.Busy := by
  fun_cases keepBefore ts s <;> simp [Script.Busy, Op.Idle]

theorem busy_keepBehind {ts : List α} {s : Script α} : (keepBehind ts s).Busy ↔ s.Busy := by
  fun_cases keepBehind ts s <;> simp [Script.Busy, Op.Idle]

/-- Neither the step of a focus nor one around it is idle. -/
structure Focus.Busy (f : Focus α) : Prop where
  before : Script.Busy f.before
  this : ¬ f.this.Idle
  after : Script.Busy f.after

variable [DecidableEq α]

/-- An insertion that slides back has as much to insert as before. -/
theorem not_idle_slidBack {ps ts : List α} (h : ¬ (Op.insert ts).Idle) :
    ¬ (Op.insert (ps.drop (ps.length - commonSuffix ps ts) ++
      ts.take (ts.length - commonSuffix ps ts))).Idle := by
  have hc := commonPrefix_le ps.reverse ts.reverse
  rw [List.length_reverse, List.length_reverse] at hc
  have hpos : 0 < ts.length := List.length_pos_iff.2 h
  intro hnil
  have hlen := congrArg List.length hnil
  simp only [List.length_append, List.length_drop, List.length_take, List.length_nil,
    commonSuffix] at hlen
  omega

/-- An insertion that slides on has as much to insert as before. -/
theorem not_idle_slidOn {ns ts : List α} (h : ¬ (Op.insert ts).Idle) :
    ¬ (Op.insert (ts.drop (commonPrefix ns ts) ++ ns.take (commonPrefix ns ts))).Idle := by
  have hc := commonPrefix_le ns ts
  have hpos : 0 < ts.length := List.length_pos_iff.2 h
  intro hnil
  have hlen := congrArg List.length hnil
  simp only [List.length_append, List.length_drop, List.length_take, List.length_nil] at hlen
  omega

/-- Sliding back leaves no step idle: what is absorbed adds to the step that slides. -/
theorem Focus.Busy.slideBack {before after : Script α} {this : Op α}
    (h : Focus.Busy ⟨before, this, after⟩) : (slideBack before this after).Busy := by
  obtain ⟨hbefore, hthis, hafter⟩ := h
  fun_induction Diff.slideBack before this after with
  | case1 => exact ⟨hbefore, hthis, hafter⟩
  | case2 after rest ts c hc ih => exact ih (Script.busy_cons.1 hbefore).2 hthis hafter
  | case3 => exact ⟨hbefore, hthis, hafter⟩
  | case4 after ps rest ts c hc moved this hlt ih =>
    exact ih (Script.busy_cons.2 ⟨id, (Script.busy_cons.1 hbefore).2⟩) (not_idle_slidBack hthis)
      (busy_keepBefore.2 hafter)
  | case5 after ps rest ts c hc moved this hlt ih =>
    exact ih (Script.busy_cons.1 hbefore).2 (not_idle_slidBack hthis) (busy_keepBefore.2 hafter)
  | case6 this after rest hinsert ih => exact ih (Script.busy_cons.1 hbefore).2 hthis hafter
  | case7 => exact ⟨hbefore, hthis, hafter⟩
  | case8 after ps rest ts ih =>
    exact ih (Script.busy_cons.1 hbefore).2 (fun hnil ↦ hthis (List.append_eq_nil_iff.1 hnil).2)
      hafter
  | case9 this after ps rest hdelete ih =>
    obtain ⟨hps, hrest⟩ := Script.busy_cons.1 hbefore
    exact ih hrest hthis (Script.busy_cons.2 ⟨hps, hafter⟩)
  | case10 after ps rest ts ih =>
    exact ih (Script.busy_cons.1 hbefore).2 (fun hnil ↦ hthis (List.append_eq_nil_iff.1 hnil).2)
      hafter
  | case11 this after ps rest hinsert ih =>
    obtain ⟨hps, hrest⟩ := Script.busy_cons.1 hbefore
    exact ih hrest hthis (Script.busy_cons.2 ⟨hps, hafter⟩)

/-- Sliding on leaves no step idle. -/
theorem Focus.Busy.slideOn {before after : Script α} {this : Op α}
    (h : Focus.Busy ⟨before, this, after⟩) : (slideOn before this after).Busy := by
  obtain ⟨hbefore, hthis, hafter⟩ := h
  fun_induction Diff.slideOn before this after with
  | case1 => exact ⟨hbefore, hthis, hafter⟩
  | case2 before rest ts c hc ih => exact ih hbefore hthis (Script.busy_cons.1 hafter).2
  | case3 => exact ⟨hbefore, hthis, hafter⟩
  | case4 before ns rest ts c hc moved this hlt ih =>
    exact ih (busy_keepBehind.2 hbefore) (not_idle_slidOn hthis)
      (Script.busy_cons.2 ⟨id, (Script.busy_cons.1 hafter).2⟩)
  | case5 before ns rest ts c hc moved this hlt ih =>
    exact ih (busy_keepBehind.2 hbefore) (not_idle_slidOn hthis) (Script.busy_cons.1 hafter).2
  | case6 before this rest hinsert ih => exact ih hbefore hthis (Script.busy_cons.1 hafter).2
  | case7 => exact ⟨hbefore, hthis, hafter⟩
  | case8 before ns rest ts ih =>
    exact ih hbefore (fun hnil ↦ hthis (List.append_eq_nil_iff.1 hnil).1)
      (Script.busy_cons.1 hafter).2
  | case9 before this ns rest hdelete ih =>
    obtain ⟨hns, hrest⟩ := Script.busy_cons.1 hafter
    exact ih (Script.busy_cons.2 ⟨hns, hbefore⟩) hthis hrest
  | case10 before ns rest ts ih =>
    exact ih hbefore (fun hnil ↦ hthis (List.append_eq_nil_iff.1 hnil).1)
      (Script.busy_cons.1 hafter).2
  | case11 before this ns rest hinsert ih =>
    obtain ⟨hns, hrest⟩ := Script.busy_cons.1 hafter
    exact ih (Script.busy_cons.2 ⟨hns, hbefore⟩) hthis hrest

theorem Script.Busy.passFrom {before after : Script α} (kind : ChangeKind) (hbefore : before.Busy)
    (hafter : after.Busy) : (passFrom kind before after).Busy := by
  fun_induction Diff.passFrom kind before after with
  | case1 before => exact fun op hop ↦ hbefore op (List.mem_reverse.1 hop)
  | case2 before op after h back on ih =>
    obtain ⟨hop, hafter⟩ := busy_cons.1 hafter
    have hback : back.Busy := Focus.Busy.slideBack ⟨hbefore, hop, hafter⟩
    have hon : on.Busy := Focus.Busy.slideOn ⟨hback.before, hback.this, hback.after⟩
    exact ih (busy_cons.2 ⟨hon.this, hon.before⟩) hon.after
  | case3 before op after h ih =>
    obtain ⟨hop, hafter⟩ := busy_cons.1 hafter
    exact ih (busy_cons.2 ⟨hop, hbefore⟩) hafter

/-- **Compaction leaves no step idle.** -/
theorem Script.Busy.compact {s : Script α} (h : s.Busy) : (compact s).Busy :=
  .passFrom .insertion (List.forall_mem_nil _) (.passFrom .deletion (List.forall_mem_nil _) h)

theorem Script.Still.passFrom_eq {before after : Script α} (h : after.Still) (kind : ChangeKind) :
    passFrom kind before after = before.reverse ++ after := by
  fun_induction Diff.passFrom kind before after with
  | case1 before => rw [List.append_nil]
  | case2 before op after hkind back on ih =>
    obtain ⟨⟨ts, rfl⟩, -⟩ := List.forall_mem_cons.1 h
    cases kind <;> cases hkind
  | case3 before op after hkind ih =>
    rw [ih (List.forall_mem_cons.1 h).2, List.reverse_cons, List.append_assoc]
    rfl

/-- **Compaction finds nothing to do where nothing changes.** -/
theorem Script.Still.compact_eq {s : Script α} (h : s.Still) : compact s = s := by
  have hdeletion : pass .deletion s = s := h.passFrom_eq .deletion
  rw [compact, hdeletion]
  exact h.passFrom_eq .insertion

/-! ## Algorithms

The middle-snake and the patience diff build their scripts with `keep`, `erase` and `write`, which
leave a step out if it would do nothing.  The table diff has two branches of its own for empty
lists, and the first of them does not ask whether there is anything to delete.

Between a list and itself the three need different arguments: the middle-snake diff finds the whole
list as a common prefix, the patience diff finds each landmark at one index on both sides, and so
has only pairs of equal stretches to diff, and the table diff has nothing to walk through, since the
whole list is a common prefix there too. -/

open Script

/-- A list has nothing but its beginning in common with itself. -/
theorem core_self (a : List α) : core a a = ⟨a, [], [], []⟩ := by
  have h : commonPrefix a a = a.length := by
    induction a with
    | nil => rfl
    | cons x xs ih => rw [commonPrefix, if_pos rfl, ih, List.length_cons]
  simp [core, h]

theorem busy_myers (a b : List α) : (myers a b).Busy := by
  fun_induction myers a b with
  | case1 a b c inner ih1 ih2 =>
    refine ((busy_keep _).append ?_).append (busy_keep _)
    simp only [inner]
    split
    · exact (busy_erase _).append (busy_write _)
    · next hne =>
      split
      · next x y hcut => exact (ih1 hne x y hcut).append (ih2 hne x y hcut)
      · obtain ⟨hold, hnew⟩ := not_or.1 hne
        exact busy_cons.2 ⟨hold, busy_cons.2 ⟨hnew, List.forall_mem_nil _⟩⟩

theorem myers_self (a : List α) : myers a a = Script.keep a := by
  rw [myers]
  simp [core_self, Script.erase, Script.write, Script.keep]

theorem busy_diffStretches (x y : Nat) (a b : List α) (landmarks : List (Nat × Nat)) :
    (diffStretches x y a b landmarks).Busy := by
  induction landmarks generalizing x y a b with
  | nil => exact busy_myers a b
  | cons landmark rest ih => exact (busy_myers _ _).append (ih _ _ _ _)

theorem busy_walk (t : LcsTable) (i j : Nat) (a b : List α) : (walk t i j a b).Busy := by
  fun_induction walk t i j a b with
  | case1 i j x xs ys ih => exact busy_cons.2 ⟨id, ih⟩
  | case2 i j x xs y ys _ _ ih => exact busy_cons.2 ⟨List.cons_ne_nil _ _, ih⟩
  | case3 i j x xs y ys _ _ ih => exact busy_cons.2 ⟨List.cons_ne_nil _ _, ih⟩
  | case4 i j xs ys _ => exact (busy_erase xs).append (busy_write ys)

/-- The table diff deletes nothing only from an empty list, against another. -/
theorem busy_lcs {a b : List α} (h : ¬ (a = [] ∧ b = [])) : (lcs a b).Busy := by
  rw [lcs]
  split
  · next hb => exact busy_cons.2 ⟨fun ha ↦ h ⟨ha, hb⟩, List.forall_mem_nil _⟩
  · next hb =>
    split
    · exact busy_cons.2 ⟨hb, List.forall_mem_nil _⟩
    · exact ((busy_keep _).append (busy_walk _ _ _ _ _)).append (busy_keep _)

/-- A list with itself has each landmark at one index on both sides. -/
theorem eq_of_mem_landmarks_self {a : List α} : ∀ l ∈ landmarks a a, l.1 = l.2 := by
  rw [landmarks, myers_self]
  generalize (uniques a).map Prod.snd = is
  cases (uniques a).map Prod.fst with
  | nil => exact List.forall_mem_nil _
  | cons t ts =>
    intro l hl
    simp only [keep, matchedIndices, List.append_nil] at hl
    obtain ⟨n, hn, rfl⟩ := List.getElem_of_mem hl
    rw [List.getElem_zip]

theorem still_diffStretches {x : Nat} {a : List α} {landmarks : List (Nat × Nat)}
    (h : ∀ l ∈ landmarks, l.1 = l.2) : (diffStretches x x a a landmarks).Still := by
  induction landmarks generalizing x a with
  | nil =>
    rw [diffStretches, myers_self]
    exact still_keep a
  | cons landmark rest ih =>
    obtain ⟨i, j⟩ := landmark
    obtain ⟨hij, hrest⟩ := List.forall_mem_cons.1 h
    obtain rfl : i = j := hij
    rw [diffStretches, myers_self]
    exact (still_keep _).append (ih hrest)

theorem still_lcs_self {a : List α} (h : a ≠ []) : (lcs a a).Still := by
  rw [lcs, if_neg h, if_neg h, core_self]
  simp only [walk, erase, write, List.append_nil]
  exact (still_keep a).append (still_keep [])

namespace Algorithm

variable {algorithm : Algorithm}

theorem busy_rawScript {a b : List α} (h : ¬ (algorithm = lcs ∧ a = [] ∧ b = [])) :
    (algorithm.rawScript a b).Busy := by
  cases algorithm with
  | myers => exact busy_myers a b
  | patience => exact busy_diffStretches 0 0 a b (landmarks a b)
  | lcs => exact busy_lcs fun hempty ↦ h ⟨rfl, hempty⟩

theorem still_rawScript {a : List α} (h : ¬ (algorithm = lcs ∧ a = [])) :
    (algorithm.rawScript a a).Still := by
  cases algorithm with
  | myers =>
    rw [rawScript, myers_self]
    exact still_keep a
  | patience => exact still_diffStretches eq_of_mem_landmarks_self
  | lcs => exact still_lcs_self fun ha ↦ h ⟨rfl, ha⟩

/-! ## Line diffs

The other direction of the equivalence needs no algorithm: texts without a span between them are the
same, because splicing no spans into the old text gives the new one. -/

/-- Between two empty texts the table diff finds a span, which is empty. -/
theorem diff_lcs_nil_nil : lcs.diff [] [] = [⟨⟨0, 0⟩, ⟨0, 0⟩⟩] := by
  have hcompact : compact [.delete []] = ([.delete []] : Script Text) := by
    simp [compact, pass, passFrom, slideBack, slideOn, ChangeKind.holds]
  show spansOf (compact [.delete []]) = _
  rw [hcompact]
  rfl

theorem diff_self {t : Text} (h : ¬ (algorithm = lcs ∧ t = [])) : algorithm.diff t t = [] := by
  have hstill : (algorithm.rawScript t.diffTokens t.diffTokens).Still :=
    still_rawScript fun hempty ↦ h ⟨hempty.1, Text.diffTokens_eq_nil_iff.1 hempty.2⟩
  rw [Algorithm.diff, script, hstill.compact_eq]
  exact hstill.spansOf_eq_nil

/-- Texts without a span between them are the same. -/
theorem eq_of_diff_eq_nil {old new : Text} (h : algorithm.diff old new = []) : old = new := by
  have hturns := (algorithm.turns_diff old new).1
  rw [h] at hturns
  exact (Text.eq_of_diffTokens_eq hturns).symm

/-- **A line diff is empty exactly if the texts are the same**, but for the table diff of two empty
texts. -/
theorem diff_eq_nil_iff (algorithm : Algorithm) (old new : Text) :
    algorithm.diff old new = [] ↔ old = new ∧ ¬ (algorithm = lcs ∧ old = []) := by
  constructor
  · intro h
    refine ⟨eq_of_diff_eq_nil h, ?_⟩
    rintro ⟨rfl, rfl⟩
    obtain rfl : [] = new := eq_of_diff_eq_nil h
    rw [diff_lcs_nil_nil] at h
    cases h
  · rintro ⟨rfl, h⟩
    exact diff_self h

/-- **Each span changes something**, but for the one that the table diff finds between two empty
texts. -/
theorem exists_kind_eq_empty_iff (algorithm : Algorithm) (old new : Text) :
    (∃ s ∈ algorithm.diff old new, s.kind = .empty) ↔ algorithm = lcs ∧ old = [] ∧ new = [] := by
  constructor
  · rintro ⟨s, hs, hkind⟩
    refine Decidable.by_contra fun h ↦ ?_
    have hbusy : (algorithm.script old.diffTokens new.diffTokens).Busy := by
      refine (busy_rawScript fun hempty ↦ h ⟨hempty.1, ?_⟩).compact
      exact ⟨Text.diffTokens_eq_nil_iff.1 hempty.2.1, Text.diffTokens_eq_nil_iff.1 hempty.2.2⟩
    exact hbusy.kind_ne_empty s hs hkind
  · rintro ⟨rfl, rfl, rfl⟩
    exact ⟨_, by rw [diff_lcs_nil_nil]; exact List.mem_singleton_self _, rfl⟩

end Algorithm

end Emend.Diff
