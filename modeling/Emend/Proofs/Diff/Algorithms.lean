import Emend.Diff.Lines
import Emend.Proofs.Diff.Compaction
import Emend.Proofs.Diff.Spans
import Emend.Proofs.Text.Lines

/-!
# Every algorithm finds a line diff

However an algorithm searches, the steps of its script take the first list apart and make up the
second one (`Algorithm.leads_script`).  So the spans of its line diff lie within the two texts, are
apart from one another, leave out only lines that agree, and give the second text when they are
carried out (`Algorithm.diff_correct`).

What an algorithm searches for does not matter here.  The middle-snake diff may cut the lists
anywhere, the patience diff may take any pairs for landmarks, and the table diff may read any table:
the script leads from the one list to the other all the same, because each of them only ever keeps
tokens that it has compared.  Nothing is said about how short the script is.
-/

set_option autoImplicit false

namespace Emend.Diff

variable {α : Type} [DecidableEq α]

/-- A script leads from one list to another. -/
structure Script.Leads (a b : List α) (s : Script α) : Prop where
  source : s.source = a
  target : s.target = b

open Script

omit [DecidableEq α] in
/-- Two scripts, one behind the other. -/
theorem Script.Leads.append {a b a' b' : List α} {s s' : Script α} (h : s.Leads a b)
    (h' : s'.Leads a' b') : (s ++ s').Leads (a ++ a') (b ++ b') :=
  ⟨by rw [source_append, h.source, h'.source], by rw [target_append, h.target, h'.target]⟩

omit [DecidableEq α] in
theorem Script.leads_keep (ts : List α) : (keep ts).Leads ts ts := ⟨by simp, by simp⟩

omit [DecidableEq α] in
/-- All old tokens go, and all new ones come in. -/
theorem Script.leads_erase_write (a b : List α) : (erase a ++ write b).Leads a b :=
  ⟨by simp, by simp⟩

/-- A script between the middles of two lists, with the common ends kept. -/
theorem leads_core {a b : List α} {s : Script α} (h : s.Leads (core a b).old (core a b).new) :
    (keep (core a b).before ++ s ++ keep (core a b).after).Leads a b := by
  have := (leads_keep (core a b).before).append (h.append (leads_keep (core a b).after))
  rwa [core_old, core_new, ← List.append_assoc] at this

/-- The middle-snake diff: the scripts of two halves make up one of the whole. -/
theorem leads_myers (a b : List α) : (myers a b).Leads a b := by
  fun_induction myers a b with
  | case1 a b c inner ih1 ih2 =>
    refine leads_core ?_
    show inner.Leads c.old c.new
    simp only [inner]
    split
    · exact leads_erase_write c.old c.new
    · next hne =>
      split
      · next x y hcut =>
        have := (ih1 hne x y hcut).append (ih2 hne x y hcut)
        rwa [List.take_append_drop, List.take_append_drop] at this
      · exact ⟨by simp [Op.source], by simp [Op.target]⟩

/-- The stretches between landmarks are taken off one by one. -/
theorem leads_diffStretches (x y : Nat) (a b : List α) (landmarks : List (Nat × Nat)) :
    (diffStretches x y a b landmarks).Leads a b := by
  induction landmarks generalizing x y a b with
  | nil => exact leads_myers a b
  | cons landmark rest ih =>
    obtain ⟨i, j⟩ := landmark
    have := (leads_myers (a.take (i - x)) (b.take (j - y))).append
      (ih i j (a.drop (i - x)) (b.drop (j - y)))
    rwa [List.take_append_drop, List.take_append_drop] at this

/-- The patience diff. -/
theorem leads_patience (a b : List α) : (patience a b).Leads a b :=
  leads_diffStretches 0 0 a b (landmarks a b)

/-- A walk leads from the one list to the other, whatever the table says. -/
theorem leads_walk (t : LcsTable) (i j : Nat) (a b : List α) : (walk t i j a b).Leads a b := by
  fun_induction walk t i j a b with
  | case1 i j x xs ys ih =>
    exact ⟨by simp [Op.source, ih.source], by simp [Op.target, ih.target]⟩
  | case2 i j x xs y ys _ _ ih =>
    exact ⟨by simp [Op.source, ih.source], by simp [Op.target, ih.target]⟩
  | case3 i j x xs y ys _ _ ih =>
    exact ⟨by simp [Op.source, ih.source], by simp [Op.target, ih.target]⟩
  | case4 i j xs ys _ => exact leads_erase_write xs ys

/-- The table diff. -/
theorem leads_lcs (a b : List α) : (lcs a b).Leads a b := by
  rw [lcs]
  split
  · next hb => exact ⟨by simp [Op.source], by simp [Op.target, hb]⟩
  · split
    · next ha => exact ⟨by simp [Op.source, ha], by simp [Op.target]⟩
    · exact leads_core (leads_walk _ 0 0 _ _)

namespace Algorithm

theorem leads_rawScript (algorithm : Algorithm) (a b : List α) :
    (algorithm.rawScript a b).Leads a b := by
  cases algorithm with
  | myers => exact leads_myers a b
  | patience => exact leads_patience a b
  | lcs => exact leads_lcs a b

/-- **The script that an algorithm finds, compacted, leads from the one list to the other.** -/
theorem leads_script (algorithm : Algorithm) (a b : List α) :
    (algorithm.script a b).Leads a b :=
  have hraw := algorithm.leads_rawScript a b
  have hcompact := sameEnds_compact (algorithm.rawScript a b)
  ⟨hcompact.source.trans hraw.source, hcompact.target.trans hraw.target⟩

/-! ## Line diffs -/

/-- The spans of a line diff turn the tokens of the one text into those of the other. -/
theorem turns_diff (algorithm : Algorithm) (old new : Text) :
    Turns 0 0 (algorithm.diff old new) old.diffTokens new.diffTokens ∧
      Separated (algorithm.diff old new) := by
  have hscript := algorithm.leads_script old.diffTokens new.diffTokens
  have hspans := turns_spansOf (algorithm.script old.diffTokens new.diffTokens)
  rwa [hscript.source, hscript.target] at hspans

/-- **Every algorithm finds a line diff.**  The spans lie within the tokens of the two texts.  On
both sides, each one stops before the next one starts.  In front of, between and behind them the
texts have the same lines.  Replacing the old lines of each span by the new ones gives the new text,
byte for byte. -/
theorem diff_correct (algorithm : Algorithm) (old new : Text) :
    (∀ s ∈ algorithm.diff old new,
      (s.old.start ≤ s.old.stop ∧ s.old.stop ≤ old.diffTokens.length) ∧
        s.new.start ≤ s.new.stop ∧ s.new.stop ≤ new.diffTokens.length) ∧
    Separated (algorithm.diff old new) ∧
    AgreeOutside old.diffTokens new.diffTokens 0 0 (algorithm.diff old new) ∧
    (splice? old.diffTokens new.diffTokens (algorithm.diff old new)).map List.flatten
      = some new := by
  obtain ⟨hturns, hseparated⟩ := algorithm.turns_diff old new
  refine ⟨fun s hs ↦ ?_, hseparated, ?_, ?_⟩
  · obtain ⟨hold, hnew⟩ := hturns.bounds s hs
    rw [Nat.zero_add] at hold hnew
    exact ⟨hold.2, hnew.2⟩
  · have hagree := hturns.agree (p := []) (q := []) rfl rfl
    rwa [List.nil_append, List.nil_append] at hagree
  · rw [hturns.splice?, Option.map_some, Text.flatten_diffTokens]

end Algorithm

end Emend.Diff
