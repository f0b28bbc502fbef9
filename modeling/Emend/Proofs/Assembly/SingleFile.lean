import Emend.Cli.Run
import Emend.Proofs.Assembly.Unchanged

/-!
# One document, alone or in a batch

The update of one document can be had without a batch, and the `diff` command makes a workspace edit
of that update on its own.  Both agree with the batch of this one revision, as long as no editor has
the document open:

* `Assembler.map_changes_outcome` says that the revision contributes the update, or fails as that
  does.
* `Assembler.singleFile_assemble` says what this means for the batch, and `Cli.diff_eq` what it
  means for the command.

Working out a single document does not look at the registry, and a batch does.  That is the one
difference between the two, and the hypothesis that the document is not open takes it away.  The
command has an assembler of its own, with an empty registry and no loader, so its options are all
that it can have in common with the batch; and they are enough.
-/

set_option autoImplicit false

namespace Emend

open Diff

namespace Assembler

variable {a : Assembler} {uri : String} {old new : Text} {change : Option FileChange}
  {e : EditError}

/-- With a faithful source of spans there is a result. -/
theorem exists_singleFile (ha : a.differ.Faithful) (uri : String) (old new : Text) :
    ∃ change, a.singleFile uri old new = .ok change := by
  obtain ⟨computed, hcomputed, -⟩ := exists_computeEdits ha (.unversioned uri old) new
  exact ⟨_, by rw [singleFile, hcomputed]; rfl⟩

section Closed

variable (hclosed : ∀ s, a.registry.lookup? uri = some s → s.isOpen = false)
include hclosed

/-- A text that is handed over is taken, for a document that no editor has open. -/
theorem source_of_closed (text : Text) : a.source uri (.inline text) = .supplied text := by
  cases hlookup : a.registry.lookup? uri with
  | none => simp [source, hlookup]
  | some s => cases hversion : s.version <;> simp [source, hlookup, hversion, hclosed s hlookup]

/-- **A revision contributes what is worked out for its document alone**, or fails as that does. -/
theorem map_changes_outcome (old new : Text) :
    (a.outcome (.updated uri (.inline old) new)).map FileOutcome.changes
      = (a.singleFile uri old new).map Option.toList := by
  have hresolve : a.resolve uri (.inline old) = .ok (.unversioned uri old, .supplied) := by
    rw [resolve, source_of_closed hclosed]
  rw [outcome_of_resolve hresolve rfl rfl rfl, singleFile]
  cases a.computeEdits (.unversioned uri old) new with
  | error e => rfl
  | ok computed =>
    obtain ⟨edits, _, _, _⟩ := computed
    cases edits <;> rfl

/-! ## A batch of one revision

Two things can be said of a document alone and not of a batch: that there is no update, and that
there is an error.  A batch has no changes then, and in the second case a problem.  So the three
results of the single file are told apart by the changes and the problems of the batch, and each
implication about them is an equivalence. -/

theorem exists_assemble_eq (h : a.singleFile uri old new = .ok change) :
    ∃ o, o.changes = change.toList ∧
      a.assemble [.updated uri (.inline old) new] = a.gather [⟨uri, .ok o⟩] := by
  have hmap := map_changes_outcome hclosed old new
  rw [h] at hmap
  obtain ⟨o, ho, hchanges⟩ := map_eq_ok_iff.1 hmap
  refine ⟨o, hchanges, ?_⟩
  rw [assemble, List.map_singleton, settle, ho]
  rfl

/-- The update is all there is in the batch. -/
theorem assemble_of_singleFile_eq_ok (h : a.singleFile uri old new = .ok change) :
    (a.assemble [.updated uri (.inline old) new]).edit.changes = change.toList ∧
      (a.assemble [.updated uri (.inline old) new]).problems = [] := by
  obtain ⟨o, hchanges, hbatch⟩ := exists_assemble_eq hclosed h
  rw [hbatch, changes_gather]
  exact ⟨(List.flatMap_singleton ..).trans hchanges, rfl⟩

/-- Without an update there is a problem instead. -/
theorem problems_of_singleFile_eq_error (h : a.singleFile uri old new = .error e) :
    (a.assemble [.updated uri (.inline old) new]).problems = [⟨uri, e⟩] := by
  have hmap := map_changes_outcome hclosed old new
  rw [h] at hmap
  rw [assemble, List.map_singleton, settle, error_of_map_eq_error hmap]
  rfl

/-- The update is annotated by the same rule, for a batch and for the command. -/
theorem diffEdit_of_singleFile_eq_ok (h : a.singleFile uri old new = .ok change) :
    Cli.diffEdit a uri old new = .ok (a.assemble [.updated uri (.inline old) new]).edit := by
  obtain ⟨o, hchanges, hbatch⟩ := exists_assemble_eq hclosed h
  have hflat : [(⟨uri, .ok o⟩ : Settled)].flatMap Settled.changes = change.toList :=
    (List.flatMap_singleton ..).trans hchanges
  rw [Cli.diffEdit, h, hbatch, gather, hflat]
  cases change <;> cases a.options.stamp <;> rfl

/-- The command of some options makes the workspace edit of their batch. -/
theorem diffEdit_eq (ha : a.differ = a.options.algorithm.diff) (old new : Text) :
    Cli.diffEdit (Cli.assembler a.options) uri old new
      = .ok (a.assemble [.updated uri (.inline old) new]).edit := by
  have hfaithful : a.differ.Faithful := ha ▸ a.options.algorithm.faithful_diff
  obtain ⟨change, hchange⟩ := exists_singleFile hfaithful uri old new
  rw [← diffEdit_of_singleFile_eq_ok hclosed hchange]
  -- Neither the registry nor the loader is looked at.
  obtain ⟨registry, loader, differ, options⟩ := a
  obtain rfl : differ = options.algorithm.diff := ha
  rfl

end Closed

/-- **One document is updated alone as it is in a batch**, if no editor has it open.  The batch of
the one revision has the update and no problem exactly if the update is worked out alone, nothing at
all exactly if there is none, and the problem exactly if there is an error.  With the spans of the
algorithm that the options name, the `diff` command makes the workspace edit of the batch, with its
annotation. -/
theorem singleFile_assemble (a : Assembler)
    (hclosed : ∀ s, a.registry.lookup? uri = some s → s.isOpen = false) (old new : Text) :
    let batch := a.assemble [.updated uri (.inline old) new]
    (∀ c, a.singleFile uri old new = .ok (some c) ↔
      batch.edit.changes = [c] ∧ batch.problems = []) ∧
    (a.singleFile uri old new = .ok none ↔ batch.edit.changes = [] ∧ batch.problems = []) ∧
    (∀ e, a.singleFile uri old new = .error e ↔ batch.problems = [⟨uri, e⟩]) ∧
    (a.differ = a.options.algorithm.diff →
      Cli.diffEdit (Cli.assembler a.options) uri old new = .ok batch.edit) := by
  intro batch
  cases h : a.singleFile uri old new with
  | ok change =>
    obtain ⟨hchanges, hproblems⟩ : batch.edit.changes = change.toList ∧ batch.problems = [] :=
      assemble_of_singleFile_eq_ok hclosed h
    refine ⟨fun c ↦ ?_, ?_, fun e ↦ ?_, fun ha ↦ diffEdit_eq hclosed ha old new⟩
    · rw [hchanges, hproblems]
      cases change <;> simp
    · rw [hchanges, hproblems]
      cases change <;> simp
    · rw [hproblems]
      exact ⟨nofun, nofun⟩
  | error e =>
    have hproblems : batch.problems = [⟨uri, e⟩] := problems_of_singleFile_eq_error hclosed h
    refine ⟨fun c ↦ ?_, ?_, fun e' ↦ ?_, fun ha ↦ diffEdit_eq hclosed ha old new⟩
    · simp [hproblems]
    · simp [hproblems]
    · simp [hproblems]

/-- Both ways say the same of a document whose buffer has been closed. -/
theorem singleFile_assemble_closed :
    let stamp := some ("rename", ⟨"Rename", none, none⟩)
    let registry := Registry.empty.upsert "file:///a" ['q'] (some 0)
    let a := configured registry none ⟨.patience, .utf16, .wholeDocument, stamp⟩
    let update := FileChange.update (.unversioned "file:///a")
      [⟨⟨⟨0, 0⟩, ⟨0, 1⟩⟩, ['y'], some "rename"⟩]
    (∀ s, registry.lookup? "file:///a" = some s → s.isOpen = false) ∧
      (a.assemble [.updated "file:///a" (.inline ['x']) ['y']]).edit.changes = [update] ∧
      Cli.diffEdit (Cli.assembler a.options) "file:///a" ['x'] ['y']
        = .ok (a.assemble [.updated "file:///a" (.inline ['x']) ['y']]).edit := by
  intro stamp registry a update
  have hclosed : ∀ s, registry.lookup? "file:///a" = some s → s.isOpen = false := by
    intro s hs
    cases hs
    rfl
  have hspans : Algorithm.patience.diff ['x'] ['y'] ≠ [] := fun h ↦
    absurd ((Algorithm.patience.diff_eq_nil_iff _ _).1 h).1 (by decide)
  have hupdate : a.singleFile "file:///a" ['x'] ['y'] = .ok (some update) := by
    rw [singleFile, computeEdits_of_wholeDocument rfl hspans]
    rfl
  obtain ⟨hsome, -, -, hdiff⟩ := singleFile_assemble a hclosed ['x'] ['y']
  exact ⟨hclosed, ((hsome update).1 hupdate).1, hdiff rfl⟩

end Assembler

namespace Cli

variable {m : Type → Type} [Monad m] [LawfulMonad m]

/-- **The `diff` command prints the batch of one revision**, from the text in one file to that in
the other. -/
theorem diff_eq (fs : FileSystem m) (options : AssembleOptions) (uri : Option String)
    (wholeDocument : Bool) (before after : Text) :
    diff fs options uri wholeDocument before after = do
      let old ← fs.read before
      let new ← fs.read after
      let uri ← match uri with
        | some uri => pure uri
        | none => fileUri fs before
      let options := if wholeDocument then { options with mode := .wholeDocument } else options
      return .printed ((assembler options).assemble
        [.updated uri (.inline old) new]).edit.toJson [] := by
  have hprinted : ∀ (options : AssembleOptions) (uri : String) (old new : Text),
      (do let edit ← (diffEdit (assembler options) uri old new).mapError ofEditError
          return .printed edit.toJson [] : ExceptT ErrorChain m Ending)
        = return .printed ((assembler options).assemble
            [.updated uri (.inline old) new]).edit.toJson [] := by
    intro options uri old new
    have hedit : diffEdit (assembler options) uri old new
        = .ok ((assembler options).assemble [.updated uri (.inline old) new]).edit :=
      Assembler.diffEdit_eq (a := assembler options) nofun rfl old new
    rw [hedit]
    exact pure_bind _ _
  rw [diff]
  refine congrArg _ (funext fun old ↦ congrArg _ (funext fun new ↦ ?_))
  cases uri <;> simp only [pure_bind, hprinted]

end Cli

end Emend
