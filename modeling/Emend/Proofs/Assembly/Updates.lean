import Mathlib
import Emend.Proofs.Assembly.Unchanged

/-!
# The update in what a revision contributes

A revision contributes at most one update, and contributes it exactly if it rewrites its document
(`Assembler.Rewrites`).  Nothing is put together when several revisions have one uri: each
contributes an update of its own, and all of them address the text before the batch.
`Assembler.updates_assemble` says when a batch has more than one update of a document, and that
where there is one, it holds all edits of the document.

So whether a batch is good is a condition on its revisions, and not on what is assembled: no two of
them rewrite one document.  It may still name a document twice, if all revisions of it but one
change nothing.  Where the condition fails, each update of the document was worked out for the text
before the batch, and carrying out all of them need not lead to any of the texts after it
(`Assembler.updates_assemble_same_uri`).
-/

set_option autoImplicit false

namespace Emend

open Text

/-- All edits of a document are those of its first update, if that is the only one. -/
theorem WorkspaceEdit.textEditsFor_of_length_le_one {w : WorkspaceEdit} {uri : String}
    (h : (w.changes.filter fun c ↦ c.isUpdateOf uri).length ≤ 1) :
    w.textEditsFor uri = (w.updateFor? uri).elim [] FileChange.edits := by
  rw [textEditsFor, updateFor?, ← List.head?_filter]
  cases hupdates : w.changes.filter fun c ↦ c.isUpdateOf uri with
  | nil => rfl
  | cons update rest =>
    rw [hupdates] at h
    obtain rfl : rest = [] := List.eq_nil_of_length_eq_zero (by simpa using h)
    exact List.flatMap_singleton ..

namespace Assembler

/-! ## Updates -/

theorem changes_assemble (a : Assembler) (batch : List FileRevision) :
    (a.assemble batch).edit.changes = batch.flatMap fun r ↦ (a.settle r).changes :=
  (a.changes_gather _).trans (List.flatMap_map ..)

theorem updateFor?_assemble_singleton (a : Assembler) (r : FileRevision) (uri : String) :
    (a.assemble [r]).edit.updateFor? uri
      = (a.settle r).changes.find? fun c ↦ c.isUpdateOf uri := by
  rw [WorkspaceEdit.updateFor?, changes_assemble, List.flatMap_singleton]

/-- Of what a revision contributes, the first update of a document is the only one. -/
theorem filter_isUpdateOf_settle (a : Assembler) (r : FileRevision) (uri : String) :
    ((a.settle r).changes.filter fun c ↦ c.isUpdateOf uri)
      = ((a.settle r).changes.find? fun c ↦ c.isUpdateOf uri).toList := by
  rw [← List.head?_filter, settle, Settled.changes]
  cases ho : a.outcome r with
  | error e => rfl
  | ok o =>
    obtain ⟨front, update?, hchanges, hfront, -⟩ := exists_changes_outcome ho
    have hnone : (front.filter fun c ↦ c.isUpdateOf uri) = [] :=
      List.filter_eq_nil_iff.2 fun c hc ↦ by simp [hfront c hc uri]
    simp only [hchanges, List.filter_append, hnone, List.nil_append]
    cases update? with
    | none => rfl
    | some update => by_cases h : update.isUpdateOf uri <;> simp [h]

/-- **Each update of a document is the one that its revision would contribute alone.** -/
theorem filter_isUpdateOf_assemble (a : Assembler) (batch : List FileRevision) (uri : String) :
    ((a.assemble batch).edit.changes.filter fun c ↦ c.isUpdateOf uri)
      = batch.filterMap fun r ↦ (a.assemble [r]).edit.updateFor? uri := by
  rw [changes_assemble, List.filter_flatMap, List.filterMap_eq_flatMap_toList]
  exact List.flatMap_congr fun r _ ↦
    (a.filter_isUpdateOf_settle r uri).trans (by rw [updateFor?_assemble_singleton])

/-! ## Revisions that rewrite a document

A revision that compares two texts contributes an update if there are edits between them, and this
is where the exception of the table diff comes in again: between two empty texts there is an edit if
the whole document is replaced.  The equivalence goes through `Fate`; of its four cases two
contribute no update at all. -/

/-- A revision changes what its document holds, or fills it. -/
inductive Rewrites (a : Assembler) (r : FileRevision) : Prop where
  /-- A new file has a place on disk. -/
  | fills (after : Text) (hbefore : r.before = none) (hafter : r.after = some after)
      (hfile : Uri.namesFile r.uri = true)
  /-- Two texts are compared, and differ.  Two empty texts count as different under the table diff
  if the whole document is replaced. -/
  | edits (snapshot : Snapshot) (after : Text) (h : a.Compares r snapshot after)
      (hdiffer : snapshot.content = after → a.options.algorithm = .lcs ∧
        a.options.mode = .wholeDocument ∧ snapshot.content = [])

/-- A revision contributes an update exactly if it rewrites its document. -/
theorem exists_isUpdateOf_iff (registry : Registry) (loader : Option Loader)
    (options : AssembleOptions) (r : FileRevision) (uri : String) :
    (∃ c ∈ ((configured registry loader options).settle r).changes, c.isUpdateOf uri = true) ↔
      (configured registry loader options).Rewrites r ∧ r.uri = uri := by
  let a := configured registry loader options
  constructor
  · rintro ⟨c, hc, hupdate⟩
    obtain ⟨o, ho, hc⟩ := mem_changes_settle.1 hc
    refine ⟨?_, uri_of_isUpdateOf ho hc hupdate⟩
    cases a.fate r with
    | fails e houtcome => cases (houtcome a.differ).symm.trans ho
    | ends o' hafter houtcome hnone =>
      obtain rfl : o' = o := Except.ok.inj (houtcome.symm.trans ho)
      cases (hnone c hc uri).symm.trans hupdate
    | fills after hbefore hafter hfile => exact .fills after hbefore hafter hfile
    | compares snapshot after h =>
      obtain ⟨computed, hcomputed, hnil⟩ :=
        exists_computeEdits_eq_nil_iff registry loader options snapshot after
      refine .edits snapshot after h fun hsame ↦ not_not.1 fun hcase ↦ ?_
      have hedits : computed.edits = [] := hnil.2 ⟨hsame, hcase⟩
      obtain ⟨renames, document, source, hrenames, -, houtcome⟩ := h.outcome
      rw [hcomputed] at houtcome
      obtain rfl := Except.ok.inj (houtcome.symm.trans ho)
      simp only [hedits, List.isEmpty_nil, if_true, List.append_nil] at hc
      cases (hrenames c hc uri).symm.trans hupdate
  · rintro ⟨hrewrites, rfl⟩
    cases hrewrites with
    | fills after hbefore hafter hfile =>
      refine ⟨_, mem_changes_settle.2 ⟨_, outcome_of_fills hbefore hafter hfile,
        List.mem_cons_of_mem _ List.mem_cons_self⟩, decide_eq_true rfl⟩
    | edits snapshot after h hdiffer =>
      obtain ⟨computed, hcomputed, hnil⟩ :=
        exists_computeEdits_eq_nil_iff registry loader options snapshot after
      obtain ⟨renames, document, source, -, hdocument, houtcome⟩ := h.outcome
      have hedits : computed.edits ≠ [] := fun hedits ↦
        (hnil.1 hedits).2 (hdiffer (hnil.1 hedits).1)
      rw [hcomputed] at houtcome
      refine ⟨.update document computed.edits, mem_changes_settle.2 ⟨_, houtcome, ?_⟩,
        decide_eq_true hdocument⟩
      simp [hedits]

/-- **A batch has at most one update of each document exactly if no two of its revisions rewrite
one document.**  Nothing is put together for two that do: the updates of a document are those that
its revisions would contribute alone, one for each revision that rewrites it.  Where there is at
most one, all edits of the document are in it. -/
theorem updates_assemble (registry : Registry) (loader : Option Loader) (options : AssembleOptions)
    (batch : List FileRevision) :
    let a := configured registry loader options
    let edit := (a.assemble batch).edit
    (∀ uri, (edit.changes.filter fun c ↦ c.isUpdateOf uri)
      = batch.filterMap fun r ↦ (a.assemble [r]).edit.updateFor? uri) ∧
    (∀ r uri, (∃ update, (a.assemble [r]).edit.updateFor? uri = some update) ↔
      a.Rewrites r ∧ r.uri = uri) ∧
    ((∀ uri, (edit.changes.filter fun c ↦ c.isUpdateOf uri).length ≤ 1) ↔
      batch.Pairwise fun r r' ↦ ¬ (a.Rewrites r ∧ a.Rewrites r' ∧ r.uri = r'.uri)) ∧
    ∀ uri, (edit.changes.filter fun c ↦ c.isUpdateOf uri).length ≤ 1 →
      edit.textEditsFor uri = (edit.updateFor? uri).elim [] FileChange.edits := by
  intro a edit
  have hfilter : ∀ uri, (edit.changes.filter fun c ↦ c.isUpdateOf uri)
      = batch.filterMap fun r ↦ (a.assemble [r]).edit.updateFor? uri :=
    a.filter_isUpdateOf_assemble batch
  have halone : ∀ r uri, (∃ update, (a.assemble [r]).edit.updateFor? uri = some update) ↔
      a.Rewrites r ∧ r.uri = uri := by
    intro r uri
    rw [updateFor?_assemble_singleton, ← Option.isSome_iff_exists, List.find?_isSome]
    exact exists_isUpdateOf_iff registry loader options r uri
  refine ⟨hfilter, halone, ?_, fun uri ↦ edit.textEditsFor_of_length_le_one⟩
  simp only [hfilter, length_filterMap_le_one_iff, halone]
  constructor
  · intro h
    refine List.pairwise_iff_forall_sublist.2 fun {r r'} hsublist ↦ ?_
    rintro ⟨hr, hr', hsame⟩
    exact List.pairwise_iff_forall_sublist.1 (h r.uri) hsublist ⟨⟨hr, rfl⟩, hr', hsame.symm⟩
  · intro h uri
    refine h.imp fun hnot hboth ↦ hnot ?_
    exact ⟨hboth.1.1, hboth.2.1, hboth.1.2.trans hboth.2.2.symm⟩

/-- Two revisions of one file each add the same line, and both updates address the text without
it. -/
theorem updates_assemble_same_uri :
    let a := configured .empty none ⟨.patience, .utf32, .diff, none⟩
    let r := FileRevision.updated "file:///a" (.inline ['x', '\n']) ['x', '\n', 'y', '\n']
    let update : FileChange := .update (.unversioned "file:///a")
      [⟨.point ⟨1, 0⟩, ['y', '\n'], none⟩]
    (a.assemble [r, r]).edit.changes = [update, update] ∧
    ¬ ((a.assemble [r, r]).edit.changes.filter fun c ↦ c.isUpdateOf "file:///a").length ≤ 1 ∧
    ∃ d, DocumentEdits.forDocument (a.assemble [r, r]).edit
        (.unversioned "file:///a" ['x', '\n']) .utf32 = .ok d ∧
      d.apply = .ok ['x', '\n', 'y', '\n', 'y', '\n'] := by
  intro a r update
  have hchanges : (a.assemble [r, r]).edit.changes = [update, update] := by cbv
  refine ⟨hchanges, by rw [hchanges]; decide, ?_⟩
  let e : OffsetEdit := ⟨2, 2, ['y', '\n']⟩
  refine ⟨{ DocumentEdits.new (.unversioned "file:///a" ['x', '\n']) false with edits := [e, e] },
    ?_, ?_⟩
  · rw [DocumentEdits.forDocument, WorkspaceEdit.textEditsFor, hchanges]
    cbv
  · cbv

end Assembler

end Emend
