import Emend.Proofs.Assembly.Live
import Emend.Proofs.Workspace.History
import Mathlib.Data.List.Nodup

/-!
# Committing what was assembled

Between assembling edits and committing them, the registry may have moved on.  What comes of the
edits then depends on the snapshot that they are collected over, and not on the version that their
updates name: edits are collected for a document by its uri.

## What is here

* `Assembler.update_of_open`: the updates of an open document name the version that the editor
  showed.
* `Assembler.exists_forDocument_of_open`: over any snapshot with the content that the editor showed,
  whatever its version, the edits lead to the text after the revision.
* `Registry.version_eq_iff`: as long as no call brings the version of a document back, it tells
  whether the registry still holds the snapshot that it had.
* `Assembler.commit_of_assembled` puts these together, for a batch and any calls behind it.  Edits
  that were collected over the snapshot of the assembling state reach that and no other.  Edits that
  are collected over what the registry holds later are committed wherever they fit; that their
  updates name another version goes unnoticed, though it would tell
  (`Assembler.commit_of_assembled_for_older`).
-/

set_option autoImplicit false

namespace Emend

open Text

namespace Assembler

variable {a : Assembler} {batch : List FileRevision} {r : FileRevision} {before : SourceText}
  {v : Int32} {content after : Text}

/-! ## What a batch says of an open document

With one revision for each uri, whatever the batch says of a document comes from its revision.  For
a document that an editor has open that is one update or none, and it leads from the content that
the editor showed to the text after the revision. -/

section Open

variable (hdistinct : (batch.map FileRevision.uri).Nodup) (hr : r ∈ batch)
  (hlookup : a.registry.lookup? r.uri = some ⟨⟨r.uri, some v⟩, content⟩) (hopen : 0 < v)
  (hrename : r.isRename = false) (hbefore : r.before = some before) (hafter : r.after = some after)
  (hfaithful : a.differ.Faithful)

include hdistinct hr hlookup hopen hrename hbefore hafter hfaithful

/-- An update of an open document names the version that the editor showed. -/
theorem update_of_open {document : DocumentIdentity} {es : List TextEdit}
    (hmem : .update document es ∈ (a.assemble batch).edit.changes)
    (huri : document.uri = r.uri) : document.version = some v := by
  rw [assemble, changes_gather, List.flatMap_map] at hmem
  obtain ⟨r', hr', hchange⟩ := List.mem_flatMap.1 hmem
  obtain ⟨o, ho, hchange⟩ := mem_changes_settle.1 hchange
  obtain rfl : r' = r :=
    List.inj_on_of_nodup_map hdistinct hr' hr (uri_of_isUpdateOf ho hchange (decide_eq_true huri))
  obtain ⟨computed, hcomputed, -⟩ :=
    exists_computeEdits hfaithful ⟨⟨r'.uri, some v⟩, content⟩ after
  obtain rfl := Except.ok.inj
    ((outcome_of_open hlookup hopen hrename hbefore hafter hcomputed).symm.trans ho)
  obtain ⟨-, hchange⟩ : _ ∧ FileChange.update document es ∈ [_] := List.mem_ite_nil_left.1 hchange
  obtain ⟨rfl, -⟩ := FileChange.update.inj (List.mem_singleton.1 hchange)
  rfl

/-- The edits of an open document fit any snapshot with the content that the editor showed. -/
theorem exists_forDocument_of_open (hsize : byteLen content < UInt32.size) {s : Snapshot}
    (huri : s.uri = r.uri) (hcontent : s.content = content) :
    ∃ d, DocumentEdits.forDocument (a.assemble batch).edit s a.options.encoding = .ok d ∧
      d.document = s ∧ d.apply = .ok after := by
  obtain ⟨computed, hcomputed, -, hrewritten⟩ :=
    exists_computeEdits hfaithful ⟨⟨r.uri, some v⟩, content⟩ after
  have hedits := textEditsFor_of_open hdistinct hr hlookup hopen hrename hbefore hafter hcomputed
  have hrewritten' : s.content.RewrittenBy a.options.encoding computed.edits after :=
    hcontent ▸ hrewritten hsize
  obtain ⟨d, hd, happly⟩ := DocumentEdits.apply_of_rewrittenBy hrewritten'
  refine ⟨d, ?_, DocumentEdits.document_of_ofTextEdits hd, happly⟩
  rw [DocumentEdits.forDocument, huri, hedits]
  exact hd

end Open

/-! ## Committing

The step that commits edits compares the snapshot that they were collected over with the one that
the registry holds, and nothing else.  So it matters over which of the two snapshots the edits of
the batch have been collected. -/

/-- **What comes of edits that were assembled for an open document**, after any calls on the
registry.  Each update of the document names the version that the editor showed.

Collected over the snapshot that the editor showed, the edits are committed exactly if the registry
holds it still, as it does if no call was about the document; then it holds the text after the
revision, at the next version, and nothing else has changed.  Otherwise they are refused, and
nothing has changed at all.

Collected over the snapshot that the registry holds now, they are committed whenever they can be
applied to it, whatever version the updates name.  They lead to the text after the revision if the
content is still the same.  If no call brings the version back, then the version that an update
names is the one that is held exactly if the document has not changed. -/
theorem commit_of_assembled {registry : Registry}
    (hlookup : registry.lookup? r.uri = some ⟨⟨r.uri, some v⟩, content⟩) (hopen : 0 < v)
    (hdistinct : (batch.map FileRevision.uri).Nodup) (hr : r ∈ batch)
    (hrename : r.isRename = false) (hbefore : r.before = some before)
    (hafter : r.after = some after) (hsize : byteLen content < UInt32.size)
    (loader : Option Loader) (options : AssembleOptions) (calls : List RegistryCall) :
    let base : Snapshot := ⟨⟨r.uri, some v⟩, content⟩
    let edit := ((configured registry loader options).assemble batch).edit
    let later := registry.run calls
    (∀ document es, .update document es ∈ edit.changes → document.uri = r.uri →
      document.version = some v) ∧
    (∃ d, DocumentEdits.forDocument edit base options.encoding = .ok d ∧
      (later.lookup? r.uri = some base → later.applyEdits d
        = .ok (later.upsert r.uri after (some (Registry.nextVersion (some v))))) ∧
      (later.lookup? r.uri ≠ some base →
        (later.applyEdits d = .error (.notOpen r.uri) ∨
          ∃ found, later.applyEdits d = .error (.staleSnapshot r.uri (some v) found)) ∧
        (RegistryCall.applyEdits d).perform later = later)) ∧
    ((∀ c ∈ calls, r.uri ≠ c.uri) → later.lookup? r.uri = some base) ∧
    ∀ found, later.lookup? r.uri = some found →
      (∀ encoding d, DocumentEdits.forDocument edit found encoding = .ok d →
        later.applyEdits d = d.apply.map fun t ↦
          later.upsert r.uri t (some (Registry.nextVersion found.version))) ∧
      (found.content = content →
        ∃ d, DocumentEdits.forDocument edit found options.encoding = .ok d ∧
          later.applyEdits d
            = .ok (later.upsert r.uri after (some (Registry.nextVersion found.version)))) ∧
      ((∀ e ∈ registry.events calls, ∀ s ∈ e.snapshot?, s.uri = r.uri → s.version ≠ some v) →
        ∀ document es, .update document es ∈ edit.changes → document.uri = r.uri →
          (document.version = found.version ↔ found = base)) := by
  intro base edit later
  have hfaithful : (configured registry loader options).differ.Faithful :=
    options.algorithm.faithful_diff
  have hversion : ∀ document es, .update document es ∈ edit.changes → document.uri = r.uri →
      document.version = some v := fun _ _ hmem huri ↦
    update_of_open hdistinct hr hlookup hopen hrename hbefore hafter hfaithful hmem huri
  have hexists {s : Snapshot} (huri : s.uri = r.uri) (hcontent : s.content = content) :=
    exists_forDocument_of_open hdistinct hr hlookup hopen hrename hbefore hafter hfaithful hsize
      huri hcontent
  refine ⟨hversion, ?_, fun hcalls ↦ ?_, fun found hfound ↦ ⟨?_, fun hcontent ↦ ?_, ?_⟩⟩
  · obtain ⟨d, hd, hdocument, happly⟩ := hexists (s := base) rfl rfl
    refine ⟨d, hd, fun hheld ↦ ?_, fun hmoved ↦ ?_⟩
    · rw [Registry.applyEdits_of_lookup? hheld hdocument, happly]
      rfl
    · have hrefused : later.applyEdits d = .error (.notOpen r.uri) ∨
          ∃ found, later.applyEdits d = .error (.staleSnapshot r.uri (some v) found) := by
        have h := @Registry.exists_applyEdits_eq_error later d
        rw [hdocument] at h
        exact h hmoved
      refine ⟨hrefused, ?_⟩
      rcases hrefused with herror | ⟨_, herror⟩
      · exact RegistryCall.perform_of_error herror
      · exact RegistryCall.perform_of_error herror
  · exact (registry.lookup?_run_of_ne hcalls).trans hlookup
  · intro encoding d hd
    exact Registry.applyEdits_of_lookup? hfound (DocumentEdits.document_of_ofTextEdits hd)
  · obtain ⟨d, hd, hdocument, happly⟩ := hexists (Registry.uri_of_lookup? hfound) hcontent
    refine ⟨d, hd, ?_⟩
    rw [Registry.applyEdits_of_lookup? hfound hdocument, happly]
    rfl
  · intro hevents document es hmem huri
    rw [hversion document es hmem huri, eq_comm]
    exact @Registry.version_eq_iff registry calls base found hlookup hevents hfound

/-- A revision of an open document beside a new file.  The edits go in while other documents come
and go, are refused over a newer text, and lead to the text after the revision at a newer version of
the same text. -/
theorem commit_of_assembled_beside_new :
    let registry := Registry.empty.upsert "file:///a" ['x'] (some 1)
    let options : AssembleOptions := ⟨.patience, .utf32, .wholeDocument, none⟩
    let batch := [.updated "file:///a" (.inline ['w']) ['y'], .created "file:///b" ['z']]
    let edit := ((configured registry none options).assemble batch).edit
    let others := registry.run [.upsert "file:///c" ['c'] none, .remove "file:///c"]
    let newer := registry.run [.upsert "file:///a" ['z'] (some 2)]
    let saved := registry.run [.upsert "file:///a" ['x'] (some 2)]
    (∃ d, DocumentEdits.forDocument edit ⟨⟨"file:///a", some 1⟩, ['x']⟩ .utf32 = .ok d ∧
      others.applyEdits d = .ok (others.upsert "file:///a" ['y'] (some 2))) ∧
    (∃ d, DocumentEdits.forDocument edit ⟨⟨"file:///a", some 1⟩, ['x']⟩ .utf32 = .ok d ∧
      (RegistryCall.applyEdits d).perform newer = newer) ∧
    ∃ d, DocumentEdits.forDocument edit ⟨⟨"file:///a", some 2⟩, ['x']⟩ .utf32 = .ok d ∧
      saved.applyEdits d = .ok (saved.upsert "file:///a" ['y'] (some 3)) := by
  intro registry options batch edit others newer saved
  let r := FileRevision.updated "file:///a" (.inline ['w']) ['y']
  have hlookup : registry.lookup? r.uri = some ⟨⟨r.uri, some 1⟩, ['x']⟩ := rfl
  have hr : r ∈ batch := List.mem_cons_self
  have hcommit := commit_of_assembled hlookup (by decide) (by decide) hr rfl rfl rfl (by decide)
    none options
  refine ⟨?_, ?_, ?_⟩
  · obtain ⟨-, ⟨d, hd, hheld, -⟩, hkept, -⟩ :=
      hcommit [.upsert "file:///c" ['c'] none, .remove "file:///c"]
    exact ⟨d, hd, hheld (hkept (by decide))⟩
  · obtain ⟨-, ⟨d, hd, -, hmoved⟩, -⟩ := hcommit [.upsert "file:///a" ['z'] (some 2)]
    exact ⟨d, hd, (hmoved (by decide)).2⟩
  · obtain ⟨-, -, -, hfound⟩ := hcommit [.upsert "file:///a" ['x'] (some 2)]
    exact (hfound ⟨⟨"file:///a", some 2⟩, ['x']⟩ rfl).2.1 rfl

/-- Edits that are collected over a later snapshot reach that, though they were assembled for an
earlier version, and their update names it: here the edit of a whole document of one character
replaces the first character of the next one. -/
theorem commit_of_assembled_for_older :
    let registry := Registry.empty.upsert "file:///a" ['x'] (some 1)
    let a := configured registry none ⟨.patience, .utf32, .wholeDocument, none⟩
    let r := FileRevision.updated "file:///a" (.inline ['x']) ['y']
    let later := registry.run [.upsert "file:///a" ['z', 'w'] (some 2)]
    (a.assemble [r]).edit.changes
      = [.update ⟨"file:///a", some 1⟩ [a.wholeDocumentEdit ['x'] ['y']]] ∧
    ∃ snapshot d after, later.lookup? "file:///a" = some snapshot ∧
      snapshot ≠ ⟨⟨"file:///a", some 1⟩, ['x']⟩ ∧
      DocumentEdits.forDocument (a.assemble [r]).edit snapshot .utf32 = .ok d ∧ d.edits ≠ [] ∧
      later.applyEdits d = .ok after ∧
      after.lookup? "file:///a" = some ⟨⟨"file:///a", some 3⟩, ['y', 'w']⟩ := by
  intro registry a r later
  have hlookup : registry.lookup? r.uri = some ⟨⟨r.uri, some 1⟩, ['x']⟩ := rfl
  have hspans : a.differ ['x'] ['y'] ≠ [] := mt Diff.Algorithm.eq_of_diff_eq_nil (by decide)
  have hcomputed : a.computeEdits ⟨⟨r.uri, some 1⟩, ['x']⟩ ['y'] = .ok _ :=
    computeEdits_of_wholeDocument rfl hspans
  have houtcome := outcome_of_open hlookup (by decide) rfl rfl rfl hcomputed
  have hedits := textEditsFor_of_open (a := a) (by simp) (List.mem_singleton_self r) hlookup
    (by decide) rfl rfl rfl hcomputed
  let d : DocumentEdits := ⟨⟨⟨"file:///a", some 2⟩, ['z', 'w']⟩, false, [⟨0, 1, ['y']⟩], 2⟩
  have happly : d.apply = .ok ['y', 'w'] :=
    DocumentEdits.apply_of_writes ⟨[], ['z'], ['w'], ['w'], rfl, rfl, rfl, rfl, rfl⟩
  have hcommit := Registry.applyEdits_of_eq (r := later) (d := d) rfl
  rw [happly] at hcommit
  refine ⟨?_, d.document, d, _, rfl, by decide, ?_, List.cons_ne_nil _ _, hcommit,
    later.lookup?_upsert_self _ _ _⟩
  · rw [assemble, changes_gather, List.map_singleton, settle, houtcome]
    rfl
  · rw [DocumentEdits.forDocument]
    exact hedits ▸ rfl

end Assembler

end Emend
