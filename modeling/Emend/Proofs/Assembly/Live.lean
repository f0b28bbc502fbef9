import Emend.Proofs.Assembly.Unchanged
import Emend.Proofs.Edit.Exchange
import Emend.Proofs.Workspace.Registry

/-!
# Open documents

Where an editor has a document open, an update addresses what the editor shows.

* `Assembler.outcome_of_open` says what becomes of a revision of an open document.  Neither the text
  before the revision nor the loader occurs in it.
* `Assembler.assemble_live` is the way of such a revision from the registry and back into it.

On that way the version is what ties the ends together.  The update carries the version that the
registry holds, the edits are collected over the same snapshot, and so the registry finds the
document unchanged when they are carried out.  Only at the largest version, which cannot be counted
up, does this say nothing.
-/

set_option autoImplicit false

namespace Emend

open Text

namespace Assembler

variable {a : Assembler} {r : FileRevision} {uri : String} {v : Int32} {content after : Text}

/-! ## What an editor shows -/

theorem source_of_open (h : a.registry.lookup? uri = some ⟨⟨uri, some v⟩, content⟩)
    (hopen : 0 < v) (before : SourceText) :
    a.source uri before = .live ⟨⟨uri, some v⟩, content⟩ v :=
  source_eq_live_iff.2 ⟨h, rfl, decide_eq_true hopen⟩

theorem resolve_of_open (h : a.registry.lookup? uri = some ⟨⟨uri, some v⟩, content⟩)
    (hopen : 0 < v) (before : SourceText) :
    a.resolve uri before = .ok (⟨⟨uri, some v⟩, content⟩, .liveSnapshot v) := by
  rw [resolve, source_of_open h hopen]

/-- **What becomes of a file that an editor has open.**  The text before does not matter, and
nothing is loaded. -/
theorem outcome_of_open {before : SourceText}
    (h : a.registry.lookup? r.uri = some ⟨⟨r.uri, some v⟩, content⟩) (hopen : 0 < v)
    (hrename : r.isRename = false) (hbefore : r.before = some before)
    (hafter : r.after = some after) {computed : FileEdits}
    (hcomputed : a.computeEdits ⟨⟨r.uri, some v⟩, content⟩ after = .ok computed) :
    a.outcome r = .ok ⟨
      if computed.edits.isEmpty then [] else [.update ⟨r.uri, some v⟩ computed.edits],
      some ⟨r.uri, .liveSnapshot v, computed.spans, computed.droppedSpans, computed.stats⟩⟩ := by
  rw [outcome_of_resolve (resolve_of_open h hopen before) hrename hbefore hafter, hcomputed]
  rfl

/-- All edits of an open document are those that lead from what the editor shows to the text after
its revision. -/
theorem textEditsFor_of_open {batch : List FileRevision} {before : SourceText}
    (hdistinct : (batch.map FileRevision.uri).Nodup) (hr : r ∈ batch)
    (h : a.registry.lookup? r.uri = some ⟨⟨r.uri, some v⟩, content⟩) (hopen : 0 < v)
    (hrename : r.isRename = false) (hbefore : r.before = some before)
    (hafter : r.after = some after) {computed : FileEdits}
    (hcomputed : a.computeEdits ⟨⟨r.uri, some v⟩, content⟩ after = .ok computed) :
    (a.assemble batch).edit.textEditsFor r.uri = computed.edits := by
  rw [textEditsFor_assemble hdistinct hr, settle, Settled.changes,
    outcome_of_open h hopen hrename hbefore hafter hcomputed]
  simp only [FileChange.editsOf_update, if_true]

/-- **A revision of an open document, from the registry and back into it.**  What is assembled does
not depend on the text before the revision, nor on the loader.  There is no problem, the report
names the version that the editor shows, and so does every update.  Unless that version is the
largest, the edits can be collected over what the registry holds, and committing them puts the text
after the revision there, at the next version, and changes no other document. -/
theorem assemble_live {registry : Registry}
    (hlookup : registry.lookup? r.sourceUri = some ⟨⟨r.sourceUri, some v⟩, content⟩)
    (hopen : 0 < v) (hrename : r.isRename = false) (hafter : r.after = some after)
    (hsize : byteLen content < UInt32.size) (options : AssembleOptions) :
    ∃ result : AssembledEdit,
      (∀ loader before, (configured registry loader options).assemble
        [{ r with before := some before }] = result) ∧
      result.problems = [] ∧
      (∃ report, result.reports = [report] ∧ report.uri = r.uri ∧
        report.source = .liveSnapshot v) ∧
      (∀ change ∈ result.edit.changes, ∃ es, change = .update ⟨r.uri, some v⟩ es) ∧
      (v ≠ Int32.maxValue → ∃ snapshot d registry', registry.lookup? r.uri = some snapshot ∧
        DocumentEdits.forDocument result.edit snapshot options.encoding = .ok d ∧
        registry.applyEdits d = .ok registry' ∧
        registry'.lookup? r.uri = some ⟨⟨r.uri, some (v + 1)⟩, after⟩ ∧
        ∀ other, other ≠ r.uri → registry'.lookup? other = registry.lookup? other) := by
  rw [r.sourceUri_of_not_isRename hrename] at hlookup
  obtain ⟨f, hf, -, hrewritten⟩ := exists_computeEdits (a := configured registry none options)
    options.algorithm.faithful_diff ⟨⟨r.uri, some v⟩, content⟩ after
  let changes : List FileChange :=
    if f.edits.isEmpty then [] else [.update ⟨r.uri, some v⟩ f.edits]
  let settled : Settled := ⟨r.uri, .ok ⟨changes,
    some ⟨r.uri, .liveSnapshot v, f.spans, f.droppedSpans, f.stats⟩⟩⟩
  have hresult : ∀ loader before, (configured registry loader options).assemble
      [{ r with before := some before }] = (configured registry none options).gather [settled] := by
    intro loader before
    have houtcome := outcome_of_open (a := configured registry loader options)
      (r := { r with before := some before }) hlookup hopen hrename rfl hafter hf
    rw [assemble, List.map_singleton, settle, houtcome]
    rfl
  refine ⟨_, hresult, rfl, ⟨_, rfl, rfl, rfl⟩, fun change hchange ↦ ?_, fun hmax ↦ ?_⟩
  · rw [changes_gather, List.flatMap_singleton] at hchange
    obtain ⟨-, hchange⟩ : _ ∧ change ∈ [_] := List.mem_ite_nil_left.1 hchange
    exact ⟨_, List.mem_singleton.1 hchange⟩
  · have hedits := textEditsFor_of_open (a := configured registry none options)
      (r := { r with before := some .deferred }) (by simp) (List.mem_singleton_self _) hlookup hopen
      hrename rfl hafter hf
    rw [hresult] at hedits
    obtain ⟨d, hd, happly⟩ := DocumentEdits.apply_of_rewrittenBy (hrewritten hsize)
    obtain ⟨hiff, hcommitted⟩ := registry.applyEdits_spec d
    rw [DocumentEdits.document_of_ofTextEdits hd] at hiff hcommitted
    obtain ⟨registry', hregistry⟩ := hiff.2 ⟨hlookup, after, happly⟩
    obtain ⟨t, ht, rfl⟩ := hcommitted registry' hregistry
    obtain rfl : t = after := Except.ok.inj (ht.symm.trans happly)
    refine ⟨_, d, _, hlookup, ?_, hregistry, ?_, fun other hne ↦
      registry.lookup?_upsert_of_ne hne _ _⟩
    · rw [DocumentEdits.forDocument]
      exact hedits ▸ hd
    · have hnext : Registry.nextVersion (some v) = v + 1 := if_neg hmax
      rw [← hnext]
      exact registry.lookup?_upsert_self _ _ _

/-- A buffer that is ahead of the text that the engine has read, beside a file that is not open. -/
theorem assemble_live_beside_other :
    let registry := (Registry.empty.upsert "file:///b" ['b'] none).upsert "file:///a"
      ['x', '\r', '\n'] (some 3)
    let r := FileRevision.updated "file:///a" .deferred ['y']
    ∃ d registry', DocumentEdits.forDocument
        ((configured registry none ⟨.myers, .utf16, .diff, none⟩).assemble [r]).edit
        ⟨⟨"file:///a", some 3⟩, ['x', '\r', '\n']⟩ .utf16 = .ok d ∧
      registry.applyEdits d = .ok registry' ∧
      registry'.lookup? "file:///a" = some ⟨⟨"file:///a", some 4⟩, ['y']⟩ ∧
      registry'.lookup? "file:///b" = some ⟨⟨"file:///b", none⟩, ['b']⟩ := by
  intro registry r
  have hlookup : registry.lookup? r.sourceUri = some ⟨⟨r.sourceUri, some 3⟩, ['x', '\r', '\n']⟩ :=
    rfl
  have hafter : r.after = some ['y'] := rfl
  obtain ⟨result, hresult, -, -, -, hcommit⟩ := assemble_live hlookup (by decide) rfl hafter
    (by decide) ⟨.myers, .utf16, .diff, none⟩
  obtain ⟨snapshot, d, registry', hsnapshot, hd, hregistry, hlive, hothers⟩ := hcommit (by decide)
  obtain rfl : result = (configured registry none _).assemble [r] := (hresult none .deferred).symm
  obtain rfl := Option.some.inj (hsnapshot.symm.trans hlookup)
  exact ⟨d, registry', hd, hregistry, hlive, hothers "file:///b" (by decide)⟩

end Assembler

end Emend
