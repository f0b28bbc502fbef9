import Emend.Assembly.Batch
import Emend.Proofs.Assembly.Outcome
import Emend.Proofs.Change.Wire
import Mathlib.Data.List.Basic

/-!
# From a batch to the texts after it

What an assembled batch says of one document comes from the revision of that document alone, if no
two revisions have the same uri (`Assembler.textEditsFor_assemble`, `Assembler.problems_assemble`).
So a client that reads the workspace edit from JSON, and applies it to the text that the revision
starts from, gets the text after the revision (`Assembler.assemble_roundTrip`).

The theorem is where the parts of the library meet:

* the diff gives spans that turn the one text into the other (`Diff.Algorithm.faithful_diff`);
* `Assembler.outcome_correct` makes them into edits that rewrite the text that the revision starts
  from;
* `WorkspaceEdit.parse_toJson` reads back what was written;
* `DocumentEdits.apply_of_rewrittenBy` collects the edits over the text again, and applies them.

The client may know the document by another version, or by none.  Edits are found by the uri of a
document, so its version does not matter here.
-/

set_option autoImplicit false

namespace Emend

open Text

/-! ## One revision of many

All that a batch says is a list put together revision by revision.  A question about one document
goes through such a list and drops what belongs to others, so it comes down to one fact about lists:
where only one element contributes anything, all contributions together are its own. -/

/-- What each revision adds, where only those of one document add anything. -/
theorem FileRevision.flatMap_of_distinct {α : Type} {batch : List FileRevision} {r : FileRevision}
    (hdistinct : (batch.map uri).Nodup) (hr : r ∈ batch) {f : FileRevision → List α}
    (hf : ∀ r', r'.uri ≠ r.uri → f r' = []) : batch.flatMap f = f r := by
  obtain ⟨before, after, rfl⟩ := List.append_of_mem hr
  rw [List.map_append, List.map_cons, List.nodup_append] at hdistinct
  obtain ⟨-, hrest, hne⟩ := hdistinct
  have hbefore : before.flatMap f = [] := by
    refine List.flatMap_eq_nil_iff.2 fun r' hr' ↦ hf r' ?_
    exact hne r'.uri (List.mem_map_of_mem hr') r.uri List.mem_cons_self
  have hafter : after.flatMap f = [] := by
    refine List.flatMap_eq_nil_iff.2 fun r' hr' ↦ hf r' fun huri ↦ ?_
    exact (List.nodup_cons.1 hrest).1 (huri ▸ List.mem_map_of_mem hr')
  rw [List.flatMap_append, List.flatMap_cons, hbefore, hafter, List.nil_append, List.append_nil]

namespace Assembler

variable {a : Assembler} {batch : List FileRevision} {r : FileRevision}

/-- An annotation changes no edits. -/
theorem changes_gather (a : Assembler) (batch : List Settled) :
    (a.gather batch).edit.changes = batch.flatMap Settled.changes := by
  rw [gather]
  cases a.options.stamp with
  | none => rfl
  | some stamp =>
    obtain ⟨id, details⟩ := stamp
    simp only
    split <;> rfl

/-- A revision that fails changes nothing. -/
theorem mem_changes_settle {c : FileChange} :
    c ∈ (a.settle r).changes ↔ ∃ o, a.outcome r = .ok o ∧ c ∈ o.changes := by
  rw [settle, Settled.changes]
  cases a.outcome r <;> simp

/-- One that does not fail updates only its own document. -/
theorem editsOf_settle {uri : String} (hne : r.uri ≠ uri) :
    FileChange.editsOf uri (a.settle r).changes = [] := by
  refine editsOf_eq_nil fun c hc ↦ Bool.eq_false_iff.2 fun hupdate ↦ hne ?_
  obtain ⟨o, ho, hc⟩ := mem_changes_settle.1 hc
  exact uri_of_isUpdateOf ho hc hupdate

/-- **All edits of a document are those of its revision.** -/
theorem textEditsFor_assemble (hdistinct : (batch.map FileRevision.uri).Nodup) (hr : r ∈ batch) :
    (a.assemble batch).edit.textEditsFor r.uri
      = FileChange.editsOf r.uri (a.settle r).changes := by
  show FileChange.editsOf r.uri (a.gather (batch.map a.settle)).edit.changes = _
  rw [changes_gather, List.flatMap_map, FileChange.editsOf, List.filter_flatMap, List.flatMap_assoc]
  exact FileRevision.flatMap_of_distinct hdistinct hr fun r' hne ↦ editsOf_settle hne

theorem uri_of_problem? {p : FileProblem} (h : p ∈ (a.settle r).problem?) : p.uri = r.uri := by
  rw [settle, Settled.problem?] at h
  cases ho : a.outcome r with
  | ok o => simp [ho] at h
  | error e =>
    simp only [ho, Option.mem_some_iff] at h
    exact h ▸ rfl

/-- **All problems of a document are those of its revision.** -/
theorem problems_assemble (hdistinct : (batch.map FileRevision.uri).Nodup) (hr : r ∈ batch) :
    ((a.assemble batch).problems.filter fun p ↦ p.uri = r.uri) = (a.settle r).problem?.toList := by
  show ((batch.map a.settle).filterMap Settled.problem?).filter _ = _
  rw [List.filterMap_map, List.filterMap_eq_flatMap_toList, List.filter_flatMap]
  rw [FileRevision.flatMap_of_distinct hdistinct hr]
  · refine List.filter_eq_self.2 fun p hp ↦ decide_eq_true ?_
    exact uri_of_problem? (Option.mem_toList.1 hp)
  · intro r' hne
    refine List.filter_eq_nil_iff.2 fun p hp huri ↦ hne ?_
    rw [← uri_of_problem? (Option.mem_toList.1 hp)]
    exact of_decide_eq_true huri

/-- The assembler that has been given options, and perhaps a loader. -/
def configured (registry : Registry) (loader : Option Loader) (options : AssembleOptions) :
    Assembler :=
  { (new registry).withOptions options with loader }

/-- **A batch leads to the texts after it.**  For each revision with such a text, either there is
one problem with its document, which is why it is left out.  Or there is none, and a client that
reads the assembled edit from its JSON form, and applies what it says of the document to the text
that the revision starts from, gets the text after the revision.  There need not be an update for
that. -/
theorem assemble_roundTrip (registry : Registry) (loader : Option Loader)
    (options : AssembleOptions) {after : Text} (hdistinct : (batch.map FileRevision.uri).Nodup)
    (hr : r ∈ batch) (hafter : r.after = some after)
    (hsize : ∀ base, (configured registry loader options).base r = .ok base →
      byteLen base < UInt32.size) :
    let a := configured registry loader options
    (∃ e, ((a.assemble batch).problems.filter fun p ↦ p.uri = r.uri) = [⟨r.uri, e⟩] ∧
      a.LeavesOut r e) ∨
    ((a.assemble batch).problems.filter fun p ↦ p.uri = r.uri) = [] ∧
      ∃ base w, a.base r = .ok base ∧ WorkspaceEdit.parse (a.assemble batch).edit.toJson = .ok w ∧
        ∀ version, ∃ d,
          DocumentEdits.forDocument w ⟨⟨r.uri, version⟩, base⟩ options.encoding = .ok d ∧
            d.apply = .ok after := by
  intro a
  have ha : a.differ.Faithful := options.algorithm.faithful_diff
  rw [problems_assemble hdistinct hr]
  rcases outcome_correct ha hafter hsize with
    ⟨e, he, hleaves⟩ | ⟨o, base, ho, hbase, hrewritten⟩
  · refine .inl ⟨e, ?_, hleaves⟩
    rw [settle, he]
    rfl
  · refine .inr ⟨?_, base, _, hbase, WorkspaceEdit.parse_toJson _, fun version ↦ ?_⟩
    · rw [settle, ho]
      rfl
    · have hedits := @textEditsFor_assemble a batch r hdistinct hr
      rw [settle, ho] at hedits
      rw [DocumentEdits.forDocument, Snapshot.uri, hedits]
      exact DocumentEdits.apply_of_rewrittenBy hrewritten

/-- What an editor shows counts, and not the text that the engine has handed over. -/
theorem assemble_roundTrip_live :
    let registry := Registry.empty.upsert "file:///a" ['x', '\r', 'y'] (some 1)
    let options : AssembleOptions := ⟨.patience, .utf16, .diff, none⟩
    let a := configured registry none options
    let batch := [.updated "file:///a" (.inline ['z']) ['x', '\n', 'y'], .created "file:///b" ['z']]
    ∃ w, WorkspaceEdit.parse (a.assemble batch).edit.toJson = .ok w ∧
      ∃ d, DocumentEdits.forDocument w ⟨⟨"file:///a", some 1⟩, ['x', '\r', 'y']⟩ .utf16 = .ok d ∧
        d.apply = .ok ['x', '\n', 'y'] := by
  intro registry options a batch
  let r := FileRevision.updated "file:///a" (.inline ['z']) ['x', '\n', 'y']
  have hbase : a.base r = .ok ['x', '\r', 'y'] := by rfl
  have hsize : ∀ base, a.base r = .ok base → byteLen base < UInt32.size := by
    intro base h
    cases hbase.symm.trans h
    decide
  have hdistinct : (batch.map FileRevision.uri).Nodup := by decide
  rcases @assemble_roundTrip batch r registry none options ['x', '\n', 'y'] hdistinct
    List.mem_cons_self rfl hsize with ⟨e, -, hleaves⟩ | ⟨-, base, w, h, hw, happly⟩
  · cases hleaves with
    | noTarget hnew => exact absurd hnew (by decide)
    | noOrigin hrename => exact absurd hrename (by decide)
    | noText reason h => cases hbase.symm.trans h
  · cases hbase.symm.trans h
    exact ⟨w, hw, happly (some 1)⟩

end Assembler

end Emend
