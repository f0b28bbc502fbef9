import Emend.Edit.Accumulator

/-!
# The registry of documents

The registry holds the latest snapshot of each document that it has been told of, by uri.  It is the
authority on what an editor shows: edits are carried out on a document (`Registry.applyEdits`) only
if they were collected over the very snapshot that it holds.

* `Registry.upsert` and `Registry.remove` are told to it, and it believes them: a version may go
  back, and a document may be registered at a version that means that it is not open.
* `Registry.applyEditsStep` is the one call that may be refused.  It compares snapshots, and does
  not ask whether the document is open.

That a snapshot is kept under its own uri is part of the type.  Everything else that holds of a
registry depends on the calls that led to it, and is said of these
(`Emend.Proofs.Workspace.History`).
-/

set_option autoImplicit false

namespace Emend

/-- The latest snapshots, by uri.  Each is kept under the uri that it has itself. -/
structure Registry where
  documents : Dict Snapshot
  keyed : ∀ e ∈ documents.entries, e.2.uri = e.1
  deriving DecidableEq

namespace Registry

/-- The registry that knows no document. -/
def empty : Registry := ⟨.empty, nofun⟩

instance : Inhabited Registry := ⟨empty⟩

/-- The snapshot of a document. -/
def lookup? (r : Registry) (uri : String) : Option Snapshot := r.documents.get? uri

/-- A snapshot that is found has the uri that was looked up. -/
theorem uri_of_lookup? {r : Registry} {uri : String} {s : Snapshot} (h : r.lookup? uri = some s) :
    s.uri = uri := by
  obtain ⟨e, hfind, rfl⟩ := Option.map_eq_some_iff.1 h
  have hkey : e.1 = uri := by simpa using List.find?_some hfind
  exact (r.keyed e (List.mem_of_find?_eq_some hfind)).trans hkey

/-- The known uris, sorted.  The order is that of the characters' numbers, which is the order of the
bytes as well. -/
def uris (r : Registry) : List String := r.documents.keys.mergeSort

/-- The number of known documents. -/
def size (r : Registry) : Nat := r.documents.size

/-- Whether no document is known. -/
def isEmpty (r : Registry) : Bool := r.documents.isEmpty

/-- Registers a version of a document, in place of the one that may be known. -/
def upsert (r : Registry) (uri : String) (content : Text) (version : Option Int32) : Registry where
  documents := r.documents.insert uri ⟨⟨uri, version⟩, content⟩
  keyed e he := by
    rcases Entries.mem_insert he with rfl | he
    · rfl
    · exact r.keyed e he

@[simp] theorem lookup?_upsert_self (r : Registry) (uri : String) (content : Text)
    (version : Option Int32) :
    (r.upsert uri content version).lookup? uri = some ⟨⟨uri, version⟩, content⟩ :=
  Entries.get?_insert_self _ _ _

theorem lookup?_upsert_of_ne {uri other : String} (r : Registry) (h : other ≠ uri)
    (content : Text) (version : Option Int32) :
    (r.upsert uri content version).lookup? other = r.lookup? other :=
  Entries.get?_insert_of_ne h _

/-- Forgets a document. -/
def remove (r : Registry) (uri : String) : Registry where
  documents := r.documents.erase uri
  keyed e he := r.keyed e (List.mem_filter.1 he).1

@[simp] theorem lookup?_remove_self (r : Registry) (uri : String) :
    (r.remove uri).lookup? uri = none :=
  Entries.get?_erase_self _ _

theorem lookup?_remove_of_ne {uri other : String} (r : Registry) (h : other ≠ uri) :
    (r.remove uri).lookup? other = r.lookup? other :=
  Entries.get?_erase_of_ne h

/-- The version after a version.  The largest has none after it, and stays. -/
def nextVersion : Option Int32 → Int32
  | none => 1
  | some v => if v = Int32.maxValue then v else v + 1

/-! ## Carrying edits out

Edits are carried out by a step on the registry.  It looks the document up, compares what it finds
with the snapshot of the edits, and renders them, in this order; it writes when all that is done,
and answers with the snapshot that it has written. -/

/-- Carries edits out on the document that they were collected over.  That must be known, and its
version and content must be those of the edits. -/
def applyEditsStep (edits : DocumentEdits) : Step EditError Registry Snapshot := do
  let base := edits.document
  let r ← get
  match r.lookup? base.uri with
  | none => throw (.notOpen base.uri)
  | some current =>
    if current.version ≠ base.version ∨ current.content ≠ base.content then
      throw (.staleSnapshot base.uri base.version current.version)
    else do
      let text ← Step.check edits.apply
      let version := nextVersion current.version
      modify fun r ↦ r.upsert base.uri text (some version)
      return ⟨⟨base.uri, some version⟩, text⟩

/-- **Edits that are refused leave the registry as it was.** -/
theorem atomic_applyEditsStep (edits : DocumentEdits) : (applyEditsStep edits).Atomic := by
  refine .after_get fun r ↦ ?_
  split
  · exact .throw _
  · split
    · exact .throw _
    · exact .after_check _ fun t ↦ .of_run fun r ↦ ⟨_, _, rfl⟩

/-- The registry with edits carried out. -/
def applyEdits (r : Registry) (edits : DocumentEdits) : Except EditError Registry :=
  (applyEditsStep edits).result r

theorem applyEdits_eq (r : Registry) (edits : DocumentEdits) :
    r.applyEdits edits = match r.lookup? edits.document.uri with
      | none => .error (.notOpen edits.document.uri)
      | some current =>
        if current.version ≠ edits.document.version ∨
            current.content ≠ edits.document.content then
          .error (.staleSnapshot edits.document.uri edits.document.version current.version)
        else edits.apply.map fun t ↦
          r.upsert edits.document.uri t (some (nextVersion current.version)) := by
  rw [applyEdits, applyEditsStep, Step.result_get_bind]
  split
  · rfl
  · split
    · rfl
    · rw [Step.result_check_bind]
      rfl

end Registry

end Emend
