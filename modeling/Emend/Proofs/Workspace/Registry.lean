import Emend.Proofs.Result
import Emend.Workspace.Registry

/-!
# Calls on the registry

A registry changes by calls on it, each of which may change one document and leaves the others
alone.

* `Registry.applyEdits_spec` says when edits are committed, and what the registry holds then.  They
  are refused if it does not hold the snapshot that they were collected over
  (`Registry.exists_applyEdits_eq_error`).
* `RegistryCall` is a call, and `Registry.run` is the registry after a series of calls, some of
  which may be refused.  `Registry.lookup?_run_of_ne` says that a document stays as it is unless a
  call names it.

Committing edits is a step on the registry (`Registry.applyEditsStep`), which says what the registry
is after a refusal too.  `RegistryCall.perform` takes the registry that the step leaves, whatever
its answer is, and that a refusal leaves it as it was is a property of the step
(`Registry.atomic_applyEditsStep`).
-/

set_option autoImplicit false

namespace Emend

namespace Registry

variable {r : Registry} {uri : String}

/-! ## Committing edits

There are three ways for edits to be refused: the document is not there, another snapshot of it is,
or the edits cannot be applied.  A registry compares version and content; that this amounts to
comparing snapshots is because it holds a snapshot under the uri that the snapshot has. -/

/-- A registry that has a document at the version and with the content of a snapshot of it has that
snapshot. -/
theorem eq_of_lookup? {found base : Snapshot} (h : r.lookup? base.uri = some found)
    (hversion : found.version = base.version) (hcontent : found.content = base.content) :
    found = base := by
  obtain ⟨⟨uri, version⟩, content⟩ := found
  obtain ⟨⟨uri', version'⟩, content'⟩ := base
  obtain rfl : uri = uri' := uri_of_lookup? h
  obtain rfl : version = version' := hversion
  obtain rfl : content = content' := hcontent
  rfl

section Commit

variable {d : DocumentEdits}

theorem applyEdits_of_none (h : r.lookup? d.document.uri = none) :
    r.applyEdits d = .error (.notOpen d.document.uri) := by
  rw [applyEdits_eq, h]

theorem applyEdits_of_ne {found : Snapshot} (h : r.lookup? d.document.uri = some found)
    (hne : found ≠ d.document) : r.applyEdits d
      = .error (.staleSnapshot d.document.uri d.document.version found.version) := by
  have hstale : found.version ≠ d.document.version ∨ found.content ≠ d.document.content :=
    Decidable.not_and_iff_not_or_not.1 fun heq ↦ hne (eq_of_lookup? h heq.1 heq.2)
  rw [applyEdits_eq, h]
  exact if_pos hstale

theorem applyEdits_of_eq (h : r.lookup? d.document.uri = some d.document) :
    r.applyEdits d = d.apply.map fun t ↦
      r.upsert d.document.uri t (some (nextVersion d.document.version)) := by
  rw [applyEdits_eq, h]
  exact if_neg (by simp)

/-- Edits of the snapshot that is held are committed if they can be applied. -/
theorem applyEdits_of_lookup? {s : Snapshot} (h : r.lookup? uri = some s) (hd : d.document = s) :
    r.applyEdits d = d.apply.map fun t ↦ r.upsert uri t (some (nextVersion s.version)) := by
  subst hd
  obtain rfl := uri_of_lookup? h
  exact applyEdits_of_eq h

/-- Edits are refused if the registry does not hold the snapshot that they were collected over. -/
theorem exists_applyEdits_eq_error (h : r.lookup? d.document.uri ≠ some d.document) :
    r.applyEdits d = .error (.notOpen d.document.uri) ∨ ∃ found,
      r.applyEdits d = .error (.staleSnapshot d.document.uri d.document.version found) := by
  cases hlookup : r.lookup? d.document.uri with
  | none => exact .inl (applyEdits_of_none hlookup)
  | some found =>
    have hne : found ≠ d.document := fun heq ↦ h (hlookup.trans (congrArg some heq))
    exact .inr ⟨found.version, applyEdits_of_ne hlookup hne⟩

/-- **Edits are committed exactly if the registry holds the snapshot that they were collected over,
and they can be applied.**  Then it holds the edited text, at the next version. -/
theorem applyEdits_spec (r : Registry) (d : DocumentEdits) :
    SucceedsIff (r.lookup? d.document.uri = some d.document ∧ ∃ t, d.apply = .ok t)
      (r.applyEdits d) fun r' ↦ ∃ t, d.apply = .ok t ∧
        r' = r.upsert d.document.uri t (some (nextVersion d.document.version)) := by
  by_cases hlookup : r.lookup? d.document.uri = some d.document
  · have hcommit := applyEdits_of_eq hlookup
    cases happly : d.apply with
    | ok t =>
      rw [happly] at hcommit
      exact .of_ok ⟨hlookup, t, rfl⟩ hcommit ⟨t, rfl, rfl⟩
    | error e =>
      rw [happly] at hcommit
      refine .of_error ?_ hcommit
      rintro ⟨-, t, ht⟩
      cases ht
  · rcases exists_applyEdits_eq_error hlookup with herror | ⟨found, herror⟩
    · exact .of_error (fun h ↦ hlookup h.1) herror
    · exact .of_error (fun h ↦ hlookup h.1) herror

end Commit

end Registry

/-! ## Series of calls

A run goes on after a call that is refused, which leaves the registry as it was.  Whatever is to be
said of a run is said of one call first; what it does to other documents is nothing, in all four
cases. -/

/-- A call on the registry. -/
inductive RegistryCall where
  | lookup (uri : String)
  | upsert (uri : String) (content : Text) (version : Option Int32)
  | remove (uri : String)
  | applyEdits (edits : DocumentEdits)
  deriving DecidableEq, Repr

namespace RegistryCall

/-- The document that a call is about. -/
def uri : RegistryCall → String
  | lookup uri => uri
  | upsert uri _ _ => uri
  | remove uri => uri
  | applyEdits edits => edits.document.uri

/-- The registry after a call, refused or not. -/
def perform (r : Registry) : RegistryCall → Registry
  | lookup _ => r
  | upsert uri content version => r.upsert uri content version
  | remove uri => r.remove uri
  | applyEdits edits => (Registry.applyEditsStep edits).after r

/-- Edits that are refused leave the registry as it was. -/
theorem perform_of_error {r : Registry} {d : DocumentEdits} {e : EditError}
    (h : r.applyEdits d = .error e) : (applyEdits d).perform r = r :=
  (Registry.atomic_applyEditsStep d).after_of_error h

theorem perform_of_ok {r r' : Registry} {d : DocumentEdits} (h : r.applyEdits d = .ok r') :
    (applyEdits d).perform r = r' :=
  Step.after_of_result h

/-- **A call leaves all documents alone but the one that it is about.** -/
theorem lookup?_perform_of_ne {c : RegistryCall} {other : String} (r : Registry)
    (h : other ≠ c.uri) : (c.perform r).lookup? other = r.lookup? other := by
  cases c with
  | lookup uri => rfl
  | upsert uri content version => exact r.lookup?_upsert_of_ne h content version
  | remove uri => exact r.lookup?_remove_of_ne h
  | applyEdits edits =>
    cases hr : r.applyEdits edits with
    | ok r' =>
      obtain ⟨t, -, rfl⟩ := (r.applyEdits_spec edits).2 r' hr
      rw [perform_of_ok hr]
      exact r.lookup?_upsert_of_ne h t _
    | error e => rw [perform_of_error hr]

end RegistryCall

namespace Registry

/-- The registry after a series of calls. -/
def run (r : Registry) (calls : List RegistryCall) : Registry := calls.foldl RegistryCall.perform r

/-- **A document stays as it is while calls are about others.** -/
theorem lookup?_run_of_ne {calls : List RegistryCall} {uri : String} (r : Registry)
    (h : ∀ c ∈ calls, uri ≠ c.uri) : (r.run calls).lookup? uri = r.lookup? uri := by
  induction calls generalizing r with
  | nil => rfl
  | cons c calls ih =>
    obtain ⟨hc, hcalls⟩ := List.forall_mem_cons.1 h
    exact (ih (c.perform r) hcalls).trans (RegistryCall.lookup?_perform_of_ne r hc)

end Registry

end Emend
