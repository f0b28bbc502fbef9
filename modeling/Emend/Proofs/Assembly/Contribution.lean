import Emend.Proofs.Assembly.Emitted

/-!
# What a revision may contribute, and when it fails

The uris that the resource operation of a revision names are looked at before anything else is done
(`Assembler.outcome_eq`): a revision that names one without a place on disk fails, whatever the
registry and the loader hold.  What is left then cannot fail for that reason
(`Assembler.unchecked`), and `Assembler.Contributes` lists the changes that it can come to.

The program makes these checks inside the branches for creation, deletion and rename.
`FileRevision.named` takes them out in front: it lists the uris of each branch in the order in which
they are looked at, and the first among them without a place on disk is the one that the error
names.

`Assembler.outcome_contributes` puts together what a revision contributes and why it fails.
-/

set_option autoImplicit false

namespace Emend

/-- The uris that the resource operation of a revision names, in the order in which they are looked
at.  A file that is only updated has no such operation. -/
def FileRevision.named (r : FileRevision) : List String :=
  match r.before, r.after with
  | none, none => []
  | none, some _ => [r.uri]
  | some _, none => [r.sourceUri]
  | some _, some _ => if r.isRename then [r.sourceUri, r.uri] else []

/-- The first uri among them that has no place on disk. -/
def FileRevision.misplaced? (r : FileRevision) : Option String :=
  r.named.find? fun uri ↦ !Uri.namesFile uri

/-- The update that edits make.  Without edits there is none. -/
def FileChange.ofEdits (document : DocumentIdentity) (es : List TextEdit) : List FileChange :=
  if es.isEmpty then [] else [.update document es]

namespace Assembler

variable {a : Assembler} {r : FileRevision} {uri reason : String} {snapshot : Snapshot}
  {before : SourceText} {error : EditError} {o : FileOutcome}

/-! ## Places on disk come first

The four combinations of texts before and after are gone through once, in `outcome_eq`.  Everything
below is about `unchecked`, in which no uri is looked at any more.  That nothing is loaded before
the check is a statement of its own, because what is loaded is not part of an outcome. -/

/-- What a revision comes to once the uris that it names have been looked at. -/
def unchecked (a : Assembler) (r : FileRevision) : Except EditError FileOutcome :=
  match r.before, r.after with
  | none, none => .ok ⟨[], none⟩
  | none, some after => .ok ⟨a.fillChanges r.uri after, some (.ofResource r.uri .created)⟩
  | some _, none => .ok ⟨[.delete r.sourceUri], some (.ofResource r.uri .deleted)⟩
  | some before, some after => do
    let (snapshot, source) ← a.resolve r.sourceUri before
    let computed ← a.computeEdits snapshot after
    let renames := if r.isRename then [.rename r.sourceUri r.uri] else []
    let document := if r.isRename then .unversioned r.uri else snapshot.identity
    return ⟨renames ++ FileChange.ofEdits document computed.edits,
      some ⟨r.uri, source, computed.spans, computed.droppedSpans, computed.stats⟩⟩

theorem requireFile_eq (uri : String) : requireFile uri =
    match [uri].find? fun uri ↦ !Uri.namesFile uri with
    | some uri => .error (.identityMismatch uri)
    | none => .ok () := by
  rw [requireFile, List.find?_singleton]
  cases Uri.namesFile uri <;> rfl

theorem renameChanges_eq (hbefore : r.before ≠ none) (hafter : r.after ≠ none) :
    renameChanges r =
      match r.misplaced? with
      | some uri => .error (.identityMismatch uri)
      | none => .ok (if r.isRename then [.rename r.sourceUri r.uri] else []) := by
  obtain ⟨before, hbefore⟩ := Option.ne_none_iff_exists'.1 hbefore
  obtain ⟨after, hafter⟩ := Option.ne_none_iff_exists'.1 hafter
  rw [renameChanges, FileRevision.misplaced?, FileRevision.named, hbefore, hafter]
  cases r.isRename with
  | false => rfl
  | true =>
    simp only [if_true, List.find?_cons, requireFile]
    cases Uri.namesFile r.sourceUri <;> cases Uri.namesFile r.uri <;> rfl

/-- **The uris that a revision names are looked at before all else**, one after the other. -/
theorem outcome_eq (a : Assembler) (r : FileRevision) : a.outcome r =
    match r.misplaced? with
    | some uri => .error (.identityMismatch uri)
    | none => a.unchecked r := by
  rw [outcome, unchecked]
  cases hbefore : r.before with
  | none =>
    cases hafter : r.after with
    | none =>
      simp only [FileRevision.misplaced?, FileRevision.named, hbefore, hafter, List.find?_nil]
    | some after =>
      simp only [FileRevision.misplaced?, FileRevision.named, hbefore, hafter, createOutcome,
        requireFile_eq]
      split <;> rfl
  | some before =>
    cases hafter : r.after with
    | none =>
      simp only [FileRevision.misplaced?, FileRevision.named, hbefore, hafter, deleteOutcome,
        requireFile_eq]
      split <;> rfl
    | some after =>
      have hrenames := renameChanges_eq (hbefore ▸ Option.some_ne_none before)
        (hafter ▸ Option.some_ne_none after)
      simp only [updateOutcome, hrenames]
      split <;> rfl

/-- A revision that names a uri without a place on disk does not get as far as loading a text. -/
theorem loads?_of_misplaced? (a : Assembler) (h : r.misplaced? = some uri) : a.loads? r = none := by
  rw [loads?]
  split
  · next before after hbefore hafter =>
    have hrenames := renameChanges_eq (hbefore ▸ Option.some_ne_none before)
      (hafter ▸ Option.some_ne_none after)
    rw [h] at hrenames
    simp only [hrenames]
  · rfl

/-! ## Where the text before comes from -/

/-- An editor has the document open, at the version. -/
def Shows (a : Assembler) (uri : String) (v : Int32) : Prop :=
  ∃ snapshot, a.registry.lookup? uri = some snapshot ∧ snapshot.isOpen = true ∧
    snapshot.version = some v

theorem exists_source_of_shows {v : Int32} (h : a.Shows uri v) (before : SourceText) :
    ∃ snapshot, a.source uri before = .live snapshot v := by
  obtain ⟨snapshot, hlookup, hopen, hversion⟩ := h
  exact ⟨snapshot, source_eq_live_iff.2 ⟨hlookup, hversion, hopen⟩⟩

/-- The snapshot that an update addresses has the version that an editor shows, if one does. -/
theorem version_of_resolve {source : ContentSource} {v : Int32}
    (h : a.resolve uri before = .ok (snapshot, source)) :
    snapshot.version = some v ↔ a.Shows uri v := by
  have hclosed : (∀ s v, a.source uri before ≠ .live s v) → ¬ a.Shows uri v := by
    intro hne hshows
    obtain ⟨s, hs⟩ := exists_source_of_shows hshows before
    exact hne s v hs
  rw [resolve] at h
  split at h
  · next s v' hsource =>
    cases h
    obtain ⟨hlookup, hversion, hopen⟩ := source_eq_live_iff.1 hsource
    constructor
    · exact fun hv ↦ ⟨_, hlookup, hopen, hv⟩
    · rintro ⟨s', hlookup', -, hv⟩
      obtain rfl := Option.some.inj (hlookup.symm.trans hlookup')
      exact hv
  · next hsource =>
    cases h
    exact iff_of_false (Option.some_ne_none v).symm (hclosed fun s v ↦ by simp [hsource])
  · next hsource =>
    obtain ⟨text, -, htext⟩ := map_eq_ok_iff.1 h
    cases htext
    exact iff_of_false (Option.some_ne_none v).symm (hclosed fun s v ↦ by simp [hsource])

/-! ## Once the uris have been looked at

`Unavailable` collects the four conditions under which a text is missing; `unchecked_of_unavailable`
and `exists_of_unchecked_eq_error` are the two directions of the equivalence that comes of it.
`Contributes` has a constructor for each resource operation and one for an update, and each carries
the condition on the revision under which it is used, so that no two of them fit one revision. -/

/-- A revision with a text after it starts from a text that is to be loaded, and cannot be. -/
structure Unavailable (a : Assembler) (r : FileRevision) (reason : String) : Prop where
  deferred : r.before = some .deferred
  stays : r.after ≠ none
  closed : ∀ snapshot ∈ a.registry.lookup? r.sourceUri, snapshot.isOpen = false
  fails : a.LoadFails r.sourceUri reason

theorem unchecked_of_unavailable (h : a.Unavailable r reason) :
    a.unchecked r = .error (.sourceUnavailable r.sourceUri reason) := by
  obtain ⟨after, hafter⟩ := Option.ne_none_iff_exists'.1 h.stays
  have hresolve : a.resolve r.sourceUri .deferred
      = .error (.sourceUnavailable r.sourceUri reason) :=
    resolve_eq_error_iff.2 ⟨reason, rfl, rfl, h.closed, h.fails⟩
  rw [unchecked, h.deferred, hafter]
  simp only [hresolve]
  rfl

/-- Nothing else is wrong with a revision than the text before it, or the spans. -/
theorem exists_of_unchecked_eq_error (h : a.unchecked r = .error error) :
    (∃ reason, error = .sourceUnavailable r.sourceUri reason ∧ a.Unavailable r reason) ∨
      ∃ first second, error = .overlappingEdits first second := by
  rw [unchecked] at h
  split at h
  · cases h
  · cases h
  · cases h
  · next before after hbefore hafter =>
    rcases exists_of_bind_eq_error h with hresolve | ⟨⟨snapshot, source⟩, hresolve, h⟩
    · obtain ⟨reason, rfl, rfl, hclosed, hfails⟩ := resolve_eq_error_iff.1 hresolve
      exact .inl ⟨reason, rfl, hbefore, hafter ▸ Option.some_ne_none after, hclosed, hfails⟩
    · rcases exists_of_bind_eq_error h with hcomputed | ⟨computed, -, h⟩
      · obtain ⟨e, f, -, -, -, rfl⟩ := overlaps_of_computeEdits_eq_error hcomputed
        exact .inr ⟨_, _, rfl⟩
      · cases h

/-- What a revision may contribute. -/
inductive Contributes (a : Assembler) (r : FileRevision) : List FileChange → Prop where
  /-- Nothing, for a file that neither was nor is. -/
  | nothing (hbefore : r.before = none) (hafter : r.after = none) : Contributes a r []
  /-- A new file, and the update that fills it. -/
  | creation (after : Text) (hbefore : r.before = none) (hafter : r.after = some after) :
      Contributes a r (a.fillChanges r.uri after)
  /-- The deletion of the file, where it was before. -/
  | deletion (hbefore : r.before ≠ none) (hafter : r.after = none) :
      Contributes a r [.delete (r.previousUri.getD r.uri)]
  /-- A rename, and perhaps an update of the document under its new uri, without a version. -/
  | rename (previous : String) (es : List TextEdit) (hbefore : r.before ≠ none)
      (hafter : r.after ≠ none) (hprevious : r.previousUri = some previous)
      (hne : previous ≠ r.uri) :
      Contributes a r (.rename previous r.uri :: FileChange.ofEdits (.unversioned r.uri) es)
  /-- Perhaps an update of the document, with the version that an editor shows if one does. -/
  | update (version : Option Int32) (es : List TextEdit) (hbefore : r.before ≠ none)
      (hafter : r.after ≠ none) (hprevious : ∀ previous ∈ r.previousUri, previous = r.uri)
      (hversion : ∀ v, version = some v ↔ a.Shows r.uri v) :
      Contributes a r (FileChange.ofEdits ⟨r.uri, version⟩ es)

theorem contributes_of_unchecked (h : a.unchecked r = .ok o) : a.Contributes r o.changes := by
  rw [unchecked] at h
  split at h
  · next hbefore hafter =>
    cases h
    exact .nothing hbefore hafter
  · next after hbefore hafter =>
    cases h
    exact .creation after hbefore hafter
  · next before hbefore hafter =>
    cases h
    exact .deletion (hbefore ▸ Option.some_ne_none before) hafter
  · next before after hbefore hafter =>
    have hbefore : r.before ≠ none := hbefore ▸ Option.some_ne_none before
    have hafter : r.after ≠ none := hafter ▸ Option.some_ne_none after
    obtain ⟨⟨snapshot, source⟩, hresolve, h⟩ := exists_of_bind_eq_ok h
    obtain ⟨computed, -, h⟩ := exists_of_bind_eq_ok h
    cases h
    cases hrename : r.isRename with
    | true =>
      obtain ⟨hprevious, hne⟩ := r.exists_previousUri hrename
      exact .rename r.sourceUri computed.edits hbefore hafter hprevious hne
    | false =>
      have hsource := r.sourceUri_of_not_isRename hrename
      have huri : snapshot.uri = r.uri := (uri_of_resolve hresolve).trans hsource
      have hidentity : snapshot.identity = ⟨r.uri, snapshot.version⟩ := by
        rw [← huri]
        rfl
      have hchanges := Contributes.update snapshot.version computed.edits hbefore hafter
        (fun previous hprevious ↦ ?_) fun v ↦ hsource ▸ version_of_resolve hresolve
      · rwa [← hidentity] at hchanges
      · rw [← hsource, FileRevision.sourceUri, Option.mem_def.1 hprevious]
        rfl

/-! ## Outcomes -/

/-- **Why a revision fails.** -/
theorem exists_of_outcome_eq_error (h : a.outcome r = .error error) :
    (∃ uri, error = .identityMismatch uri ∧ r.misplaced? = some uri) ∨
      r.misplaced? = none ∧
        ((∃ reason, error = .sourceUnavailable r.sourceUri reason ∧ a.Unavailable r reason) ∨
          ∃ first second, error = .overlappingEdits first second) := by
  rw [outcome_eq] at h
  split at h
  · next uri hmisplaced =>
    cases h
    exact .inl ⟨uri, rfl, hmisplaced⟩
  · next hmisplaced => exact .inr ⟨hmisplaced, exists_of_unchecked_eq_error h⟩

theorem outcome_eq_identityMismatch_iff :
    a.outcome r = .error (.identityMismatch uri) ↔ r.misplaced? = some uri := by
  constructor
  · intro h
    rcases exists_of_outcome_eq_error h with
      ⟨uri', huri, hmisplaced⟩ | ⟨-, ⟨reason, hreason, -⟩ | ⟨first, second, hoverlap⟩⟩
    · cases huri
      exact hmisplaced
    · cases hreason
    · cases hoverlap
  · intro h
    rw [outcome_eq, h]

theorem outcome_eq_sourceUnavailable_iff :
    a.outcome r = .error (.sourceUnavailable uri reason) ↔
      r.misplaced? = none ∧ uri = r.sourceUri ∧ a.Unavailable r reason := by
  constructor
  · intro h
    rcases exists_of_outcome_eq_error h with
      ⟨uri', huri, -⟩ | ⟨hmisplaced, ⟨reason', hreason, hunavailable⟩ | ⟨first, second, hoverlap⟩⟩
    · cases huri
    · cases hreason
      exact ⟨hmisplaced, rfl, hunavailable⟩
    · cases hoverlap
  · rintro ⟨hmisplaced, rfl, hunavailable⟩
    rw [outcome_eq, hmisplaced]
    exact unchecked_of_unavailable hunavailable

/-- **What a revision contributes, and why it fails.**  One that fails contributes nothing.  Any
other contributes what `Contributes` allows.

It fails for lack of a place on disk exactly if a uri that its resource operation names has none:
then for the first such uri, and before any text is loaded.  A revision that only updates a file
does not fail so.  Past that, it fails for lack of a text exactly if the text before it is to be
loaded, its document is not open, and there is no loader or the loader fails.  Nothing else can go
wrong but that edits overlap. -/
theorem outcome_contributes (a : Assembler) (r : FileRevision) :
    (∀ o, a.outcome r = .ok o → (a.settle r).changes = o.changes ∧ a.Contributes r o.changes) ∧
    (∀ error, a.outcome r = .error error → (a.settle r).changes = [] ∧
      ((∃ uri, error = .identityMismatch uri) ∨
        (∃ uri reason, error = .sourceUnavailable uri reason) ∨
        ∃ first second, error = .overlappingEdits first second)) ∧
    (∀ uri, (a.outcome r = .error (.identityMismatch uri) ↔ r.misplaced? = some uri) ∧
      (r.misplaced? = some uri → a.loads? r = none)) ∧
    (r.before ≠ none → r.after ≠ none → r.isRename = false → r.misplaced? = none) ∧
    ∀ uri reason, a.outcome r = .error (.sourceUnavailable uri reason) ↔
      r.misplaced? = none ∧ uri = r.sourceUri ∧ a.Unavailable r reason := by
  refine ⟨fun o ho ↦ ?_, fun error herror ↦ ⟨?_, ?_⟩, fun uri ↦ ?_,
    fun hbefore hafter hrename ↦ ?_, fun uri reason ↦ outcome_eq_sourceUnavailable_iff⟩
  · refine ⟨by rw [settle, Settled.changes, ho], ?_⟩
    rw [outcome_eq] at ho
    split at ho
    · cases ho
    · exact contributes_of_unchecked ho
  · rw [settle, Settled.changes, herror]
  · rcases exists_of_outcome_eq_error herror with
      ⟨uri, huri, -⟩ | ⟨-, ⟨reason, hreason, -⟩ | hoverlap⟩
    · exact .inl ⟨uri, huri⟩
    · exact .inr (.inl ⟨_, reason, hreason⟩)
    · exact .inr (.inr hoverlap)
  · exact ⟨outcome_eq_identityMismatch_iff, a.loads?_of_misplaced?⟩
  · obtain ⟨before, hbefore⟩ := Option.ne_none_iff_exists'.1 hbefore
    obtain ⟨after, hafter⟩ := Option.ne_none_iff_exists'.1 hafter
    rw [FileRevision.misplaced?, FileRevision.named, hbefore, hafter, hrename]
    rfl

end Assembler

end Emend
