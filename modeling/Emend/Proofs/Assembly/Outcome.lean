import Emend.Assembly.Outcome
import Emend.Proofs.Diff.Algorithms
import Emend.Proofs.Edit.WholeLines
import Emend.Proofs.Result

/-!
# What one revision contributes, and to which document

The edits that are computed for a snapshot turn its content into the text after the revision
(`Assembler.exists_computeEdits`), if the spans that they are made from are right
(`Diff.Differ.Faithful`).  From there to what a revision contributes, the program takes several
turns: the revision may create, delete, rename or update, its text may come from an editor, from the
engine or from a loader, and each of these may fail.

`Assembler.Fate` lists what can become of a revision, and the other results are read off it by
cases:

* `Assembler.outcome_correct` says of the outcome of a revision that its edits are right.
* `Assembler.exists_changes_outcome` says that there is at most one update in it, behind changes
  that are none.
* `Assembler.uri_of_isUpdateOf` says that this updates no document but its own.

A fate is told without the spans.  That is what makes it possible to say of a failure that it would
have happened whatever spans are found, and to put the spans that do matter into the one case where
two texts are compared (`Assembler.Compares`).
-/

set_option autoImplicit false

namespace Emend

open Diff Text

/-- The spans turn the tokens of the one text into those of the other, for all texts. -/
def Diff.Differ.Faithful (differ : Differ) : Prop :=
  ∀ old new, Turns 0 0 (differ old new) (diffTokens old) (diffTokens new)

theorem Diff.Algorithm.faithful_diff (algorithm : Algorithm) : algorithm.diff.Faithful :=
  fun old new ↦ (algorithm.turns_diff old new).1

/-! ## Changes -/

theorem FileRevision.sourceUri_of_not_isRename {r : FileRevision} (h : r.isRename = false) :
    r.sourceUri = r.uri := by
  rw [isRename] at h
  rw [sourceUri]
  cases hprevious : r.previousUri with
  | none => rfl
  | some previous => simpa [hprevious] using h

theorem FileRevision.exists_previousUri {r : FileRevision} (h : r.isRename = true) :
    r.previousUri = some r.sourceUri ∧ r.sourceUri ≠ r.uri := by
  rw [isRename] at h
  rw [sourceUri]
  cases hprevious : r.previousUri with
  | none => simp [hprevious] at h
  | some previous => simpa [hprevious] using h

namespace FileChange

/-- The edits that changes have for one document, in their order. -/
def editsOf (uri : String) (cs : List FileChange) : List TextEdit :=
  (cs.filter fun c ↦ c.isUpdateOf uri).flatMap edits

theorem editsOf_append (uri : String) (cs cs' : List FileChange) :
    editsOf uri (cs ++ cs') = editsOf uri cs ++ editsOf uri cs' := by
  rw [editsOf, List.filter_append, List.flatMap_append]
  rfl

/-- An update without edits need not be there. -/
theorem editsOf_update (uri : String) (document : DocumentIdentity) (es : List TextEdit) :
    editsOf uri (if es.isEmpty then [] else [update document es])
      = if document.uri = uri then es else [] := by
  cases es with
  | nil => simp [editsOf]
  | cons e es => by_cases h : document.uri = uri <;> simp [editsOf, isUpdateOf, edits, h]

end FileChange

namespace Assembler

variable {a : Assembler} {r : FileRevision} {snapshot : Snapshot} {after : Text}

/-! ## Edits of a document

Edits are computed in one of two ways, and the statement about them is one: the whole document is
replaced, or the lines that differ are.  For the second, spans are projected to offsets, the
projected edits are pushed without tracking, and the accumulator puts them into the form of the
protocol.  That spans are faithful is used once, for the projected edits to lead to the text
after. -/

/-- The edits of the lines that differ.  There are none only if no line does. -/
theorem exists_lineEdits (ha : a.differ.Faithful) (snapshot : Snapshot) (after : Text) :
    let projection :=
      Projection.ofSpans snapshot.content after (a.differ snapshot.content after)
    ∃ d fs, (DocumentEdits.new snapshot false).pushAll projection.edits = .ok d ∧
      d.toTextEdits a.options.encoding a.options.annotationId = .ok fs ∧
      (fs = [] → snapshot.content = after) ∧
      (byteLen snapshot.content < UInt32.size →
        snapshot.content.RewrittenBy a.options.encoding fs after) := by
  have hturns := ha snapshot.content after
  have hspans := fun s hs ↦ (hturns.bounds s hs).1.2.1
  obtain ⟨-, hwrites⟩ := OffsetEdit.Writes.ofSplice hspans hturns.splice?
  rw [flatten_diffTokens] at hwrites
  obtain ⟨d, hd, rfl, hedits, -⟩ := DocumentEdits.pushAll_of_writes hwrites
  have haddressable : ∀ e ∈ d.edits, e.Addressable d.document.content := by
    intro e he
    rw [hedits] at he
    exact (Projection.onLines _ _ _ e (List.mem_filter.1 he).1).addressable
  have hwrites' : OffsetEdit.Writes 0 d.document.content d.edits after := hedits ▸ hwrites.filter
  obtain ⟨fs, hfs, hlen, hrewritten⟩ := DocumentEdits.exists_toTextEdits_of_addressable hwrites'
    haddressable a.options.encoding a.options.annotationId
  refine ⟨d, fs, hd, hfs, fun hnil ↦ ?_, hrewritten⟩
  rw [hnil, List.length_nil, eq_comm, List.length_eq_zero_iff] at hlen
  rw [hlen] at hwrites'
  exact hwrites'.symm

/-- **Edits are computed.**  There are none only if the text is the content of the snapshot, and
they turn the one into the other. -/
theorem exists_computeEdits (ha : a.differ.Faithful) (snapshot : Snapshot) (after : Text) :
    ∃ f, a.computeEdits snapshot after = .ok f ∧
      (f.edits = [] → snapshot.content = after) ∧
      (byteLen snapshot.content < UInt32.size →
        snapshot.content.RewrittenBy a.options.encoding f.edits after) := by
  have hlines := exists_lineEdits ha snapshot after
  rw [computeEdits]
  cases hspans : a.differ snapshot.content after with
  | nil =>
    have hturns := ha snapshot.content after
    rw [hspans] at hturns
    obtain rfl : after = snapshot.content := eq_of_diffTokens_eq hturns
    exact ⟨_, rfl, fun _ ↦ rfl, fun _ ↦ .nil _ _⟩
  | cons s spans =>
    cases hmode : a.options.mode with
    | wholeDocument => exact ⟨_, rfl, nofun, fun hsize ↦ .whole hsize _ _ _⟩
    | diff =>
      obtain ⟨d, fs, hd, hfs, hnil, hrewritten⟩ := hlines
      rw [hspans] at hd
      refine ⟨⟨fs, (s :: spans).length,
        (Projection.ofSpans snapshot.content after (s :: spans)).dropped.length,
        .ofSpans (s :: spans)⟩, ?_, hnil, hrewritten⟩
      show ((DocumentEdits.new snapshot false).pushAll _ >>= _) = _
      rw [hd]
      show (d.toTextEdits a.options.encoding a.options.annotationId >>= _) = _
      rw [hfs]
      rfl

/-! ## Sources

Where a text comes from is decided before any is loaded.  Each of the three sources is characterised
by an equivalence, so that what follows need not unfold the registry: an open document is taken from
the editor, and a text is loaded only for a document that is not open and of which no text has been
handed over. -/

/-- The buffer of an editor is taken exactly for a document that is open. -/
theorem source_eq_live_iff {uri : String} {before : SourceText} {version : Int32} :
    a.source uri before = .live snapshot version ↔ a.registry.lookup? uri = some snapshot ∧
      snapshot.version = some version ∧ snapshot.isOpen = true := by
  constructor
  · intro h
    cases hlookup : a.registry.lookup? uri with
    | none => cases before <;> simp [source, hlookup] at h
    | some found =>
      cases hversion : found.version with
      | none => cases before <;> simp [source, hlookup, hversion] at h
      | some v =>
        cases hopen : found.isOpen with
        | false => cases before <;> simp [source, hlookup, hversion, hopen] at h
        | true =>
          simp only [source, hlookup, hversion, hopen, if_true, Source.live.injEq] at h
          obtain ⟨rfl, rfl⟩ := h
          exact ⟨rfl, hversion, hopen⟩
  · rintro ⟨hlookup, hversion, hopen⟩
    simp only [source, hlookup, hversion, hopen, if_true]

theorem uri_of_source {uri : String} {before : SourceText} {version : Int32}
    (h : a.source uri before = .live snapshot version) : snapshot.uri = uri :=
  Registry.uri_of_lookup? (source_eq_live_iff.1 h).1

theorem uri_of_resolve {uri : String} {before : SourceText} {source : ContentSource}
    (h : a.resolve uri before = .ok (snapshot, source)) : snapshot.uri = uri := by
  rw [resolve] at h
  split at h
  · next hsource =>
    cases h
    exact uri_of_source hsource
  · cases h
    rfl
  · obtain ⟨text, -, htext⟩ := map_eq_ok_iff.1 h
    cases htext
    rfl

/-- A text is loaded exactly for a document that is not open, if none has been handed over. -/
theorem source_eq_deferred_iff {uri : String} {before : SourceText} :
    a.source uri before = .deferred ↔
      before = .deferred ∧ ∀ snapshot ∈ a.registry.lookup? uri, snapshot.isOpen = false := by
  cases hlookup : a.registry.lookup? uri with
  | none => cases before <;> simp [source, hlookup]
  | some snapshot =>
    cases hversion : snapshot.version with
    | none =>
      have hidentity : snapshot.identity.version = none := hversion
      have hopen : snapshot.isOpen = false := by
        rw [Snapshot.isOpen, DocumentIdentity.isOpen, hidentity]
      cases before <;> simp [source, hlookup, hversion, hopen]
    | some v =>
      cases hopen : snapshot.isOpen <;> cases before <;>
        simp [source, hlookup, hversion, hopen]

/-- There is no loader, or it fails, and this is the reason that is given. -/
def LoadFails (a : Assembler) (uri reason : String) : Prop :=
  (a.loader = none ∧ reason = "no source loader configured") ∨
    ∃ loader chain, a.loader = some loader ∧ loader uri = .error chain ∧ reason = chain.oneLine

theorem load_eq_error_iff {uri : String} {e : EditError} : a.load uri = .error e ↔
    ∃ reason, e = .sourceUnavailable uri reason ∧ a.LoadFails uri reason := by
  rw [load]
  cases hloader : a.loader with
  | none => simp [LoadFails, hloader, eq_comm]
  | some loader =>
    cases hload : loader uri with
    | ok text => simp [LoadFails, hloader, hload, Except.mapError]
    | error chain => simp [LoadFails, hloader, hload, Except.mapError, eq_comm]

/-- **The text before is unavailable exactly if it is to be loaded and cannot be.** -/
theorem resolve_eq_error_iff {uri : String} {before : SourceText} {e : EditError} :
    a.resolve uri before = .error e ↔
      ∃ reason, e = .sourceUnavailable uri reason ∧ before = .deferred ∧
        (∀ snapshot ∈ a.registry.lookup? uri, snapshot.isOpen = false) ∧
        a.LoadFails uri reason := by
  constructor
  · intro h
    cases hsource : a.source uri before with
    | live snapshot v =>
      rw [resolve, hsource] at h
      cases h
    | supplied text =>
      rw [resolve, hsource] at h
      cases h
    | deferred =>
      rw [resolve, hsource] at h
      obtain ⟨reason, herror, hfails⟩ := load_eq_error_iff.1 (error_of_map_eq_error h)
      obtain ⟨hbefore, hclosed⟩ := source_eq_deferred_iff.1 hsource
      exact ⟨reason, herror, hbefore, hclosed, hfails⟩
  · rintro ⟨reason, herror, hbefore, hclosed, hfails⟩
    rw [resolve, source_eq_deferred_iff.2 ⟨hbefore, hclosed⟩]
    exact congrArg (Except.map _) (load_eq_error_iff.2 ⟨reason, herror, hfails⟩)

/-- The text that a revision starts from: none at all for a new file. -/
def base (a : Assembler) (r : FileRevision) : Except EditError Text :=
  match r.before with
  | none => .ok []
  | some before => (a.resolve r.sourceUri before).map fun found ↦ found.1.content

/-! ## Revisions that are left out

`LeavesOut` has a constructor for each reason why a revision with a text after it can fail, with the
error that it fails with.  It does not say where in the program the check is made.  That spans can
be contradictory is no reason here, as those of an algorithm are not. -/

/-- Why a revision with a text after it can be left out. -/
inductive LeavesOut (a : Assembler) (r : FileRevision) : EditError → Prop where
  /-- A new file, or one that has moved, has no place on disk. -/
  | noTarget (hnew : r.before = none ∨ r.isRename = true) (hfile : Uri.namesFile r.uri = false) :
      LeavesOut a r (.identityMismatch r.uri)
  /-- A file that has moved had no place on disk. -/
  | noOrigin (hrename : r.isRename = true) (hfile : Uri.namesFile r.sourceUri = false) :
      LeavesOut a r (.identityMismatch r.sourceUri)
  /-- The text before cannot be loaded. -/
  | noText (reason : String) (hbase : a.base r = .error (.sourceUnavailable r.sourceUri reason)) :
      LeavesOut a r (.sourceUnavailable r.sourceUri reason)

theorem eq_identityMismatch_of_requireFile {uri : String} {e : EditError}
    (h : requireFile uri = .error e) : Uri.namesFile uri = false ∧ e = .identityMismatch uri := by
  rw [requireFile] at h
  split at h
  · cases h
  · next hfile =>
    cases h
    exact ⟨Bool.eq_false_iff.2 hfile, rfl⟩

theorem leavesOut_of_renameChanges {e : EditError} (h : renameChanges r = .error e) :
    a.LeavesOut r e := by
  rw [renameChanges] at h
  split at h
  · next hrename =>
    cases horigin : requireFile r.sourceUri with
    | error e' =>
      obtain ⟨hfile, rfl⟩ := eq_identityMismatch_of_requireFile horigin
      rw [horigin] at h
      cases h
      exact .noOrigin hrename hfile
    | ok _ =>
      cases htarget : requireFile r.uri with
      | error e' =>
        obtain ⟨hfile, rfl⟩ := eq_identityMismatch_of_requireFile htarget
        rw [horigin, htarget] at h
        cases h
        exact .noTarget (.inr hrename) hfile
      | ok _ =>
        rw [horigin, htarget] at h
        cases h
  · cases h

theorem leavesOut_of_resolve {before : SourceText} {e : EditError}
    (hbefore : r.before = some before) (h : a.resolve r.sourceUri before = .error e) :
    a.LeavesOut r e := by
  obtain ⟨reason, rfl, -⟩ := resolve_eq_error_iff.1 h
  refine .noText reason ?_
  rw [base, hbefore]
  exact congrArg (Except.map _) h

/-! ## What can become of a revision

The cases of `Fate` follow the two texts of a revision, each of which may be there or not, and are
put together from a lemma for each combination.  `Compares` is the one in which there is still work
to do; it says which snapshot is compared with which text, and `Compares.outcome` says how the edits
become an update. -/

/-- Two texts are compared for a revision: the one of a snapshot, and the one after. -/
structure Compares (a : Assembler) (r : FileRevision) (snapshot : Snapshot) (after : Text) :
    Prop where
  renames : ∃ renames, renameChanges r = .ok renames
  before : ∃ before source, r.before = some before ∧
    a.resolve r.sourceUri before = .ok (snapshot, source)
  after : r.after = some after

theorem Compares.base (h : a.Compares r snapshot after) : a.base r = .ok snapshot.content := by
  obtain ⟨before, source, hbefore, hresolve⟩ := h.before
  rw [Assembler.base, hbefore]
  exact congrArg (Except.map _) hresolve

/-- What a revision starts with is no update. -/
theorem not_isUpdateOf_of_renameChanges {renames : List FileChange}
    (h : renameChanges r = .ok renames) : ∀ c ∈ renames, ∀ uri, c.isUpdateOf uri = false := by
  rw [renameChanges] at h
  split at h
  · obtain ⟨_, -, h⟩ := exists_of_bind_eq_ok h
    obtain ⟨_, -, h⟩ := exists_of_bind_eq_ok h
    cases h
    exact List.forall_mem_singleton.2 fun _ ↦ rfl
  · cases h
    exact nofun

/-- The document that an update names is that of the revision, whether the file has moved or not. -/
theorem uri_of_updated {before : SourceText} {source : ContentSource}
    (h : a.resolve r.sourceUri before = .ok (snapshot, source)) :
    (if r.isRename then .unversioned r.uri else snapshot.identity : DocumentIdentity).uri
      = r.uri := by
  cases hrename : r.isRename with
  | true => rfl
  | false => exact (uri_of_resolve h).trans (r.sourceUri_of_not_isRename hrename)

/-- **The edits that are computed make the update**, behind a rename perhaps. -/
theorem Compares.outcome (h : a.Compares r snapshot after) :
    ∃ renames document source, (∀ c ∈ renames, ∀ uri, c.isUpdateOf uri = false) ∧
      document.uri = r.uri ∧
      a.outcome r = (a.computeEdits snapshot after).map fun computed ↦
        ⟨renames ++ if computed.edits.isEmpty then [] else [.update document computed.edits],
          some ⟨r.uri, source, computed.spans, computed.droppedSpans, computed.stats⟩⟩ := by
  obtain ⟨renames, hrenames⟩ := h.renames
  obtain ⟨before, source, hbefore, hresolve⟩ := h.before
  refine ⟨renames, if r.isRename then .unversioned r.uri else snapshot.identity, source,
    not_isUpdateOf_of_renameChanges hrenames, uri_of_updated hresolve, ?_⟩
  rw [Assembler.outcome, hbefore, h.after]
  show a.updateOutcome r before after = _
  rw [updateOutcome, hrenames, hresolve]
  show (a.computeEdits snapshot after >>= _) = _
  cases a.computeEdits snapshot after <;> rfl

/-- A file that has not moved is updated as the snapshot that its revision addresses. -/
theorem outcome_of_resolve {before : SourceText} {source : ContentSource}
    (hresolve : a.resolve r.uri before = .ok (snapshot, source)) (hrename : r.isRename = false)
    (hbefore : r.before = some before) (hafter : r.after = some after) :
    a.outcome r = (a.computeEdits snapshot after).map fun computed ↦
      ⟨if computed.edits.isEmpty then [] else [.update snapshot.identity computed.edits],
        some ⟨r.uri, source, computed.spans, computed.droppedSpans, computed.stats⟩⟩ := by
  have hrenames : renameChanges r = .ok [] := by
    rw [renameChanges, hrename]
    rfl
  rw [Assembler.outcome, hbefore, hafter]
  show a.updateOutcome r before after = _
  rw [updateOutcome, hrenames, r.sourceUri_of_not_isRename hrename, hresolve]
  show (a.computeEdits snapshot after >>= _) = _
  rw [hrename]
  cases a.computeEdits snapshot after <;> rfl

/-- The changes that fill a new file. -/
def fillChanges (a : Assembler) (uri : String) (after : Text) : List FileChange :=
  [.create uri, .update (.unversioned uri)
    [(TextEdit.insert .origin after).annotatedWith a.options.annotationId]]

theorem outcome_of_fills (hbefore : r.before = none) (hafter : r.after = some after)
    (hfile : Uri.namesFile r.uri = true) :
    a.outcome r = .ok ⟨a.fillChanges r.uri after, some (.ofResource r.uri .created)⟩ := by
  rw [outcome, hbefore, hafter]
  show a.createOutcome r.uri after = _
  rw [createOutcome, requireFile, if_pos hfile]
  rfl

/-- What can become of a revision. -/
inductive Fate (a : Assembler) (r : FileRevision) : Prop where
  /-- It fails, and would do so whatever spans are found. -/
  | fails (e : EditError) (houtcome : ∀ differ, (a.withDiffer differ).outcome r = .error e)
      (hleaves : r.after = none ∨ a.LeavesOut r e)
  /-- There is no text after it, and none is edited. -/
  | ends (o : FileOutcome) (hafter : r.after = none) (houtcome : a.outcome r = .ok o)
      (hnone : ∀ c ∈ o.changes, ∀ uri, c.isUpdateOf uri = false)
  /-- A new file is filled. -/
  | fills (after : Text) (hbefore : r.before = none) (hafter : r.after = some after)
      (hfile : Uri.namesFile r.uri = true)
  /-- Two texts are compared. -/
  | compares (snapshot : Snapshot) (after : Text) (h : a.Compares r snapshot after)

theorem fate_of_ends (a : Assembler) (hafter : r.after = none) : a.Fate r := by
  cases hbefore : r.before with
  | none => exact .ends ⟨[], none⟩ hafter (by rw [outcome, hbefore, hafter]) nofun
  | some before =>
    have houtcome : ∀ differ, (a.withDiffer differ).outcome r
        = deleteOutcome r.uri r.sourceUri := by
      intro differ
      rw [outcome, hbefore, hafter]
    cases htarget : requireFile r.sourceUri with
    | ok _ =>
      refine .ends ⟨[.delete r.sourceUri], some (.ofResource r.uri .deleted)⟩ hafter
        ((houtcome a.differ).trans ?_) (List.forall_mem_singleton.2 fun _ ↦ rfl)
      rw [deleteOutcome, htarget]
      rfl
    | error e =>
      refine .fails e (fun differ ↦ (houtcome differ).trans ?_) (.inl hafter)
      rw [deleteOutcome, htarget]
      rfl

theorem fate_of_new (a : Assembler) (hbefore : r.before = none) (hafter : r.after = some after) :
    a.Fate r := by
  cases hfile : Uri.namesFile r.uri with
  | true => exact .fills after hbefore hafter hfile
  | false =>
    refine .fails (.identityMismatch r.uri) (fun differ ↦ ?_)
      (.inr (.noTarget (.inl hbefore) hfile))
    rw [outcome, hbefore, hafter]
    show (a.withDiffer differ).createOutcome r.uri after = _
    rw [createOutcome, requireFile, hfile]
    rfl

theorem fate_of_stays (a : Assembler) {before : SourceText} (hbefore : r.before = some before)
    (hafter : r.after = some after) : a.Fate r := by
  have houtcome : ∀ differ, (a.withDiffer differ).outcome r
      = (a.withDiffer differ).updateOutcome r before after := by
    intro differ
    rw [outcome, hbefore, hafter]
  cases hrenames : renameChanges r with
  | error e =>
    refine .fails e (fun differ ↦ (houtcome differ).trans ?_)
      (.inr (leavesOut_of_renameChanges hrenames))
    rw [updateOutcome, hrenames]
    rfl
  | ok renames =>
    cases hresolve : a.resolve r.sourceUri before with
    | error e =>
      refine .fails e (fun differ ↦ (houtcome differ).trans ?_)
        (.inr (leavesOut_of_resolve hbefore hresolve))
      have hresolve' : (a.withDiffer differ).resolve r.sourceUri before = .error e := hresolve
      rw [updateOutcome, hrenames, hresolve']
      rfl
    | ok found =>
      obtain ⟨snapshot, source⟩ := found
      exact .compares snapshot after
        ⟨⟨renames, hrenames⟩, ⟨before, source, hbefore, hresolve⟩, hafter⟩

/-- **A revision fails before any texts are compared, or edits no text, or fills a new file, or two
texts are compared for it.** -/
theorem fate (a : Assembler) (r : FileRevision) : a.Fate r := by
  cases hafter : r.after with
  | none => exact a.fate_of_ends hafter
  | some after =>
    cases hbefore : r.before with
    | none => exact a.fate_of_new hbefore hafter
    | some before => exact a.fate_of_stays hbefore hafter

/-! ## Outcomes -/

/-- **A revision contributes at most one update**, of its own document, behind changes that are
none. -/
theorem exists_changes_outcome {o : FileOutcome} (h : a.outcome r = .ok o) :
    ∃ (front : List FileChange) (update? : Option FileChange),
      o.changes = front ++ update?.toList ∧ (∀ c ∈ front, ∀ uri, c.isUpdateOf uri = false) ∧
      ∀ c ∈ update?, ∀ uri, c.isUpdateOf uri = decide (r.uri = uri) := by
  cases a.fate r with
  | fails e houtcome => cases (houtcome a.differ).symm.trans h
  | ends o' hafter houtcome hnone =>
    obtain rfl : o' = o := Except.ok.inj (houtcome.symm.trans h)
    exact ⟨o'.changes, none, by simp, hnone, nofun⟩
  | fills after hbefore hafter hfile =>
    obtain rfl := Except.ok.inj ((outcome_of_fills hbefore hafter hfile).symm.trans h)
    refine ⟨[.create r.uri], some (.update (.unversioned r.uri) [_]), rfl,
      List.forall_mem_singleton.2 fun _ ↦ rfl, fun c hc uri ↦ ?_⟩
    obtain rfl := Option.mem_some_iff.1 hc
    rfl
  | compares snapshot after hcompares =>
    obtain ⟨renames, document, source, hrenames, hdocument, houtcome⟩ := hcompares.outcome
    obtain ⟨computed, -, rfl⟩ := map_eq_ok_iff.1 (houtcome.symm.trans h)
    cases hedits : computed.edits with
    | nil => exact ⟨renames, none, by simp, hrenames, nofun⟩
    | cons e es =>
      refine ⟨renames, some (.update document (e :: es)), by simp, hrenames, fun c hc uri ↦ ?_⟩
      obtain rfl := Option.mem_some_iff.1 hc
      rw [FileChange.isUpdateOf, hdocument]

/-- **A revision updates no document but its own.** -/
theorem uri_of_isUpdateOf {o : FileOutcome} {c : FileChange} {uri : String}
    (h : a.outcome r = .ok o) (hc : c ∈ o.changes) (hupdate : c.isUpdateOf uri = true) :
    r.uri = uri := by
  obtain ⟨front, update?, hchanges, hfront, hown⟩ := exists_changes_outcome h
  rw [hchanges, List.mem_append, Option.mem_toList] at hc
  rcases hc with hc | hc
  · cases (hfront c hc uri).symm.trans hupdate
  · exact of_decide_eq_true ((hown c hc uri).symm.trans hupdate)

/-- Changes that are no updates edit nothing. -/
theorem editsOf_eq_nil {cs : List FileChange} {uri : String}
    (h : ∀ c ∈ cs, c.isUpdateOf uri = false) : FileChange.editsOf uri cs = [] := by
  have hnone : (cs.filter fun c ↦ c.isUpdateOf uri) = [] :=
    List.filter_eq_nil_iff.2 fun c hc ↦ by simp [h c hc]
  rw [FileChange.editsOf, hnone]
  rfl

/-- **A revision with a text after it is left out, or its edits turn the text that it starts from
into that text.** -/
theorem outcome_correct (ha : a.differ.Faithful) (hafter : r.after = some after)
    (hsize : ∀ base, a.base r = .ok base → byteLen base < UInt32.size) :
    (∃ e, a.outcome r = .error e ∧ a.LeavesOut r e) ∨
      ∃ o base, a.outcome r = .ok o ∧ a.base r = .ok base ∧
        base.RewrittenBy a.options.encoding (FileChange.editsOf r.uri o.changes) after := by
  cases a.fate r with
  | fails e houtcome hleaves =>
    refine .inl ⟨e, houtcome a.differ, hleaves.resolve_left ?_⟩
    rw [hafter]
    exact Option.some_ne_none after
  | ends o hnone => cases hafter.symm.trans hnone
  | fills after' hbefore hafter' hfile =>
    obtain rfl : after = after' := Option.some.inj (hafter.symm.trans hafter')
    refine .inr ⟨_, [], outcome_of_fills hbefore hafter hfile, by rw [base, hbefore], ?_⟩
    have hedits : FileChange.editsOf r.uri (a.fillChanges r.uri after)
        = [(TextEdit.insert .origin after).annotatedWith a.options.annotationId] :=
      (FileChange.editsOf_update r.uri (.unversioned r.uri) [_]).trans (if_pos rfl)
    rw [hedits]
    exact .fill _ _ _
  | compares snapshot after' h =>
    obtain rfl : after = after' := Option.some.inj (hafter.symm.trans h.after)
    obtain ⟨computed, hcomputed, -, hrewritten⟩ := exists_computeEdits ha snapshot after
    obtain ⟨renames, document, source, hrenames, hdocument, houtcome⟩ := h.outcome
    rw [hcomputed] at houtcome
    refine .inr ⟨_, snapshot.content, houtcome, h.base, ?_⟩
    rw [FileChange.editsOf_append, editsOf_eq_nil fun c hc ↦ hrenames c hc r.uri,
      List.nil_append, FileChange.editsOf_update, if_pos hdocument]
    exact hrewritten (hsize _ h.base)

end Assembler

end Emend
