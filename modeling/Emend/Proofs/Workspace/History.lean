import Emend.Proofs.Edit.Rendering
import Emend.Proofs.Workspace.Registry

/-!
# What a series of calls leaves in the registry

A call that goes through leaves a `RegistryEvent`: a document has been registered, edited or
forgotten.  All that a call does to the registry is told by its event
(`RegistryCall.lookup?_perform`), so what the registry holds of a document is what the last event
about it has left there (`Registry.lookup?_run`).  `Registry.run_invariants` says what always holds
after a series of calls.

A call that is refused has no event, and one that only looks something up has none either.  So a
series of calls is told by its events, and the events about one document are enough to know what is
held of it.  The induction over the calls is done once, in `Registry.lookup?_run_of_events`.

Two things are derived from this that matter to whoever edits.  As long as no event brings a version
back, the version tells whether a document has changed (`Registry.version_eq_iff`).  And of two
accumulators over one snapshot only the first to be committed goes in, because its commit raises the
version (`Registry.applyEdits_of_committed`).
-/

set_option autoImplicit false

namespace Emend

/-! ## Events -/

/-- What a call did to a document. -/
inductive RegistryEvent where
  /-- It was registered with a snapshot. -/
  | registered (snapshot : Snapshot)
  /-- Edits were carried out on it, and led to a snapshot. -/
  | committed (snapshot : Snapshot)
  /-- It was forgotten. -/
  | removed (uri : String)
  deriving DecidableEq, Repr

namespace RegistryEvent

/-- The document that an event is about. -/
def uri : RegistryEvent → String
  | registered s => s.uri
  | committed s => s.uri
  | removed uri => uri

/-- What the registry holds of the document then. -/
def snapshot? : RegistryEvent → Option Snapshot
  | registered s => some s
  | committed s => some s
  | removed _ => none

end RegistryEvent

namespace RegistryCall

/-- The event that a call makes, if it is one that changes the registry and is not refused. -/
def event? (r : Registry) : RegistryCall → Option RegistryEvent
  | lookup _ => none
  | upsert uri content version => some (.registered ⟨⟨uri, version⟩, content⟩)
  | remove uri => some (.removed uri)
  | applyEdits edits =>
    match r.applyEdits edits, edits.apply with
    | .ok _, .ok text => some (.committed
      ⟨⟨edits.document.uri, some (Registry.nextVersion edits.document.version)⟩, text⟩)
    | _, _ => none

/-- **What a call does is told by its event.** -/
theorem lookup?_perform (c : RegistryCall) (r : Registry) (uri : String) :
    (c.perform r).lookup? uri = match c.event? r with
      | some e => if e.uri = uri then e.snapshot? else r.lookup? uri
      | none => r.lookup? uri := by
  have hupsert : ∀ s : Snapshot, (r.upsert s.uri s.content s.version).lookup? uri
      = if s.uri = uri then some s else r.lookup? uri := by
    intro s
    split
    · next h => rw [← h, Registry.lookup?_upsert_self]; rfl
    · next h => exact r.lookup?_upsert_of_ne (Ne.symm h) _ _
  cases c with
  | lookup uri' => rfl
  | upsert uri' content version => exact hupsert ⟨⟨uri', version⟩, content⟩
  | remove uri' =>
    show (r.remove uri').lookup? uri = if uri' = uri then none else r.lookup? uri
    split
    · next h => rw [h, Registry.lookup?_remove_self]
    · next h => exact r.lookup?_remove_of_ne (Ne.symm h)
  | applyEdits edits =>
    rw [event?]
    cases hr : r.applyEdits edits with
    | error e => rw [perform_of_error hr]
    | ok r' =>
      obtain ⟨t, ht, rfl⟩ := (r.applyEdits_spec edits).2 r' hr
      rw [ht, perform_of_ok hr]
      exact hupsert ⟨⟨edits.document.uri, some (Registry.nextVersion edits.document.version)⟩, t⟩

theorem lookup?_perform_of_event {c : RegistryCall} {r : Registry} {uri : String}
    (h : ∀ e ∈ c.event? r, e.uri ≠ uri) : (c.perform r).lookup? uri = r.lookup? uri := by
  rw [c.lookup?_perform]
  cases he : c.event? r with
  | none => rfl
  | some e => exact if_neg (h e he)

end RegistryCall

namespace Registry

variable {r : Registry} {calls : List RegistryCall} {uri : String}

/-- The events of a series of calls, in their order. -/
def events (r : Registry) : List RegistryCall → List RegistryEvent
  | [] => []
  | c :: calls => (c.event? r).toList ++ (c.perform r).events calls

theorem lookup?_run_of_events (r : Registry) (calls : List RegistryCall) (uri : String) :
    (r.run calls).lookup? uri
      = match ((r.events calls).filter fun e ↦ e.uri = uri).getLast? with
        | some e => e.snapshot?
        | none => r.lookup? uri := by
  induction calls generalizing r with
  | nil => rfl
  | cons c calls ih =>
    show ((c.perform r).run calls).lookup? uri = _
    rw [ih, events, List.filter_append, List.getLast?_append, c.lookup?_perform]
    cases (((c.perform r).events calls).filter fun e ↦ e.uri = uri).getLast? with
    | some e => rfl
    | none =>
      cases c.event? r with
      | none => rfl
      | some e => by_cases h : e.uri = uri <;> simp [h]

/-- **The registry holds what the last event about a document has left.** -/
theorem lookup?_run (calls : List RegistryCall) (uri : String) :
    (empty.run calls).lookup? uri
      = (((empty.events calls).filter fun e ↦ e.uri = uri).getLast?).bind
          RegistryEvent.snapshot? := by
  rw [lookup?_run_of_events]
  cases ((empty.events calls).filter fun e ↦ e.uri = uri).getLast? <;> rfl

/-! ## Versions -/

theorem toInt_nextVersion {v : Option Int32} (h : v ≠ some Int32.maxValue) :
    (nextVersion v).toInt = (v.getD 0).toInt + 1 := by
  cases v with
  | none => rfl
  | some v =>
    have hv : v ≠ Int32.maxValue := fun hv ↦ h (congrArg some hv)
    have hle : v.toInt ≤ 2147483647 := Int32.toInt_le v
    have hne : v.toInt ≠ 2147483647 := fun heq ↦ hv (Int32.toInt_inj.1 heq)
    have hge : -2147483648 ≤ v.toInt := Int32.le_toInt v
    have hone : (1 : Int32).toInt = 1 := rfl
    rw [nextVersion, if_neg hv, Int32.toInt_add, hone, Option.getD_some]
    exact Int.bmod_eq_of_le (by omega) (by omega)

/-- No version but the largest is followed by itself. -/
theorem some_nextVersion_ne {v : Option Int32} (h : v ≠ some Int32.maxValue) :
    some (nextVersion v) ≠ v := by
  intro heq
  have hnext := toInt_nextVersion h
  rw [← heq, Option.getD_some, heq] at hnext
  omega

/-! ## Versions that do not come back

The last event about a document has left what the registry holds of it.  If there was one, and none
of them has left the old version, then the version is another one now; if there was none, nothing
has changed.  A version that does come back says nothing: the content may be another one. -/

/-- **A version that does not come back tells whether the document has changed.** -/
theorem version_eq_iff {base found : Snapshot}
    (hbase : r.lookup? base.uri = some base)
    (hevents : ∀ e ∈ r.events calls, ∀ s ∈ e.snapshot?, s.uri = base.uri → s.version ≠ base.version)
    (hfound : (r.run calls).lookup? base.uri = some found) :
    found.version = base.version ↔ found = base := by
  refine ⟨fun hversion ↦ ?_, fun h ↦ h ▸ rfl⟩
  have hlookup := r.lookup?_run_of_events calls base.uri
  rw [hfound] at hlookup
  cases hlast : ((r.events calls).filter fun e ↦ e.uri = base.uri).getLast? with
  | none =>
    rw [hlast] at hlookup
    exact Option.some.inj (hlookup.trans hbase)
  | some e =>
    rw [hlast] at hlookup
    have hmem := (List.mem_filter.1 (List.mem_of_getLast? hlast)).1
    exact absurd hversion (hevents e hmem found hlookup.symm (uri_of_lookup? hfound))

/-! ## What always holds

That a snapshot is kept under its own uri and that uris are sorted holds of every registry, whatever
calls led to it.  What depends on the calls is what is held, and whether edits still fit it.  The
last clause is about two accumulators over one snapshot: the first commit raises the version,
nothing else touches the document in between, and so the second one meets another snapshot than its
own. -/

/-- In whatever order a map lists its keys, they are the same when they have been sorted. -/
theorem mergeSort_eq_uris {keys : List String} (h : keys.Perm r.documents.keys) :
    keys.mergeSort = r.uris := by
  have hsorted : ∀ l : List String, l.mergeSort.Pairwise (· ≤ ·) := fun l ↦ by
    have hle := @List.pairwise_mergeSort String (fun a b ↦ decide (a ≤ b))
      (fun a b c hab hbc ↦
        decide_eq_true (String.le_trans (of_decide_eq_true hab) (of_decide_eq_true hbc)))
      (fun a b ↦ by simpa using String.le_total a b) l
    exact hle.imp fun h ↦ of_decide_eq_true h
  have hperm : keys.mergeSort.Perm r.uris :=
    ((List.mergeSort_perm _ _).trans h).trans (List.mergeSort_perm _ _).symm
  exact hperm.eq_of_pairwise (fun _ _ _ _ ↦ String.le_antisymm) (hsorted _) (hsorted _)

/-- A sorted dictionary lists its keys in order already. -/
theorem uris_eq (r : Registry) : r.uris = r.documents.keys := by
  refine List.mergeSort_of_pairwise (List.pairwise_map.2 (r.documents.sorted.imp fun h ↦ ?_))
  exact decide_eq_true (String.not_lt.1 (String.lt_asymm h))

/-- The registered uris are those that a snapshot is found for. -/
theorem mem_uris_iff (r : Registry) (uri : String) :
    uri ∈ r.uris ↔ ∃ s, r.lookup? uri = some s := by
  rw [uris_eq, lookup?, ← Option.isSome_iff_exists, Dict.get?, Entries.get?, Option.isSome_map,
    List.find?_isSome]
  simp [Dict.keys]

/-- Edits are refused for one of three reasons. -/
theorem eq_of_applyEdits_eq_error {d : DocumentEdits} {e : EditError}
    (h : r.applyEdits d = .error e) :
    e = .notOpen d.document.uri ∨
      (∃ found, e = .staleSnapshot d.document.uri d.document.version found) ∨
      ∃ first second, e = .overlappingEdits first second := by
  by_cases hlookup : r.lookup? d.document.uri = some d.document
  · rw [applyEdits_of_eq hlookup] at h
    have happly := error_of_map_eq_error h
    rw [DocumentEdits.apply] at happly
    have horder := error_of_map_eq_error happly
    rw [DocumentEdits.inOrder] at horder
    obtain ⟨⟨first, second⟩, -, rfl⟩ := exists_of_mapError_eq_error horder
    exact .inr (.inr ⟨_, _, rfl⟩)
  · rcases exists_applyEdits_eq_error hlookup with herror | ⟨found, herror⟩
    · exact .inl (Except.error.inj (h.symm.trans herror))
    · exact .inr (.inl ⟨found, Except.error.inj (h.symm.trans herror)⟩)

/-- Of two accumulators over one snapshot the second one comes too late. -/
theorem applyEdits_of_committed {first second : DocumentEdits} {r' : Registry} {t : Text}
    (hbase : second.document = first.document)
    (hversion : first.document.version ≠ some Int32.maxValue)
    (hcommit : r.applyEdits first = .ok r') (ht : first.apply = .ok t)
    (hcalls : ∀ c ∈ calls, c.uri ≠ first.document.uri) :
    let next := some (nextVersion first.document.version)
    (r'.run calls).lookup? first.document.uri = some ⟨⟨first.document.uri, next⟩, t⟩ ∧
    (r'.run calls).applyEdits second
      = .error (.staleSnapshot first.document.uri first.document.version next) := by
  intro next
  obtain ⟨t', ht', rfl⟩ := (r.applyEdits_spec first).2 r' hcommit
  obtain rfl : t' = t := Except.ok.inj (ht'.symm.trans ht)
  have hlookup := lookup?_run_of_ne (r.upsert first.document.uri t' next)
    fun c hc ↦ (hcalls c hc).symm
  rw [lookup?_upsert_self] at hlookup
  have hne : (⟨⟨first.document.uri, next⟩, t'⟩ : Snapshot) ≠ second.document := by
    rw [hbase]
    exact fun heq ↦ some_nextVersion_ne hversion (congrArg Snapshot.version heq)
  have hrefused := applyEdits_of_ne (d := second) (by rw [hbase]; exact hlookup) hne
  rw [hbase] at hrefused
  exact ⟨hlookup, hrefused⟩

/-- **What any series of calls leaves in the registry.**  Each snapshot is kept under its own uri,
and the uris are in ascending order, one for each snapshot.  What is held of a document is what the
last event about it has left: the snapshot that was registered then or that edits led to, or nothing
if it was forgotten.  The next call leaves all documents alone but its own, and does nothing at all
if it is an edit that is refused.  Of two accumulators over one snapshot, whose version is not the
largest, the second one is refused once the first one has been committed, as long as no other call
is about the document, and what the first one wrote stays. -/
theorem run_invariants (calls : List RegistryCall) :
    let r := empty.run calls
    (∀ e ∈ r.documents.entries, e.2.uri = e.1) ∧
    (r.uris.Pairwise (· < ·) ∧ r.uris.length = r.size ∧
      ∀ uri, uri ∈ r.uris ↔ ∃ s, r.lookup? uri = some s) ∧
    (∀ uri, r.lookup? uri = (((empty.events calls).filter fun e ↦ e.uri = uri).getLast?).bind
      RegistryEvent.snapshot?) ∧
    (∀ (c : RegistryCall) (other : String), other ≠ c.uri →
      (c.perform r).lookup? other = r.lookup? other) ∧
    (∀ d e, r.applyEdits d = .error e → (RegistryCall.applyEdits d).perform r = r ∧
      (e = .notOpen d.document.uri ∨
        (∃ found, e = .staleSnapshot d.document.uri d.document.version found) ∨
        ∃ first second, e = .overlappingEdits first second)) ∧
    ∀ (first second : DocumentEdits) (r' : Registry) (between : List RegistryCall),
      second.document = first.document → first.document.version ≠ some Int32.maxValue →
      r.applyEdits first = .ok r' → (∀ c ∈ between, c.uri ≠ first.document.uri) →
      let next := some (nextVersion first.document.version)
      ∃ t, first.apply = .ok t ∧
        (r'.run between).applyEdits second
          = .error (.staleSnapshot first.document.uri first.document.version next) ∧
        ((RegistryCall.applyEdits second).perform (r'.run between)).lookup? first.document.uri
          = some ⟨⟨first.document.uri, next⟩, t⟩ := by
  intro r
  refine ⟨r.keyed, ⟨?_, ?_, r.mem_uris_iff⟩, lookup?_run calls,
    fun c other hne ↦ RegistryCall.lookup?_perform_of_ne r hne, fun d e he ↦ ?_, ?_⟩
  · rw [uris_eq]
    exact List.pairwise_map.2 r.documents.sorted
  · rw [uris_eq]
    exact List.length_map _
  · exact ⟨RegistryCall.perform_of_error he, eq_of_applyEdits_eq_error he⟩
  · intro first second r' between hbase hversion hcommit hbetween next
    obtain ⟨t, ht, -⟩ := (r.applyEdits_spec first).2 r' hcommit
    obtain ⟨hlookup, hrefused⟩ := applyEdits_of_committed hbase hversion hcommit ht hbetween
    refine ⟨t, ht, hrefused, ?_⟩
    rw [RegistryCall.perform_of_error hrefused]
    exact hlookup

/-- Two accumulators over one buffer, with another document removed between their commits. -/
theorem run_invariants_second_commit :
    let opened : Snapshot := ⟨⟨"file:///a", some 1⟩, ['x']⟩
    let first : DocumentEdits := ⟨opened, true, [⟨0, 0, ['y']⟩], 2⟩
    let second : DocumentEdits := ⟨opened, false, [⟨1, 1, ['z']⟩], 1⟩
    let r := empty.run [.upsert "file:///b" ['b'] none, .upsert "file:///a" ['x'] (some 1)]
    ∃ r', r.applyEdits first = .ok r' ∧
      (r'.run [.remove "file:///b"]).applyEdits second
        = .error (.staleSnapshot "file:///a" (some 1) (some 2)) ∧
      ((RegistryCall.applyEdits second).perform (r'.run [.remove "file:///b"])).lookup? "file:///a"
        = some ⟨⟨"file:///a", some 2⟩, ['y', 'x']⟩ := by
  intro opened first second r
  obtain ⟨-, -, -, -, -, hsecond⟩ := run_invariants
    [.upsert "file:///b" ['b'] none, .upsert "file:///a" ['x'] (some 1)]
  have happly : first.apply = .ok ['y', 'x'] :=
    DocumentEdits.apply_of_writes ⟨[], [], ['x'], ['x'], rfl, rfl, rfl, rfl, rfl⟩
  have hcommit : r.applyEdits first = .ok (r.upsert "file:///a" ['y', 'x'] (some 2)) := by
    rw [applyEdits_of_eq rfl, happly]
    rfl
  obtain ⟨t, ht, hrefused, hkept⟩ := hsecond first second _ [.remove "file:///b"] rfl (by decide)
    hcommit (by decide)
  obtain rfl : t = ['y', 'x'] := Except.ok.inj (ht.symm.trans happly)
  exact ⟨_, hcommit, hrefused, hkept⟩

end Registry

end Emend
