import Emend.Proofs.Assembly.Live
import Emend.Proofs.Workspace.History
import Mathlib.Data.List.Induction

/-!
# How a document comes to be open

A document counts as open if the registry has it at a positive version.  That may be the version
that it was registered with, but edits raise the version too, whether the document is open or not.
`Assembler.source_run_iff` says after which calls a document is open, and so hides the text that a
revision supplies.  It is the version of the registration alone that decides, if edits are collected
over open documents only.

A series of calls is cut at the last registration of the document (`Registry.LastRegistered`).
Behind the cut there are only calls that keep the document, and each of these either leaves it alone
or carries out edits on it, which counts the version up by one.

So a document that was registered at version zero, or at none, is open after one edit, and one that
was registered at version minus five is open after six.  `Assembler.source_run_edited_while_closed`
is the first of these in full, from the registration to the update that the next revision is given.
-/

set_option autoImplicit false

namespace Emend

/-- Whether edits were carried out on a document. -/
def RegistryEvent.isCommitTo (e : RegistryEvent) (uri : String) : Bool :=
  match e with
  | committed s => s.uri = uri
  | _ => false

theorem RegistryEvent.uri_of_isCommitTo {e : RegistryEvent} {uri : String}
    (h : e.isCommitTo uri = true) : e.uri = uri := by
  cases e with
  | committed s => exact of_decide_eq_true h
  | registered s => cases h
  | removed uri => cases h

/-- A call neither registers nor forgets a document. -/
def RegistryCall.Keeps (c : RegistryCall) (uri : String) : Prop :=
  c ≠ .remove uri ∧ ∀ content version, c ≠ .upsert uri content version

namespace Registry

variable {r : Registry} {calls : List RegistryCall} {uri : String} {s : Snapshot}

/-! ## Versions

Versions are signed words, and counting up stops at the largest one.  `pos_nextVersion_add` is the
form in which this goes into an induction: whether a version is positive after `n` more edits can be
read off the version before and `n + 1`, as if nothing ever stopped. -/

/-- A version that is absent counts as zero. -/
theorem isOpen_iff (s : Snapshot) : s.isOpen = true ↔ 0 < (s.version.getD 0).toInt := by
  obtain ⟨⟨uri, version⟩, content⟩ := s
  cases version with
  | none =>
    show false = true ↔ 0 < (0 : Int32).toInt
    decide
  | some v =>
    show decide (0 < v) = true ↔ 0 < v.toInt
    rw [decide_eq_true_iff, Int32.lt_iff_toInt_lt, Int32.toInt_zero]

/-- The largest version stays, and is positive. -/
theorem pos_nextVersion_add (v : Option Int32) (n : Nat) :
    0 < (nextVersion v).toInt + n ↔ 0 < (v.getD 0).toInt + (n + 1 : Nat) := by
  by_cases h : v = some Int32.maxValue
  · have hmax : (Int32.maxValue).toInt = 2147483647 := rfl
    have hnext : nextVersion (some Int32.maxValue) = Int32.maxValue := rfl
    rw [h, hnext, Option.getD_some, hmax]
    omega
  · rw [toInt_nextVersion h]
    omega

/-! ## Edits between two registrations

What one call does to a document that it keeps is `step_of_keeps`, and the run lemma
`exists_lookup?_run_of_keeps` follows by induction on the calls, with the number of edits so far
moved into the version.  The number of edits is counted by events and not by calls, since a call
that is refused makes none.

In the other direction, a document that the registry holds was registered at some time: by induction
from the end of the calls, where each call registers the document, forgets it, or keeps it. -/

/-- How often edits were carried out on a document in a series of calls. -/
def commits (r : Registry) (uri : String) (calls : List RegistryCall) : Nat :=
  (r.events calls).countP fun e ↦ e.isCommitTo uri

theorem commits_cons (r : Registry) (uri : String) (c : RegistryCall) (calls : List RegistryCall) :
    r.commits uri (c :: calls)
      = (c.event? r).toList.countP (fun e ↦ e.isCommitTo uri) + (c.perform r).commits uri calls :=
  List.countP_append

theorem commits_cons_of_event {c : RegistryCall} (h : ∀ e ∈ c.event? r, e.uri ≠ uri)
    (calls : List RegistryCall) :
    r.commits uri (c :: calls) = (c.perform r).commits uri calls := by
  rw [commits_cons]
  cases he : c.event? r with
  | none => exact Nat.zero_add _
  | some e =>
    have hcommit : e.isCommitTo uri = false :=
      Bool.eq_false_iff.2 fun hcommit ↦ h e he (RegistryEvent.uri_of_isCommitTo hcommit)
    rw [Option.toList_some, List.countP_singleton, hcommit]
    exact Nat.zero_add _

/-- A call that keeps a document makes an event about it only by editing what is held of it. -/
theorem exists_commit_of_keeps {c : RegistryCall} {e : RegistryEvent} (hkeeps : c.Keeps uri)
    (he : c.event? r = some e) (huri : e.uri = uri) :
    ∃ d t, c = .applyEdits d ∧ r.lookup? d.document.uri = some d.document ∧
      e = .committed ⟨⟨d.document.uri, some (nextVersion d.document.version)⟩, t⟩ := by
  cases c with
  | lookup uri' => cases he
  | upsert uri' content version =>
    obtain rfl := Option.some.inj he
    obtain rfl : uri' = uri := huri
    exact absurd rfl (hkeeps.2 content version)
  | remove uri' =>
    obtain rfl := Option.some.inj he
    obtain rfl : uri' = uri := huri
    exact absurd rfl hkeeps.1
  | applyEdits d =>
    cases hr : r.applyEdits d with
    | error e =>
      rw [RegistryCall.event?, hr] at he
      cases he
    | ok r' =>
      obtain ⟨hlookup, t, ht⟩ := (r.applyEdits_spec d).1.1 ⟨r', hr⟩
      rw [RegistryCall.event?, hr, ht] at he
      exact ⟨d, t, rfl, hlookup, (Option.some.inj he).symm⟩

/-- What a call that keeps a document does to it: nothing, or it edits what is held of it. -/
theorem step_of_keeps {c : RegistryCall} (hkeeps : c.Keeps uri) (h : r.lookup? uri = some s) :
    ((c.perform r).lookup? uri = some s ∧
      ∀ calls, r.commits uri (c :: calls) = (c.perform r).commits uri calls) ∨
    ∃ d t, c = .applyEdits d ∧ d.document = s ∧
      (c.perform r).lookup? uri = some ⟨⟨uri, some (nextVersion s.version)⟩, t⟩ ∧
      ∀ calls, r.commits uri (c :: calls) = (c.perform r).commits uri calls + 1 := by
  by_cases hother : ∀ e ∈ c.event? r, e.uri ≠ uri
  · rw [RegistryCall.lookup?_perform_of_event hother]
    exact .inl ⟨h, commits_cons_of_event hother⟩
  · obtain ⟨e, he, huri⟩ : ∃ e, c.event? r = some e ∧ e.uri = uri := by simpa using hother
    obtain ⟨d, t, rfl, hlookup, rfl⟩ := exists_commit_of_keeps hkeeps he huri
    obtain rfl : d.document.uri = uri := huri
    obtain rfl := Option.some.inj (hlookup.symm.trans h)
    refine .inr ⟨d, t, rfl, rfl, ?_, fun calls ↦ ?_⟩
    · rw [RegistryCall.lookup?_perform, he]
      exact if_pos rfl
    · rw [commits_cons, he, Option.toList_some, List.countP_singleton, Nat.add_comm]
      exact congrArg _ (if_pos (decide_eq_true rfl))

/-- Each edit counts for one version. -/
theorem exists_lookup?_run_of_keeps (h : r.lookup? uri = some s)
    (hkeeps : ∀ c ∈ calls, c.Keeps uri) : ∃ s', (r.run calls).lookup? uri = some s' ∧
      (s'.isOpen = true ↔ 0 < (s.version.getD 0).toInt + r.commits uri calls) := by
  induction calls generalizing r s with
  | nil => exact ⟨s, h, (isOpen_iff s).trans (by simp [commits, events])⟩
  | cons c calls ih =>
    obtain ⟨hc, hcalls⟩ := List.forall_mem_cons.1 hkeeps
    rcases step_of_keeps hc h with ⟨hlookup, hcommits⟩ | ⟨d, t, -, -, hlookup, hcommits⟩
    · rw [hcommits]
      exact ih hlookup hcalls
    · obtain ⟨s', hs', hopen⟩ := ih hlookup hcalls
      refine ⟨s', hs', hopen.trans ?_⟩
      rw [hcommits]
      exact pos_nextVersion_add s.version _

/-- A document that is not open stays so if edits are collected over open documents only. -/
theorem commits_eq_zero (h : r.lookup? uri = some s) (hclosed : s.isOpen = false)
    (hkeeps : ∀ c ∈ calls, c.Keeps uri)
    (hedits : ∀ d, RegistryCall.applyEdits d ∈ calls → d.document.isOpen = true) :
    r.commits uri calls = 0 := by
  induction calls generalizing r with
  | nil => rfl
  | cons c calls ih =>
    obtain ⟨hc, hcalls⟩ := List.forall_mem_cons.1 hkeeps
    rcases step_of_keeps hc h with ⟨hlookup, hcommits⟩ | ⟨d, t, rfl, rfl, -⟩
    · rw [hcommits]
      exact ih hlookup hcalls fun d hd ↦ hedits d (List.mem_cons_of_mem _ hd)
    · exact absurd ((hedits d List.mem_cons_self).symm.trans hclosed) (by decide)

/-- A document was last registered at a version, has not been forgotten, and was edited a number of
times since. -/
inductive LastRegistered (uri : String) : List RegistryCall → Option Int32 → Nat → Prop where
  | intro (earlier : List RegistryCall) (content : Text) (version : Option Int32)
      (later : List RegistryCall) (hlater : ∀ c ∈ later, c.Keeps uri) :
    LastRegistered uri (earlier ++ .upsert uri content version :: later) version
      (((empty.run earlier).upsert uri content version).commits uri later)

theorem LastRegistered.lookup? {version : Option Int32} {n : Nat}
    (h : LastRegistered uri calls version n) : ∃ s, (empty.run calls).lookup? uri = some s ∧
      (s.isOpen = true ↔ 0 < (version.getD 0).toInt + n) := by
  obtain ⟨earlier, content, version, later, hlater⟩ := h
  obtain ⟨s, hs, hopen⟩ := exists_lookup?_run_of_keeps
    (lookup?_upsert_self (empty.run earlier) uri content version) hlater
  rw [run, List.foldl_append]
  exact ⟨s, hs, hopen⟩

theorem LastRegistered.eq_zero {version : Option Int32} {n : Nat}
    (h : LastRegistered uri calls version n) (hclosed : ¬ 0 < (version.getD 0).toInt)
    (hedits : ∀ d, RegistryCall.applyEdits d ∈ calls → d.document.isOpen = true) : n = 0 := by
  obtain ⟨earlier, content, version, later, hlater⟩ := h
  refine commits_eq_zero (lookup?_upsert_self _ _ _ _) ?_ hlater fun d hd ↦
    hedits d (List.mem_append_right _ (List.mem_cons_of_mem _ hd))
  exact Bool.eq_false_iff.2 (mt (isOpen_iff _).1 hclosed)

/-- A document comes to be registered only by a registration. -/
theorem lookup?_perform_of_none {c : RegistryCall} (hkeeps : c.Keeps uri)
    (h : r.lookup? uri = none) : (c.perform r).lookup? uri = none := by
  refine (RegistryCall.lookup?_perform_of_event fun e he huri ↦ ?_).trans h
  obtain ⟨d, t, rfl, hlookup, rfl⟩ := exists_commit_of_keeps hkeeps he huri
  obtain rfl : d.document.uri = uri := huri
  cases hlookup.symm.trans h

theorem LastRegistered.concat {version : Option Int32} {n : Nat} {c : RegistryCall}
    (h : LastRegistered uri calls version n) (hkeeps : c.Keeps uri) :
    ∃ m, LastRegistered uri (calls ++ [c]) version m := by
  obtain ⟨earlier, content, version, later, hlater⟩ := h
  rw [List.append_assoc, List.cons_append]
  refine ⟨_, .intro earlier content version (later ++ [c]) fun c' hc' ↦ ?_⟩
  rcases List.mem_append.1 hc' with hc' | hc'
  · exact hlater c' hc'
  · exact List.mem_singleton.1 hc' ▸ hkeeps

/-- What the registry holds was registered at some time. -/
theorem exists_lastRegistered (h : (empty.run calls).lookup? uri = some s) :
    ∃ version n, LastRegistered uri calls version n := by
  induction calls using List.reverseRecOn generalizing s with
  | nil => cases h
  | append_singleton calls c ih =>
    rw [run, List.foldl_append] at h
    change (c.perform (empty.run calls)).lookup? uri = some s at h
    by_cases hkeeps : c.Keeps uri
    · cases hlookup : (empty.run calls).lookup? uri with
      | none => cases (lookup?_perform_of_none hkeeps hlookup).symm.trans h
      | some s' =>
        obtain ⟨version, n, hregistered⟩ := ih hlookup
        exact ⟨version, hregistered.concat hkeeps⟩
    · by_cases hremove : c = .remove uri
      · rw [hremove, RegistryCall.perform, lookup?_remove_self] at h
        cases h
      · obtain ⟨content, version, rfl⟩ : ∃ content version, c = .upsert uri content version := by
          by_contra hupsert
          exact hkeeps ⟨hremove, fun content version hc ↦ hupsert ⟨content, version, hc⟩⟩
        exact ⟨version, _, .intro calls content version [] fun _ hc ↦ absurd hc List.not_mem_nil⟩

/-- **A document is open exactly if the version that it was last registered with, together with the
number of edits since, is positive.** -/
theorem exists_isOpen_iff (calls : List RegistryCall) (uri : String) :
    (∃ s, (empty.run calls).lookup? uri = some s ∧ s.isOpen = true) ↔
      ∃ version n, LastRegistered uri calls version n ∧ 0 < (version.getD 0).toInt + n := by
  constructor
  · rintro ⟨s, hs, hopen⟩
    obtain ⟨version, n, hregistered⟩ := exists_lastRegistered hs
    obtain ⟨s', hs', hiff⟩ := hregistered.lookup?
    obtain rfl : s' = s := Option.some.inj (hs'.symm.trans hs)
    exact ⟨version, n, hregistered, hiff.1 hopen⟩
  · rintro ⟨version, n, hregistered, hpos⟩
    obtain ⟨s, hs, hiff⟩ := hregistered.lookup?
    exact ⟨s, hs, hiff.2 hpos⟩

end Registry

namespace Assembler

/-! ## Open documents and sources -/

theorem exists_source_eq_live_iff (a : Assembler) (uri : String) (before : SourceText) :
    (∃ s v, a.source uri before = .live s v) ↔
      ∃ s, a.registry.lookup? uri = some s ∧ s.isOpen = true := by
  constructor
  · rintro ⟨s, v, h⟩
    obtain ⟨hlookup, -, hopen⟩ := source_eq_live_iff.1 h
    exact ⟨s, hlookup, hopen⟩
  · rintro ⟨⟨⟨uri', version⟩, content⟩, hlookup, hopen⟩
    cases version with
    | none => cases hopen
    | some v => exact ⟨_, v, source_eq_live_iff.2 ⟨hlookup, rfl, hopen⟩⟩

/-- **How a document comes to be open, and to hide the text that a revision supplies.**  It is open
exactly if the version that it was last registered with, together with the number of edits that were
carried out on it since, is positive; an absent version counts as zero.  Then what the registry
holds is taken instead of the text that is supplied.  If edits are collected over open documents
only, a document is open exactly if it was last registered with a positive version. -/
theorem source_run_iff (calls : List RegistryCall) (uri : String) (loader : Option Loader)
    (options : AssembleOptions) (before : SourceText) :
    let registry := Registry.empty.run calls
    ((∃ s, registry.lookup? uri = some s ∧ s.isOpen = true) ↔
      ∃ version n, Registry.LastRegistered uri calls version n ∧
        0 < (version.getD 0).toInt + n) ∧
    ((∃ s v, (configured registry loader options).source uri before = .live s v) ↔
      ∃ s, registry.lookup? uri = some s ∧ s.isOpen = true) ∧
    ((∀ d, RegistryCall.applyEdits d ∈ calls → d.document.isOpen = true) →
      ((∃ s, registry.lookup? uri = some s ∧ s.isOpen = true) ↔
        ∃ v n, Registry.LastRegistered uri calls (some v) n ∧ 0 < v)) := by
  intro registry
  refine ⟨Registry.exists_isOpen_iff calls uri, exists_source_eq_live_iff _ uri before,
    fun hedits ↦ (Registry.exists_isOpen_iff calls uri).trans ?_⟩
  constructor
  · rintro ⟨version, n, hregistered, hpos⟩
    have hversion : 0 < (version.getD 0).toInt := by
      by_contra hclosed
      rw [hregistered.eq_zero hclosed hedits] at hpos
      exact hclosed (by simpa using hpos)
    cases version with
    | none => exact absurd hversion (by decide)
    | some v => exact ⟨v, n, hregistered, Int32.lt_iff_toInt_lt.2 hversion⟩
  · rintro ⟨v, n, hregistered, hpos⟩
    have hversion : 0 < v.toInt := Int32.lt_iff_toInt_lt.1 hpos
    exact ⟨some v, n, hregistered, by rw [Option.getD_some]; omega⟩

/-- A document that was registered as not open is open after an edit.  It hides the text that the
next revision supplies, and lends its version to the update. -/
theorem source_run_edited_while_closed :
    let d : DocumentEdits := ⟨⟨⟨"file:///a", some 0⟩, ['x']⟩, false, [⟨1, 1, ['y']⟩], 1⟩
    let calls := [.upsert "file:///a" ['x'] (some 0), .applyEdits d]
    let registry := Registry.empty.run calls
    let a := configured registry none ⟨.patience, .utf32, .wholeDocument, none⟩
    let r := FileRevision.updated "file:///a" (.inline ['x']) ['z']
    (∀ uri content version, .upsert uri content version ∈ calls → version = some 0) ∧
    registry.lookup? "file:///a" = some ⟨⟨"file:///a", some 1⟩, ['x', 'y']⟩ ∧
    DocumentIdentity.isOpen ⟨"file:///a", some 1⟩ = true ∧
    a.source "file:///a" (.inline ['x']) = .live ⟨⟨"file:///a", some 1⟩, ['x', 'y']⟩ 1 ∧
    (a.assemble [r]).edit.changes
      = [.update ⟨"file:///a", some 1⟩ [a.wholeDocumentEdit ['x', 'y'] ['z']]] ∧
    (a.assemble [r]).reports.map FileReport.source = [.liveSnapshot 1] := by
  intro d calls registry a r
  have happly : d.apply = .ok ['x', 'y'] :=
    DocumentEdits.apply_of_writes ⟨['x'], [], [], [], rfl, rfl, rfl, rfl, rfl⟩
  have hcommit : (RegistryCall.applyEdits d).perform
      (Registry.empty.upsert "file:///a" ['x'] (some 0))
        = (Registry.empty.upsert "file:///a" ['x'] (some 0)).upsert "file:///a" ['x', 'y']
            (some 1) := by
    refine RegistryCall.perform_of_ok ?_
    rw [Registry.applyEdits_of_eq rfl, happly]
    rfl
  have hlookup : registry.lookup? r.uri = some ⟨⟨r.uri, some 1⟩, ['x', 'y']⟩ := by
    show ((RegistryCall.applyEdits d).perform
      (Registry.empty.upsert "file:///a" ['x'] (some 0))).lookup? _ = _
    rw [hcommit]
    exact Registry.lookup?_upsert_self _ _ _ _
  have hspans : a.differ ['x', 'y'] ['z'] ≠ [] := mt Diff.Algorithm.eq_of_diff_eq_nil (by decide)
  have houtcome := outcome_of_open (a := a) (r := r) hlookup (by decide) rfl rfl rfl
    (computeEdits_of_wholeDocument rfl hspans)
  refine ⟨?_, hlookup, by decide, source_of_open hlookup (by decide) _, ?_, ?_⟩
  · intro uri content version hmem
    obtain ⟨-, -, hversion⟩ : uri = "file:///a" ∧ content = ['x'] ∧ version = some 0 := by
      simpa [calls] using hmem
    exact hversion
  · rw [assemble, changes_gather, List.map_singleton, settle, houtcome]
    rfl
  · rw [assemble, List.map_singleton, settle, houtcome]
    rfl

end Assembler

end Emend
