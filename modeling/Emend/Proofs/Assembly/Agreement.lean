import Emend.Proofs.Assembly.Isolation

/-!
# Three ways to assemble a batch

The three ways of `Emend.Assembly.Batch` lead to one result (`Assembler.assemblies_agree`):

* with a worker for each revision, the order in which the workers finish does not matter
  (`Assembler.assembleConcurrent_eq`), and a worker that crashes takes nothing with it but its own
  revision (`Assembler.gather_settleInWorker`);
* with a flag, either the flag is seen set before some revision, and there is no result, or it never
  is, and there is all of it (`Assembler.assembleCancellable_iff`).

Which loads crash, in which words a crash is told, and in which order the workers finish are
parameters, and the theorem is about all of them.  The words of a crash may name the worker by its
number, so the number of a revision stays with it until the results are gathered.
-/

set_option autoImplicit false

namespace Emend

/-- The result of a single revision that has failed. -/
def AssembledEdit.ofProblem (problem : FileProblem) : AssembledEdit := ⟨.empty, [problem], []⟩

namespace Assembler

variable {a : Assembler} {batch : List FileRevision} {r : FileRevision}

/-! ## Workers

A worker hands in its result under the number of its revision, and the results are put back into the
order of the numbers.  So a revision is looked up among those that have finished, and found there
with the result that its number and the revision determine; where the order forgets a number, the
result is worked out when it is asked for.  Whether a worker crashes is decided by the document that
its revision loads, if it loads one. -/

/-- Why the worker of a revision crashes, if it does. -/
def crash? (a : Assembler) (crash : String → Option String) (r : FileRevision) : Option String :=
  a.loads? r >>= crash

/-- The problem of a revision whose worker has crashed, in the words that the crash is told in. -/
def crashed (r : FileRevision) (text : String) : FileProblem := ⟨r.uri, .worker r.uri text⟩

variable {crash : String → Option String} {tell : Nat → String → String} {i : Nat}

theorem settleInWorker_of_none (h : a.crash? crash r = none) :
    a.settleInWorker crash tell i r = a.settle r := by
  rw [crash?] at h
  rw [settleInWorker, h]

theorem settleInWorker_of_some {reason : String} (h : a.crash? crash r = some reason) :
    a.settleInWorker crash tell i r = ⟨r.uri, .error (crashed r (tell i reason)).error⟩ := by
  rw [crash?] at h
  rw [settleInWorker, h]
  rfl

/-- A worker hands in what has become of the revision of its number. -/
theorem eq_of_lookup_finished {order : List Nat} {s : Settled} (hr : batch[i]? = some r)
    (h : (a.finished crash tell batch order).lookup i = some s) :
    s = a.settleInWorker crash tell i r := by
  obtain ⟨_, _, hsplit, -⟩ := List.lookup_eq_some_iff.1 h
  have hmem : (i, s) ∈ a.finished crash tell batch order := by
    rw [hsplit]
    exact List.mem_append_right _ List.mem_cons_self
  obtain ⟨j, -, hj⟩ := List.mem_filterMap.1 hmem
  obtain ⟨r', hr', hs⟩ := Option.map_eq_some_iff.1 hj
  obtain ⟨rfl, rfl⟩ := Prod.mk.inj hs
  obtain rfl : r' = r := Option.some.inj (hr'.symm.trans hr)
  rfl

/-- **The order in which workers finish does not matter.** -/
theorem assembleConcurrent_eq (a : Assembler) (crash : String → Option String)
    (tell : Nat → String → String) (order : List Nat) (batch : List FileRevision) :
    a.assembleConcurrent crash order batch tell
      = a.gather (batch.zipIdx.map fun p ↦ a.settleInWorker crash tell p.2 p.1) := by
  rw [assembleConcurrent]
  congr 1
  refine List.map_congr_left fun (r, i) hp ↦ ?_
  dsimp only
  cases hlookup : (a.finished crash tell batch order).lookup i with
  | none => rfl
  | some s => exact eq_of_lookup_finished (List.mk_mem_zipIdx_iff_getElem?.1 hp) hlookup

/-- The result of one worker. -/
theorem gather_settleInWorker (a : Assembler) (crash : String → Option String)
    (tell : Nat → String → String) (i : Nat) (r : FileRevision) :
    a.gather [a.settleInWorker crash tell i r] = match a.crash? crash r with
      | some reason => .ofProblem (crashed r (tell i reason))
      | none => a.assemble [r] := by
  cases h : a.crash? crash r with
  | none =>
    rw [settleInWorker_of_none h]
    rfl
  | some reason =>
    rw [settleInWorker_of_some h, gather]
    cases a.options.stamp <;> rfl

/-- Revisions whose workers crash change nothing, from whatever number on the workers are
numbered. -/
theorem changes_settleInWorker (a : Assembler) (crash : String → Option String)
    (tell : Nat → String → String) (batch : List FileRevision) (n : Nat) :
    ((batch.zipIdx n).map fun p ↦ a.settleInWorker crash tell p.2 p.1).flatMap Settled.changes
      = ((batch.filter fun r ↦ (a.crash? crash r).isNone).map a.settle).flatMap
          Settled.changes := by
  induction batch generalizing n with
  | nil => rfl
  | cons r batch ih =>
    rw [List.zipIdx_cons, List.map_cons, List.flatMap_cons, ih, List.filter_cons]
    cases h : a.crash? crash r with
    | none =>
      rw [settleInWorker_of_none h]
      rfl
    | some reason =>
      rw [settleInWorker_of_some h]
      rfl

/-! ## Cancellation

The flag is a function from the number of checks made before to what is seen, so that a flag which
is set at any moment, and even one that is taken back, is among them.  Both directions are
inductions on the batch with the number of the first revision as a variable. -/

/-- A flag that is never seen set changes nothing. -/
theorem settleUntil_of_unset {flag : Nat → Bool} {i : Nat}
    (h : ∀ j < batch.length, flag (i + j) = false) :
    a.settleUntil flag i batch = .ok (batch.map a.settle) := by
  induction batch generalizing i with
  | nil => rfl
  | cons r batch ih =>
    have hfirst : flag i = false := h 0 (Nat.succ_pos _)
    have hrest : ∀ j < batch.length, flag (i + 1 + j) = false := fun j hj ↦ by
      rw [Nat.add_assoc, Nat.add_comm 1 j]
      exact h (j + 1) (Nat.succ_lt_succ hj)
    rw [settleUntil, if_neg (hfirst ▸ Bool.false_ne_true), ih hrest]
    rfl

/-- A flag that is seen set before some revision leaves nothing of the batch. -/
theorem settleUntil_of_set {flag : Nat → Bool} {i j : Nat} (hj : j < batch.length)
    (hset : flag (i + j) = true) : a.settleUntil flag i batch = .error .cancelled := by
  induction batch generalizing i j with
  | nil => exact absurd hj (Nat.not_lt_zero _)
  | cons r batch ih =>
    rw [settleUntil]
    cases hfirst : flag i with
    | true => rfl
    | false =>
      cases j with
      | zero => exact absurd (hset.symm.trans hfirst) (by decide)
      | succ j =>
        rw [Nat.add_comm j 1, ← Nat.add_assoc] at hset
        rw [ih (Nat.lt_of_succ_lt_succ hj) hset]
        rfl

/-- **A batch is assembled as a whole or not at all.** -/
theorem assembleCancellable_iff (a : Assembler) (flag : Nat → Bool) (batch : List FileRevision) :
    (a.assembleCancellable flag batch = .ok (a.assemble batch) ↔
      ∀ i < batch.length, flag i = false) ∧
    (a.assembleCancellable flag batch = .error .cancelled ↔
      ∃ i < batch.length, flag i = true) := by
  rw [assembleCancellable]
  by_cases h : ∃ i < batch.length, flag i = true
  · obtain ⟨i, hi, hset⟩ := h
    rw [settleUntil_of_set hi (by rwa [Nat.zero_add])]
    refine ⟨⟨nofun, fun hunset ↦ ?_⟩, ⟨fun _ ↦ ⟨i, hi, hset⟩, fun _ ↦ rfl⟩⟩
    exact absurd (hset.symm.trans (hunset i hi)) (by decide)
  · have hunset : ∀ i < batch.length, flag i = false := fun i hi ↦
      Bool.eq_false_iff.2 fun hset ↦ h ⟨i, hi, hset⟩
    rw [settleUntil_of_unset (by simpa only [Nat.zero_add] using hunset)]
    exact ⟨⟨fun _ ↦ hunset, fun _ ↦ rfl⟩, ⟨nofun, fun hset ↦ absurd hset h⟩⟩

/-- A flag that loading a document sets is seen set exactly if a revision other than the last one
loads it. -/
theorem exists_flagSetBy_iff (a : Assembler) (uri : String) (batch : List FileRevision) :
    (∃ i < batch.length, a.flagSetBy false (some uri) batch i = true) ↔
      ∃ r ∈ batch.dropLast, a.loads? r = some uri := by
  have hloads : ∀ r, ((a.loads? r).isSome && decide (a.loads? r = some uri)) = true ↔
      a.loads? r = some uri := fun r ↦ by
    rw [Bool.and_eq_true, decide_eq_true_iff, and_iff_right_iff_imp]
    exact fun h ↦ h ▸ rfl
  simp only [flagSetBy, Bool.false_or, List.any_eq_true, hloads]
  rw [List.dropLast_eq_take]
  constructor
  · rintro ⟨i, hi, r, hr, hr'⟩
    exact ⟨r, List.take_subset_take_left batch (Nat.le_sub_one_of_lt hi) hr, hr'⟩
  · rintro ⟨r, hr, hr'⟩
    have hpos : 0 < batch.length := List.length_pos_of_mem (List.mem_of_mem_take hr)
    exact ⟨batch.length - 1, Nat.sub_one_lt_of_lt hpos, r, hr, hr'⟩

/-! ## Agreement -/

/-- **The three ways of assembling a batch agree.**  With workers, each revision contributes what it
contributes alone, whatever the order in which the workers finish; one whose worker crashes
contributes the problem that says so, in the words that the crash is told in, and the edit is that
of the others.  If no worker crashes, the result is that of one revision after the other.  With a
flag, the result is that too unless the flag is set when it is looked at before some revision; then
there is none.  Loading a document for the last revision sets the flag too late. -/
theorem assemblies_agree (a : Assembler) (batch : List FileRevision) :
    (∀ crash tell order,
      (a.assembleConcurrent crash order batch tell).IsJoinOf (batch.zipIdx.map fun p ↦
        match a.crash? crash p.1 with
        | some reason => .ofProblem (crashed p.1 (tell p.2 reason))
        | none => a.assemble [p.1]) ∧
      (a.assembleConcurrent crash order batch tell).edit
        = (a.assemble (batch.filter fun r ↦ (a.crash? crash r).isNone)).edit ∧
      ((∀ r ∈ batch, a.crash? crash r = none) →
        a.assembleConcurrent crash order batch tell = a.assemble batch)) ∧
    (∀ flag : Nat → Bool,
      (a.assembleCancellable flag batch = .ok (a.assemble batch) ↔
        ∀ i < batch.length, flag i = false) ∧
      (a.assembleCancellable flag batch = .error .cancelled ↔
        ∃ i < batch.length, flag i = true)) ∧
    ∀ uri, a.assembleCancellable (a.flagSetBy false (some uri) batch) batch = .error .cancelled ↔
      ∃ r ∈ batch.dropLast, a.loads? r = some uri := by
  refine ⟨fun crash tell order ↦ ?_, fun flag ↦ a.assembleCancellable_iff flag batch,
    fun uri ↦ ?_⟩
  · rw [a.assembleConcurrent_eq crash tell order]
    refine ⟨?_, ?_, fun hnone ↦ ?_⟩
    · have hjoin := a.isJoinOf_gather
        (batch.zipIdx.map fun p ↦ [a.settleInWorker crash tell p.2 p.1])
      rw [← List.flatMap_def, ← List.map_eq_flatMap, List.map_map] at hjoin
      refine (congrArg _ (List.map_congr_left fun p _ ↦ ?_)).mp hjoin
      exact a.gather_settleInWorker crash tell p.2 p.1
    · rw [assemble, gather, gather, changes_settleInWorker]
    · have hsettle : ∀ p ∈ batch.zipIdx, a.settleInWorker crash tell p.2 p.1 = a.settle p.1 :=
        fun p hp ↦ settleInWorker_of_none (hnone p.1 (List.fst_mem_of_mem_zipIdx hp))
      rw [assemble, List.map_congr_left hsettle, ← Function.comp_def, ← List.map_map,
        List.zipIdx_map_fst]
  · rw [(a.assembleCancellable_iff _ batch).2]
    exact a.exists_flagSetBy_iff uri batch

/-- A file whose loading crashes, beside one that is updated.  The worker of the first one crashes
behind the other one.  A flag that this load sets cancels the batch only from the front. -/
theorem assemblies_agree_beside_crash :
    let a := configured .empty (some fun _ ↦ .ok ['x']) ⟨.myers, .utf8, .diff, none⟩
    let crash : String → Option String := fun uri ↦ if uri = "file:///a" then some "boom" else none
    let tell : Nat → String → String := fun i reason ↦ s!"worker {i}: {reason}"
    let loading := FileRevision.updated "file:///a" .deferred ['y']
    let other := FileRevision.updated "file:///b" (.inline ['x']) ['y']
    (a.assembleConcurrent crash [1, 0] [loading, other] tell).edit = (a.assemble [other]).edit ∧
    (a.assembleConcurrent crash [1, 0] [loading, other] tell).problems
      = ⟨"file:///a", .worker "file:///a" "worker 0: boom"⟩
        :: (a.assemble [other]).problems ∧
    a.assembleCancellable (a.flagSetBy false (some "file:///a") [loading, other]) [loading, other]
      = .error .cancelled ∧
    a.assembleCancellable (fun i ↦ decide (2 ≤ i)) [loading, other]
      = .ok (a.assemble [loading, other]) := by
  intro a crash tell loading other
  obtain ⟨hworkers, hflag, hset⟩ := assemblies_agree a [loading, other]
  obtain ⟨hjoin, hedit, -⟩ := hworkers crash tell [1, 0]
  refine ⟨hedit, ?_, (hset "file:///a").2 ⟨loading, List.mem_cons_self, rfl⟩,
    (hflag _).1.2 (by decide)⟩
  have hcrash : a.crash? crash loading = some "boom" := rfl
  have hnone : a.crash? crash other = none := rfl
  have htell : tell 0 "boom" = "worker 0: boom" := by decide +kernel
  simp only [hjoin.problems, List.zipIdx_cons, List.zipIdx_nil, List.map_cons, List.map_nil, hcrash,
    hnone, List.flatMap_cons, List.flatMap_nil, List.append_nil, crashed, htell]
  rfl

end Assembler

end Emend
