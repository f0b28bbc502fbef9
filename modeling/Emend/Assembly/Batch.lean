import Emend.Assembly.Outcome

/-!
# Assembling a batch

A batch of revisions becomes one workspace edit.  What the revisions contribute is put together in
their order; a revision that fails is left out, and named, and does not disturb the others.

The same batch can be assembled in three ways:

* `Assembler.assemble`, one revision after the other;
* `Assembler.assembleCancellable`, which looks at a flag before each revision and gives up when the
  flag is set;
* `Assembler.assembleConcurrent`, with a worker for each revision.  The workers finish in any order,
  and one of them may crash.

All three work revisions out with `Assembler.settle` and put the results together with
`Assembler.gather`.  What they may differ in is given by parameters: what each look at the flag
finds, in which order the workers finish, and which loads crash and how that is told.  Whatever
depends on time is in these, and so the result is a function of them.
-/

set_option autoImplicit false

namespace Emend

/-- What became of one revision. -/
structure Settled where
  uri : String
  result : Except EditError FileOutcome

namespace Settled

/-- The changes of a revision that did not fail. -/
def changes (s : Settled) : List FileChange :=
  match s.result with
  | .ok o => o.changes
  | .error _ => []

/-- The report on a revision that did not fail. -/
def report? (s : Settled) : Option FileReport :=
  match s.result with
  | .ok o => o.report
  | .error _ => none

/-- The problem of a revision that failed. -/
def problem? (s : Settled) : Option FileProblem :=
  match s.result with
  | .ok _ => none
  | .error e => some ⟨s.uri, e⟩

end Settled

namespace Assembler

/-- Puts together what became of the revisions of a batch.  The annotation is added if there is
anything to annotate. -/
def gather (a : Assembler) (batch : List Settled) : AssembledEdit :=
  let edit : WorkspaceEdit := ⟨batch.flatMap Settled.changes, .empty⟩
  let edit := match a.options.stamp with
    | some (id, details) => if edit.isEmpty then edit else edit.annotate id details
    | none => edit
  ⟨edit, batch.filterMap Settled.problem?, batch.filterMap Settled.report?⟩

/-- Works out a revision. -/
def settle (a : Assembler) (r : FileRevision) : Settled := ⟨r.uri, a.outcome r⟩

/-- Assembles a batch. -/
def assemble (a : Assembler) (batch : List FileRevision) : AssembledEdit :=
  a.gather (batch.map a.settle)

/-! ## Cancellation

The flag is looked at before each revision and not behind the last one.  What it shows is given by
the number of the revision, so that a flag which is set from outside, at any time, is one of these
functions; `flagSetBy` is that of a flag which loading a document sets. -/

/-- Works out revisions from number `i` on, looking at a flag before each. -/
def settleUntil (a : Assembler) (flag : Nat → Bool) (i : Nat) :
    List FileRevision → Except EditError (List Settled)
  | [] => .ok []
  | r :: batch =>
    if flag i then .error .cancelled
    else do
      let settled := a.settle r
      let rest ← a.settleUntil flag (i + 1) batch
      return settled :: rest

/-- Assembles a batch unless it is cancelled.  The function tells what a look at the flag finds
before the revision of each number. -/
def assembleCancellable (a : Assembler) (flag : Nat → Bool) (batch : List FileRevision) :
    Except EditError AssembledEdit :=
  (a.settleUntil flag 0 batch).map a.gather

/-- What the flag shows before each revision if it starts out as `initial` and loading a certain
document sets it. -/
def flagSetBy (a : Assembler) (initial : Bool) (uri : Option String) (batch : List FileRevision)
    (i : Nat) : Bool :=
  initial || (batch.take i).any fun r ↦ (a.loads? r).isSome && a.loads? r = uri

/-! ## Concurrency

A worker crashes if the loader does, whose crashes are given by uri.  How a crash is told is up to
whoever runs the workers: the text depends on the worker and on the reason, and is taken as it
is. -/

/-- How a crash is told where the numbers of workers are not shown. -/
def tellUnnumbered (_ : Nat) (reason : String) : String :=
  s!"task # panicked with message {Text.quoted reason.toList}"

/-- Works out the revision of a number in a worker of its own. -/
def settleInWorker (a : Assembler) (crash : String → Option String) (tell : Nat → String → String)
    (i : Nat) (r : FileRevision) : Settled :=
  match a.loads? r >>= crash with
  | some reason => ⟨r.uri, .error (.worker r.uri (tell i reason))⟩
  | none => a.settle r

/-- The results of workers that finish in some order, each with the number of its revision. -/
def finished (a : Assembler) (crash : String → Option String) (tell : Nat → String → String)
    (batch : List FileRevision) (order : List Nat) : List (Nat × Settled) :=
  order.filterMap fun i ↦ (batch[i]?).map fun r ↦ (i, a.settleInWorker crash tell i r)

/-- Assembles a batch with a worker for each revision.  The workers finish in some order; one that
the order does not name is waited for.  Their results are put together in the order of the batch. -/
def assembleConcurrent (a : Assembler) (crash : String → Option String) (order : List Nat)
    (batch : List FileRevision) (tell : Nat → String → String := tellUnnumbered) : AssembledEdit :=
  let results := a.finished crash tell batch order
  a.gather (batch.zipIdx.map fun (r, i) ↦
    (results.lookup i).getD (a.settleInWorker crash tell i r))

/-! ## Recipes -/

/-- Runs a recipe and assembles its revisions.  If the engine fails, so does all. -/
def runRecipe (a : Assembler) (engine : RecipeEngine) (request : RecipeRequest) :
    Except EditError AssembledEdit :=
  match engine request with
  | .ok batch => .ok (a.assemble batch)
  | .error e => .error (.recipe request.recipeId e.oneLine)

end Assembler

end Emend
