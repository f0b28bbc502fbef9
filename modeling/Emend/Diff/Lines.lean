import Emend.Diff.Compaction
import Emend.Diff.Lcs
import Emend.Diff.Patience
import Emend.Diff.Span
import Emend.Text.Line

/-!
# Line diffs

A line diff of two texts is the list of spans that lead from the lines of the one to the lines of
the other.  An `Algorithm` finds an edit script over the diff tokens of the texts, compaction tidies
it, and its changes are the spans.  Anything else that proposes spans for two texts is a `Differ`
too.
-/

set_option autoImplicit false

namespace Emend.Diff

/-- The ways to find an edit script. -/
inductive Algorithm where
  | myers
  | patience
  | lcs
  deriving DecidableEq, Repr

namespace Algorithm

instance : Inhabited Algorithm := ⟨patience⟩

/-- The name of an algorithm. -/
def name : Algorithm → String
  | myers => "myers"
  | patience => "patience"
  | lcs => "lcs"

/-- The script that an algorithm finds, before compaction. -/
def rawScript {α : Type} [DecidableEq α] (a : Algorithm) (old new : List α) : Script α :=
  match a with
  | myers => Diff.myers old new
  | patience => Diff.patience old new
  | lcs => Diff.lcs old new

/-- The script that an algorithm finds. -/
def script {α : Type} [DecidableEq α] (a : Algorithm) (old new : List α) : Script α :=
  compact (a.rawScript old new)

end Algorithm

/-- A source of spans for two texts. -/
abbrev Differ := Text → Text → List Span

/-- The line diff of two texts by an algorithm. -/
def Algorithm.diff (a : Algorithm) : Differ := fun old new ↦
  spansOf (a.script old.diffTokens new.diffTokens)

end Emend.Diff
