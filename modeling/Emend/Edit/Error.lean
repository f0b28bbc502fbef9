import Emend.Interval
import Emend.Text.Basic

/-!
# Failures

The ways in which turning revisions into edits, and edits into text, can fail.
-/

set_option autoImplicit false

namespace Emend

/-- Why an edit or a file could not be worked out. -/
inductive EditError where
  | outOfRange (error : TextError)
  | overlappingEdits (first second : Interval)
  | sourceUnavailable (uri reason : String)
  | identityMismatch (uri : String)
  | staleSnapshot (uri : String) (expected actual : Option Int32)
  | notOpen (uri : String)
  | recipe (id message : String)
  | worker (uri message : String)
  | cancelled
  deriving DecidableEq, Repr

namespace EditError

/-- How a message shows a version that may be absent. -/
def showVersion : Option Int32 → String
  | some v => s!"Some({v.toInt})"
  | none => "None"

/-- The sentence shown for a failure. -/
def message : EditError → String
  | outOfRange error => error.message
  | overlappingEdits first second => s!"edits {first.display} and {second.display} overlap"
  | sourceUnavailable uri reason => s!"source of {uri} unavailable: {reason}"
  | identityMismatch uri => s!"{uri} does not name a file on disk"
  | staleSnapshot uri expected actual =>
    s!"{uri} changed underneath the edits (expected version {showVersion expected}, " ++
      s!"found {showVersion actual})"
  | notOpen uri => s!"{uri} is not open"
  | recipe id text => s!"rewrite recipe {id} failed: {text}"
  | worker uri text => s!"worker for {uri} failed: {text}"
  | cancelled => "workspace edit computation cancelled"

/-- A failed reference into a text as a failure of an edit. -/
def ofText {α : Type} (r : Except TextError α) : Except EditError α := r.mapError outOfRange

end EditError

end Emend
