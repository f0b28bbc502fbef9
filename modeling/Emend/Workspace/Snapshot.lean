import Emend.Change.Basic

/-!
# Snapshots

A `Snapshot` is what a document held at one version.
-/

set_option autoImplicit false

namespace Emend

/-- The content of a document at one version. -/
structure Snapshot where
  identity : DocumentIdentity
  content : Text
  deriving DecidableEq, Repr

namespace Snapshot

/-- The snapshot of a document that no editor owns. -/
def unversioned (uri : String) (content : Text) : Snapshot := ⟨.unversioned uri, content⟩

/-- The name of the document. -/
def uri (s : Snapshot) : String := s.identity.uri

/-- The version of the document. -/
def version (s : Snapshot) : Option Int32 := s.identity.version

/-- Whether an editor owns the document. -/
def isOpen (s : Snapshot) : Bool := s.identity.isOpen

end Snapshot

end Emend
