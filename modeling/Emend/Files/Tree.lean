import Emend.Files.Path
import Emend.Files.System

/-!
# File trees

A `FileTree` describes files and directories by the places where they are.  `FileTree.place?` takes
the steps of a path through the tree, and `FileTree.toFileSystem` makes the tree answer like the
files of a machine.

A *place* is the list of the names on the way from the root.  All that is on the way to a file or a
directory is a directory as well.
-/

set_option autoImplicit false

namespace Emend

/-- What is at a place. -/
inductive FileNode where
  | file (content : Bytes)
  | directory
  deriving DecidableEq, Repr

/-- The files and directories of a machine. -/
structure FileTree where
  nodes : List (List Text × FileNode)

namespace FileTree

/-- What is at a place. -/
def node? (t : FileTree) (place : List Text) : Option FileNode :=
  match t.nodes.find? fun n ↦ n.1 = place with
  | some n => some n.2
  | none =>
    if place.isEmpty || t.nodes.any fun n ↦ place.isPrefixOf n.1 then some .directory else none

/-- The length in bytes that no name exceeds. -/
def nameLimit : Nat := 255

/-- The length in bytes that no path reaches. -/
def pathLimit : Nat := 4096

/-- The place that a step leads to.  Only a directory can be left. -/
def step (t : FileTree) (here : List Text) (name : Text) : Except ReadFailure (List Text) :=
  match t.node? here with
  | none => .error .notFound
  | some (.file _) => .error .notDirectory
  | some .directory =>
    if name = [] ∨ name = ['.'] then .ok here
    else if name = ['.', '.'] then .ok here.dropLast
    else if nameLimit < name.byteLen then .error .nameTooLong
    else .ok (here ++ [name])

/-- The place that a path leads to, where there need not be anything. -/
def place? (t : FileTree) (workingDirectory path : Text) : Except ReadFailure (List Text) :=
  if path.contains '\x00' then .error .zeroInPath
  else if path.isEmpty then .error .notFound
  else if pathLimit ≤ path.byteLen then .error .nameTooLong
  else ((Path.join workingDirectory path).splitOn '/').foldlM t.step []

/-- The content of the file that a path leads to. -/
def content (t : FileTree) (workingDirectory path : Text) : Except ReadFailure Bytes := do
  match t.node? (← t.place? workingDirectory path) with
  | some (.file bytes) => return bytes
  | some .directory => throw .isDirectory
  | none => throw .notFound

/-- Whether a path leads to a file or a directory. -/
def leadsSomewhere (t : FileTree) (workingDirectory path : Text) : Bool :=
  match t.place? workingDirectory path with
  | .ok place => (t.node? place).isSome
  | .error _ => false

/-- A program's access to the tree. -/
def toFileSystem (t : FileTree) (workingDirectory : Text) (home : Option Text) : FileSystem Id :=
  ⟨workingDirectory, home, t.content workingDirectory, t.leadsSomewhere workingDirectory⟩

end FileTree

end Emend
