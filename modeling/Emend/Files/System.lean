import Emend.ErrorChain
import Emend.Text.Utf8

/-!
# Reading files

A `FileSystem` is what a program knows of the files around it: where it runs, where its user is at
home, and what the files hold.  Its answers come in a monad, so that the same program can run on the
files of a machine and on files that are merely described.
-/

set_option autoImplicit false

namespace Emend

/-- Why the content of a file cannot be had. -/
inductive ReadFailure where
  | notFound
  | notDirectory
  | isDirectory
  | nameTooLong
  /-- The path has a zero character, which no name has. -/
  | zeroInPath
  /-- The content is no text. -/
  | notText
  | other (message : String)
  deriving DecidableEq, Repr

/-- The sentence shown for a failure. -/
def ReadFailure.message : ReadFailure → String
  | notFound => "No such file or directory (os error 2)"
  | notDirectory => "Not a directory (os error 20)"
  | isDirectory => "Is a directory (os error 21)"
  | nameTooLong => "File name too long (os error 36)"
  | zeroInPath => "file name contained an unexpected NUL byte"
  | notText => "stream did not contain valid UTF-8"
  | other message => message

/-- Access to files. -/
structure FileSystem (m : Type → Type) where
  /-- The absolute path of the directory that relative paths start from. -/
  workingDirectory : Text
  /-- The directory of the user. -/
  home : Option Text
  /-- The content of the file that a path leads to. -/
  content : Text → m (Except ReadFailure Bytes)
  /-- Whether a path leads to anything. -/
  leadsSomewhere : Text → m Bool

namespace FileSystem

variable {m : Type → Type} [Monad m]

/-- The text in the file that a path leads to. -/
def text (fs : FileSystem m) (path : Text) : ExceptT ReadFailure m Text := do
  let bytes ← (fs.content path : ExceptT ReadFailure m Bytes)
  match Text.ofUtf8? bytes with
  | some t => return t
  | none => throw .notText

/-- Reads the text in a file, or says that reading it failed. -/
def read (fs : FileSystem m) (path : Text) : ExceptT ErrorChain m Text :=
  ExceptT.adapt (fun e ↦ ⟨s!"reading {String.ofList path}", [e.message]⟩) (fs.text path)

end FileSystem

end Emend
