import Emend.Text.Utf8

/-!
# Paths

A path is a text whose slashes separate names.  It is *absolute* if it starts with a slash, and
otherwise it starts from some directory that goes without saying.

Paths are put together and taken apart as they are written: `Path.join` and `Path.parent` keep dots
and doubled slashes wherever they do not have to touch them.
-/

set_option autoImplicit false

namespace Emend.Path

/-- Whether a path starts at the root. -/
def isAbsolute : Text → Bool
  | '/' :: _ => true
  | _ => false

/-- The path that leads to `path` from a directory.  An absolute path needs no directory. -/
def join (directory path : Text) : Text :=
  if isAbsolute path ∨ directory.isEmpty then path
  else if directory.getLast? = some '/' then directory ++ path
  else directory ++ '/' :: path

/-- A path, given in reverse, without slashes at its end and without dots that stand between
slashes there. -/
def trimReversed : Text → Text
  | '/' :: '.' :: '/' :: p => trimReversed ('/' :: p)
  | '/' :: p => trimReversed p
  | p => p

/-- The directory of a path that ends with the name of a file. -/
def parent (path : Text) : Text :=
  match path.reverse.dropWhile (· ≠ '/') with
  | [] => []
  | directory =>
    match (trimReversed directory).reverse with
    | [] => ['/']
    | directory => directory

end Emend.Path
