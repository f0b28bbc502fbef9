import Emend.Uri.Path

/-!
# Files and their URIs

`ofPath?` gives the URI of an absolute path, and `toPath?` the path that a URI names.  A path is a
string of bytes, which need not be text.
-/

set_option autoImplicit false

namespace Emend.Uri

/-! ## From path to URI -/

/-- The bytes of a path that its URI spells as escapes: controls, blanks, everything beyond ASCII,
and the marks that have a meaning in a URI or are likely to get lost. -/
def isEscapedInPath (b : UInt8) : Bool :=
  b ≤ 0x20 || 0x7f ≤ b || "\"#%/<>?\\`\x7b\x7d".toList.any fun c ↦ c.toNat = b.toNat

/-- The components of a path: the parts between its slashes that are neither empty nor a dot. -/
def components (path : Text) : List Text :=
  (path.splitOn '/').filter fun c ↦ !c.isEmpty && c ≠ ['.']

/-- The `file` URI of an absolute path. -/
def ofPath? (path : Text) : Option Text :=
  match path with
  | '/' :: _ =>
    let body := (components path).flatMap fun c ↦ '/' :: percentEncode isEscapedInPath c
    some ("file://".toList ++ if body.isEmpty then ['/'] else body)
  | _ => none

/-- The sentence shown for a path that has no URI. -/
def noUriMessage (path : Text) : String :=
  s!"cannot convert path to file URI: {String.ofList path}"

/-! ## From URI to path -/

/-- The bytes that segments of a path spell, each behind a slash. -/
def bytesOfSegments (segments : List Text) : Bytes :=
  segments.flatMap fun s ↦ 47 :: percentDecode s.utf8

/-- Adds the slash that a drive letter at the end of a path needs. -/
def closeDriveLetter (path : Bytes) : Bytes :=
  match path.reverse with
  | mark :: letter :: _ :: _ =>
    if isLetter (Char.ofNat letter.toNat) && (mark = 58 || mark = 124) then path ++ [47] else path
  | _ => path

/-- The path that a URI names, as bytes. -/
def toPath? (uri : Text) : Option Bytes :=
  (localSegments? uri).map fun segments ↦ closeDriveLetter (bytesOfSegments segments)

/-- Whether a URI names a file. -/
def namesFile (uri : String) : Bool := (localSegments? uri.toList).isSome

end Emend.Uri
