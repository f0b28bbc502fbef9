import Emend.Uri.Host.Basic

/-!
# The path of a URI

A URI is read as web browsers read it: blanks and controls around it do not count, nor do tabs and
line breaks within it; in the schemes that browsers know (`special`) a backslash is a slash; and
dots between slashes are steps, of which `..` does not climb above the root.

`localSegments?` gives the path of a URI as the list of its segments, for a URI whose path is
hierarchical and whose host is this machine: no host, an empty one, or `localhost`.  The scheme does
not matter otherwise.

There is one place where a line break counts: behind a drive letter that the path of a file starts
with.  So the characters of a URI are kept as `Glyph`s, which know of the line breaks before them.
-/

set_option autoImplicit false

namespace Emend.Uri

/-! ## Characters

Tabs and line breaks are taken out of a URI before anything else is looked at, so that they may even
part the letters of its scheme. -/

/-- A character of a URI that counts. -/
structure Glyph where
  char : Char
  /-- Whether a tab or a line break stands right before it. -/
  isDetached : Bool
  deriving DecidableEq, Repr

/-- The characters of some glyphs. -/
def plain (t : List Glyph) : Text := t.map Glyph.char

/-- Whether a character is a control or a blank, which do not count around a URI. -/
def isOuterBlank (c : Char) : Bool := c.toNat ≤ 0x20

/-- Whether a character is a tab or a line break, which do not count within a URI. -/
def isInnerBlank (c : Char) : Bool := c = '\t' || c = '\n' || c = '\r'

/-- The glyphs of a text, behind a line break or not. -/
def glyphsFrom (isDetached : Bool) : Text → List Glyph
  | [] => []
  | c :: t => if isInnerBlank c then glyphsFrom true t else ⟨c, isDetached⟩ :: glyphsFrom false t

/-- The characters of a URI that count. -/
def glyphs (t : Text) : List Glyph :=
  glyphsFrom false ((t.dropWhile isOuterBlank).reverse.dropWhile isOuterBlank).reverse

/-- Whether a character is an ASCII letter. -/
def isLetter (c : Char) : Bool := ('a' ≤ c && c ≤ 'z') || ('A' ≤ c && c ≤ 'Z')

/-- Whether a character is an ASCII digit. -/
def isDigit (c : Char) : Bool := '0' ≤ c && c ≤ '9'

/-- Whether a text is a drive letter, which a colon or a bar follows. -/
def isDriveLetter : Text → Bool
  | [c, mark] => isLetter c && (mark = ':' || mark = '|')
  | _ => false

/-! ## Scheme -/

/-- The kinds of schemes, which differ in what may follow them. -/
inductive Scheme where
  | file
  | special
  | other
  deriving DecidableEq, Repr

/-- The kind of a scheme by its name, in lower case. -/
def Scheme.ofName (name : Text) : Scheme :=
  let name := String.ofList name
  if name = "file" then file
  else if ["http", "https", "ws", "wss", "ftp"].contains name then special
  else other

/-- Whether a backslash is a slash. -/
def Scheme.foldsBackslash : Scheme → Bool
  | other => false
  | _ => true

/-- Whether a character separates segments of a path. -/
def Scheme.isSlash (s : Scheme) (c : Char) : Bool := c = '/' || (s.foldsBackslash && c = '\\')

/-- Whether a character may stand in a scheme behind its first one. -/
def isSchemeChar (c : Char) : Bool := isLetter c || isDigit c || c = '+' || c = '-' || c = '.'

/-- The scheme of a URI, which starts with a letter, and what follows its colon. -/
def splitScheme? (t : List Glyph) : Option (Scheme × List Glyph) :=
  let name := plain (t.takeWhile fun g ↦ isSchemeChar g.char)
  match name, t.drop name.length with
  | c :: _, ⟨':', _⟩ :: rest =>
    if isLetter c then some (.ofName (name.map Char.toLower), rest) else none
  | _, _ => none

/-! ## Path

A path is walked along segment by segment.  The walk is a state machine with two special states: in
the path of a file the first segment may be a drive letter, which is put into a fixed form and which
no later step climbs out of; and the last segment has no slash behind it, so a dot there leaves an
empty segment instead of none. -/

/-- Splits a path at its slashes.  What starts a query or a fragment ends it. -/
def splitPath (s : Scheme) : List Glyph → List (List Glyph)
  | [] => [[]]
  | g :: t =>
    if g.char = '?' ∨ g.char = '#' then [[]]
    else if s.isSlash g.char then [] :: splitPath s t
    else (splitPath s t).modifyHead (g :: ·)

/-- A segment with escaped dots put in plain. -/
def plainDots : Text → Text
  | '%' :: '2' :: 'e' :: t => '.' :: plainDots t
  | '%' :: '2' :: 'E' :: t => '.' :: plainDots t
  | c :: t => c :: plainDots t
  | [] => []

/-- Whether a segment stays where it is. -/
def isSingleDot (segment : Text) : Bool := plainDots segment = ['.']

/-- Whether a segment climbs. -/
def isDoubleDot (segment : Text) : Bool := plainDots segment = ['.', '.']

/-- A walk along a path. -/
structure Walk where
  /-- The segments gone into, in reverse order. -/
  done : List Text
  /-- Whether the path of a file has turned out to start with a drive letter. -/
  hasDrive : Bool
  deriving DecidableEq, Repr

namespace Walk

/-- At the root. -/
def start : Walk := ⟨[], false⟩

/-- Whether a segment starts like a drive letter, which is not left. -/
def isKept : Text → Bool
  | [c, mark] => isDriveLetter [c, mark]
  | c :: mark :: '\\' :: _ => isDriveLetter [c, mark]
  | _ => false

/-- Climbs out of the last segment. -/
def climb (w : Walk) : Walk :=
  match w.done with
  | [] => w
  | last :: rest => if isKept last then w else { w with done := rest }

/-- Goes into the first segment of the path of a file.  A drive letter is spelt with a colon, and
one in front of a line break is a segment of its own, whatever follows. -/
def enterFirst (segment : List Glyph) : Walk :=
  match plain segment, segment with
  | [c, mark], _ =>
    if isDriveLetter [c, mark] then ⟨[[c, ':']], true⟩ else ⟨[[c, mark]], false⟩
  | name, c :: ⟨':', _⟩ :: ⟨d, true⟩ :: rest =>
    if isLetter c.char then ⟨[d :: plain rest, [c.char, ':']], false⟩ else ⟨[name], false⟩
  | name, _ => ⟨[name], false⟩

/-- Goes into a segment. -/
def enter (s : Scheme) (w : Walk) (segment : List Glyph) : Walk :=
  if s = .file ∧ w.done.isEmpty then enterFirst segment
  else { w with done := plain segment :: w.done }

/-- Takes a step, behind which a slash follows. -/
def step (s : Scheme) (w : Walk) (segment : List Glyph) : Walk :=
  if isDoubleDot (plain segment) then w.climb
  else if isSingleDot (plain segment) then w
  else w.enter s segment

/-- Takes the last step.  A dot at the end leaves an empty segment. -/
def finish (s : Scheme) (w : Walk) (segment : List Glyph) : Walk :=
  let v := w.step s segment
  if isDoubleDot (plain segment) || isSingleDot (plain segment) then { v with done := [] :: v.done }
  else v

/-- Walks along segments. -/
def along (s : Scheme) (w : Walk) : List (List Glyph) → Walk
  | [] => w
  | [last] => w.finish s last
  | segment :: rest => along s (w.step s segment) rest

/-- The walk along the path that a text writes down. -/
def ofPath (s : Scheme) (t : List Glyph) : Walk := along s start (splitPath s t)

/-- The segments gone into. -/
def segments (w : Walk) : List Text := w.done.reverse

end Walk

/-- A path without the empty segments at its start, all of which a single slash stands for. -/
def dropEmptySegments : List Text → List Text
  | [] :: s :: rest => dropEmptySegments (s :: rest)
  | segments => segments

/-! ## Authority -/

/-- Whether a character ends the authority of a URI. -/
def Scheme.endsAuthority (s : Scheme) (c : Char) : Bool := s.isSlash c || c = '?' || c = '#'

/-- Splits what follows the slashes of a URI where the authority ends. -/
def splitAuthority (s : Scheme) (t : List Glyph) : List Glyph × List Glyph :=
  let authority := t.takeWhile fun g ↦ !s.endsAuthority g.char
  (authority, t.drop authority.length)

/-- The text before the last `@`, if there is one, and the text behind it. -/
def splitUser (authority : List Glyph) : Option (List Glyph) × List Glyph :=
  if (plain authority).contains '@' then
    let host := (authority.reverse.takeWhile fun g ↦ g.char ≠ '@').reverse
    (some (authority.take (authority.length - host.length - 1)), host)
  else (none, authority)

/-- What follows the service behind a host: a colon and digits that make up a number of 16 bits, or
nothing at all.  The authority ends there, and a backslash may follow the digits. -/
def behindService? : List Glyph → Option (List Glyph)
  | [] => some []
  | _ :: t =>
    let digits := t.takeWhile fun g ↦ isDigit g.char
    let rest := t.drop digits.length
    if 65536 ≤ digits.foldl (fun n g ↦ 10 * n + (g.char.toNat - 48)) 0 then none
    else
      match rest with
      | [] => some []
      | g :: _ => if g.char = '\\' then some rest else none

/-- Whether a text is this machine as a host.  Other schemes do not spell hosts in several ways. -/
def isLocalHost (s : Scheme) (host : Text) : Bool :=
  if s = .other then host = "localhost".toList else Host.parse? host = some .localhost

/-- What follows an authority that names this machine.  A special scheme needs a host; another one
may have an empty host, but then nothing around it. -/
def behindAuthority? (s : Scheme) (t : List Glyph) : Option (List Glyph) := do
  let (authority, rest) := splitAuthority s t
  let (user, place) := splitUser authority
  let host := place.takeWhile fun g ↦ g.char ≠ ':'
  let service := place.drop host.length
  if host.isEmpty then
    let isBare := service.isEmpty && (user.all fun u ↦ plain u = [':'])
    if s = .other ∧ isBare then some rest else none
  else if isLocalHost s (plain host) then return (← behindService? service) ++ rest
  else none

/-! ## The whole -/

/-- The walk along the path of a file with an authority, from what follows its two slashes.  A drive
letter may stand in place of the host, and a path that starts with one needs no host. -/
def hostedFileWalk? (t : List Glyph) : Option Walk :=
  let (host, rest) := splitAuthority .file t
  if isDriveLetter (plain host) then some (.ofPath .file t)
  else if host.isEmpty then some (.ofPath .file rest)
  else
    match Host.parse? (plain host) with
    | none => none
    | some h =>
      if h = .localhost then some (.ofPath .file rest)
      else
        let path := match rest with
          | g :: path => if Scheme.file.isSlash g.char then path else rest
          | [] => []
        some (.ofPath .file path) |>.filter Walk.hasDrive

/-- The segments of the path of a file, from what follows its scheme. -/
def fileSegments? (t : List Glyph) : Option (List Text) :=
  let walk := match t with
    | a :: b :: rest =>
      if Scheme.file.isSlash a.char && Scheme.file.isSlash b.char then hostedFileWalk? rest
      else some (.ofPath .file (if Scheme.file.isSlash a.char then b :: rest else t))
    | [a] => some (.ofPath .file (if Scheme.file.isSlash a.char then [] else t))
    | [] => some (.ofPath .file [])
  walk.map fun w ↦ dropEmptySegments w.segments

/-- The segments of the path of a URI with an authority, from what follows its slashes.  Where no
path follows the authority, a special scheme has the root and another one has no path. -/
def authoritySegments? (s : Scheme) (t : List Glyph) : Option (List Text) := do
  match ← behindAuthority? s t with
  | [] => if s = .special then some [[]] else none
  | g :: path =>
    if s.isSlash g.char then some (Walk.ofPath s path).segments
    else if s = .special then some [[]]
    else if g.char = '\\' then some (Walk.ofPath s (g :: path)).segments
    else none

/-- The segments of the path of a URI that names a place on this machine. -/
def localSegments? (uri : Text) : Option (List Text) :=
  match splitScheme? (glyphs uri) with
  | none => none
  | some (.file, rest) => fileSegments? rest
  | some (.special, rest) =>
    authoritySegments? .special (rest.dropWhile fun g ↦ Scheme.special.isSlash g.char)
  | some (.other, ⟨'/', _⟩ :: ⟨'/', _⟩ :: rest) => authoritySegments? .other rest
  | some (.other, ⟨'/', _⟩ :: path) => some (Walk.ofPath .other path).segments
  | some (.other, _) => none

end Emend.Uri
