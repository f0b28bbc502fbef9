import Emend.Toml.Quoted
import Emend.Toml.Scalar
import Emend.Toml.Table

/-!
# Reading a settings file

A settings file is a list of lines: headers of tables, keys with values, comments and blank lines.
`Toml.parse?` gives the table that the whole file describes, as a JSON object.

Arrays and tables that are written as values may go over several lines, with comments, and may end
with a comma.  They are nested at most 80 levels deep, and dotted keys have at most 80 parts.
-/

set_option autoImplicit false

namespace Emend.Toml

/-! ## Blanks and comments -/

/-- The text behind a comment, at the line break that ends it.  A comment has no control
characters. -/
def comment? : Text → Option Text
  | [] => some []
  | c :: t =>
    if (lineBreak? (c :: t)).isSome then some (c :: t)
    else if isPlain c then comment? t
    else none

/-- The text behind blanks, line breaks and comments. -/
def skipFiller? (fuel : Nat) (t : Text) : Option Text :=
  match fuel with
  | 0 => none
  | fuel + 1 =>
    match skipBlankLines t with
    | '#' :: t => comment? t >>= skipFiller? fuel
    | t => some t

/-- The text behind the end of a line: blanks, a comment, and a line break or the end of the
text. -/
def endOfLine? (t : Text) : Option Text := do
  let t ← match t.dropWhile isBlank with
    | '#' :: t => comment? t
    | t => some t
  match t with
  | [] => some []
  | t => lineBreak? t

/-! ## Values -/

/-- Whether a character ends a scalar. -/
def endsScalar (c : Char) : Bool :=
  c = ',' || c = ']' || c = '\x7d' || c = '#' || c = '\n' || c = '\r'

/-- Reads a scalar.  Blanks in front of what ends it are not its own. -/
def scalarValue? (t : Text) : Option (Json × Text) :=
  let run := t.takeWhile fun c ↦ !endsScalar c
  let body := (run.reverse.dropWhile isBlank).reverse
  (scalar? body).map fun v ↦ (v, t.drop body.length)

mutual

/-- Reads a value that may have `depth` levels. -/
def value? (fuel depth : Nat) (t : Text) : Option (Json × Text) :=
  match fuel with
  | 0 => none
  | fuel + 1 =>
    match t with
    | '[' :: t => if depth = 0 then none else items? fuel (depth - 1) [] t
    | '\x7b' :: t => if depth = 0 then none else pairs? fuel (depth - 1) [] t
    | '"' :: _ | '\'' :: _ => (string? t).map fun (s, rest) ↦ (.str (String.ofList s), rest)
    | t => scalarValue? t

/-- Reads the items of an array, behind those read so far, which are in reverse order. -/
def items? (fuel depth : Nat) (done : List Json) (t : Text) : Option (Json × Text) :=
  match fuel with
  | 0 => none
  | fuel + 1 => do
    match ← skipFiller? (t.length + 1) t with
    | ']' :: t => some (.arr done.reverse, t)
    | t =>
      let (v, t) ← value? fuel depth t
      match ← skipFiller? (t.length + 1) t with
      | ',' :: t => items? fuel depth (v :: done) t
      | ']' :: t => some (.arr (v :: done).reverse, t)
      | _ => none

/-- Reads the keys and values of a table, behind the members read so far.  Line breaks and comments
may stand on both sides of the equals sign. -/
def pairs? (fuel depth : Nat) (done : Members) (t : Text) : Option (Json × Text) :=
  match fuel with
  | 0 => none
  | fuel + 1 => do
    match ← skipFiller? (t.length + 1) t with
    | '\x7d' :: t => some (done.toJson, t)
    | t =>
      let (path, t) ← keyPath? keyLimit t
      match ← skipFiller? (t.length + 1) t with
      | '=' :: t =>
        let (v, t) ← value? fuel depth (← skipFiller? (t.length + 1) t)
        let done ← done.define [] path.dropLast (path.getLast?.getD "") v
        match ← skipFiller? (t.length + 1) t with
        | ',' :: t => pairs? fuel depth done t
        | '\x7d' :: t => some (done.toJson, t)
        | _ => none
      | _ => none

end

/-- The number of levels that values may be nested. -/
def depthLimit : Nat := 80

/-! ## Lines

A header changes which table the keys below it belong to, and opens that table if it is not there
yet.  Everything that is wrong with a file, whether in its form or because a key is given twice,
ends the reading of it. -/

/-- The tables of a file so far, and the header that the next keys belong to. -/
structure FileState where
  members : Members
  header : List String

/-- Reads a key and its value. -/
def keyValue? (s : FileState) (t : Text) : Option (FileState × Text) := do
  let (path, t) ← keyPath? keyLimit t
  match t.dropWhile isBlank with
  | '=' :: t =>
    let t := t.dropWhile isBlank
    let (v, t) ← value? (2 * t.length + 2) depthLimit t
    let members ← s.members.define s.header path.dropLast (path.getLast?.getD "") v
    return ({ s with members }, t)
  | _ => none

/-- Reads the header of a table or of an array of tables, behind its first bracket. -/
def header? (s : FileState) (t : Text) : Option (FileState × Text) := do
  let (isElement, t) := match t with
    | '[' :: t => (true, t)
    | t => (false, t)
  let (path, t) ← keyPath? keyLimit (t.dropWhile isBlank)
  let parent := path.dropLast
  let key := path.getLast?.getD ""
  match isElement, t.dropWhile isBlank with
  | true, ']' :: ']' :: t => return (⟨← s.members.openElement parent key, path⟩, t)
  | false, ']' :: t => return (⟨← s.members.openTable parent key, path⟩, t)
  | _, _ => none

/-- Reads the lines of a file. -/
def lines? (fuel : Nat) (s : FileState) (t : Text) : Option Members :=
  match fuel with
  | 0 => none
  | fuel + 1 =>
    match skipBlankLines t with
    | [] => some s.members
    | '#' :: t => comment? t >>= lines? fuel s
    | '[' :: t => do
      let (s, t) ← header? s t
      lines? fuel s (← endOfLine? t)
    | t => do
      let (s, t) ← keyValue? s t
      lines? fuel s (← endOfLine? t)

/-- The table that a settings file describes.  A byte order mark at its start does not count. -/
def parse? (t : Text) : Option Json :=
  let t := match t with
    | '\ufeff' :: t => t
    | t => t
  (lines? (t.length + 1) ⟨[], []⟩ t).map Members.toJson

end Emend.Toml
