import Emend.Json.Raw

/-!
# Strings and keys of a settings file

A string stands between quotation marks, and then a backslash starts an escape, or between
apostrophes, and then every character stands for itself.  Three marks in place of one open a string
that may have line breaks.  A key is a string on one line, or a bare word.
-/

set_option autoImplicit false

namespace Emend.Toml

/-! ## Characters -/

/-- Whether a character may stand in a string, a comment or a line as it is: no control character,
but for the tab. -/
def isPlain (c : Char) : Bool := c = '\t' || (0x20 ≤ c.toNat && c ≠ '\x7f')

/-- Whether a character is a blank within a line. -/
def isBlank (c : Char) : Bool := c = ' ' || c = '\t'

/-- The text behind a line break at the start of a text. -/
def lineBreak? : Text → Option Text
  | '\n' :: t => some t
  | '\r' :: '\n' :: t => some t
  | _ => none

/-- The text behind blanks and line breaks. -/
def skipBlankLines : Text → Text
  | '\r' :: '\n' :: t => skipBlankLines t
  | c :: t => if isBlank c ∨ c = '\n' then skipBlankLines t else c :: t
  | [] => []

/-- The character with a code given by hexadecimal digits, if there is one. -/
def charOfHex? (ds : List Char) : Option Char := do
  let values ← ds.mapM RawJson.hexDigit?
  let n := values.foldl (fun n d ↦ n * 16 + d) 0
  if n.isValidChar then some (Char.ofNat n) else none

/-- The character of an escape, read behind its backslash, and what follows it. -/
def escape? : Text → Option (Char × Text)
  | 'b' :: t => some ('\x08', t)
  | 't' :: t => some ('\t', t)
  | 'n' :: t => some ('\n', t)
  | 'f' :: t => some ('\x0c', t)
  | 'r' :: t => some ('\r', t)
  | 'e' :: t => some ('\x1b', t)
  | '"' :: t => some ('"', t)
  | '\\' :: t => some ('\\', t)
  | 'x' :: a :: b :: t => (charOfHex? [a, b]).map fun c ↦ (c, t)
  | 'u' :: a :: b :: c :: d :: t => (charOfHex? [a, b, c, d]).map fun c ↦ (c, t)
  | 'U' :: a :: b :: c :: d :: e :: f :: g :: h :: t =>
    (charOfHex? [a, b, c, d, e, f, g, h]).map fun c ↦ (c, t)
  | _ => none

/-! ## Strings on one line -/

/-- Reads a string behind its opening mark, up to and with the closing one. -/
def lineString? (mark : Char) (fuel : Nat) (t : Text) : Option (Text × Text) :=
  match fuel with
  | 0 => none
  | fuel + 1 =>
    match t with
    | [] => none
    | c :: t =>
      if c = mark then some ([], t)
      else if c = '\\' ∧ mark = '"' then do
        let (e, t) ← escape? t
        let (s, rest) ← lineString? mark fuel t
        return (e :: s, rest)
      else if isPlain c then do
        let (s, rest) ← lineString? mark fuel t
        return (c :: s, rest)
      else none

/-! ## Strings over several lines -/

/-- The text behind a backslash at the end of a line, with the blanks and line breaks around it. -/
def joinLines? (t : Text) : Option Text := (lineBreak? (t.dropWhile isBlank)).map skipBlankLines

/-- Reads a string behind its three opening marks, up to and with three closing ones.  Up to two
marks more in front of these belong to the string. -/
def blockString? (mark : Char) (fuel : Nat) (t : Text) : Option (Text × Text) :=
  match fuel with
  | 0 => none
  | fuel + 1 =>
    match t with
    | [] => none
    | c :: u =>
      if c = mark then
        let marks := (t.takeWhile (· = mark)).length
        if 3 ≤ marks then
          let inner := min (marks - 3) 2
          some (List.replicate inner mark, t.drop (inner + 3))
        else do
          let (s, rest) ← blockString? mark fuel u
          return (c :: s, rest)
      else if c = '\\' ∧ mark = '"' then
        match joinLines? u with
        | some u => blockString? mark fuel u
        | none => do
          let (e, u) ← escape? u
          let (s, rest) ← blockString? mark fuel u
          return (e :: s, rest)
      else if isPlain c ∨ (lineBreak? t).isSome ∨ c = '\n' then do
        let (s, rest) ← blockString? mark fuel u
        return (c :: s, rest)
      else none

/-- Reads a string of either kind, with a mark at its start.  A line break right behind three
opening marks does not count. -/
def string? : Text → Option (Text × Text)
  | a :: b :: c :: t =>
    if a ≠ '"' ∧ a ≠ '\'' then none
    else if b = a ∧ c = a then blockString? a (t.length + 1) ((lineBreak? t).getD t)
    else lineString? a (t.length + 3) (b :: c :: t)
  | a :: t => if a ≠ '"' ∧ a ≠ '\'' then none else lineString? a (t.length + 1) t
  | [] => none

/-! ## Keys -/

/-- Whether a character may stand in a bare key. -/
def isBareKeyChar (c : Char) : Bool :=
  ('a' ≤ c && c ≤ 'z') || ('A' ≤ c && c ≤ 'Z') || ('0' ≤ c && c ≤ '9') || c = '_' || c = '-'

/-- Reads a key without dots. -/
def simpleKey? : Text → Option (String × Text)
  | c :: t =>
    if c = '"' ∨ c = '\'' then
      (lineString? c (t.length + 1) t).map fun (s, rest) ↦ (String.ofList s, rest)
    else
      let word := (c :: t).takeWhile isBareKeyChar
      if word.isEmpty then none else some (String.ofList word, (c :: t).drop word.length)
  | [] => none

/-- The number of parts that a dotted key may have. -/
def keyLimit : Nat := 80

/-- Reads a key of at most so many parts, with dots between them. -/
def keyPath? (limit : Nat) (t : Text) : Option (List String × Text) :=
  match limit with
  | 0 => none
  | limit + 1 => do
    let (key, t) ← simpleKey? t
    match t.dropWhile isBlank with
    | '.' :: t =>
      let (keys, rest) ← keyPath? limit (t.dropWhile isBlank)
      return (key :: keys, rest)
    | t => return ([key], t)

end Emend.Toml
