import Mathlib.Data.List.TakeWhile
import Emend.Cli.Run
import Emend.Files.Tree
import Emend.Proofs.Uri.Percent

/-!
# From a path to its URI and back

An absolute path is written as its names, each behind a slash (`pathOf`).  Its URI spells the names
one by one, and reading the URI walks into the spelled segments and decodes them.  `pathOf_returns`
says that this leads back to the path, except that a path that ends like a drive letter
(`endsInDrive`) comes back with a slash at its end (`closeDrive`).

The way back is followed in the order in which a URI is read:

* all characters of the URI count, and its path is split into the spelled names
  (`glyphs_eq_map_attached`, `splitPath_append_pathOf`);
* no spelled name is a step of its own, and none but the empty one at the root is the first, so that
  a drive letter at the start is a name like others (`Walk.along_eq`, `ofPath_pathOf`);
* the segments spell the bytes of the path (`bytesOfSegments_spell`), which end like a drive letter
  exactly if its characters do (`endsInDrive_iff`).
-/

set_option autoImplicit false

namespace Emend.Uri

/-! ## Paths of names -/

/-- A name on the way from the root, which is no step of another kind. -/
structure IsName (name : Text) : Prop where
  ne_nil : name ≠ []
  noSlash : '/' ∉ name
  ne_dot : name ≠ ['.']
  ne_dots : name ≠ ['.', '.']

/-- The absolute path with the given names. -/
def pathOf (names : List Text) : Text := names.flatMap ('/' :: ·)

/-- Splitting a path at its slashes gives back the names on it, and what stands before them. -/
theorem splitOn_append_pathOf (front : Text) {names : List Text} (hfront : '/' ∉ front)
    (h : ∀ name ∈ names, IsName name) :
    (front ++ pathOf names).splitOn '/' = front :: names := by
  induction names generalizing front with
  | nil => simpa [pathOf] using List.splitOn_eq_singleton hfront
  | cons name names ih =>
    have hname := h name List.mem_cons_self
    have hrest := ih name hname.noSlash fun n hn ↦ h n (List.mem_cons_of_mem _ hn)
    have hcut : front ++ pathOf (name :: names) = front ++ '/' :: (name ++ pathOf names) := by
      simp [pathOf]
    rw [hcut, List.splitOn_append_cons_self_of_not_mem hfront, hrest]

theorem components_pathOf {names : List Text} (h : ∀ name ∈ names, IsName name) :
    components (pathOf names) = names := by
  have hsplit : (pathOf names).splitOn '/' = [] :: names := by
    simpa using splitOn_append_pathOf [] (by simp) h
  rw [components, hsplit, List.filter_cons_of_neg (by simp), List.filter_eq_self]
  intro name hname
  simp [(h name hname).ne_nil, (h name hname).ne_dot]

/-- A path with a name on it starts with a slash. -/
theorem exists_pathOf_eq_cons {names : List Text} (hne : names ≠ []) :
    ∃ t, pathOf names = '/' :: t := by
  obtain ⟨name, rest, rfl⟩ := List.exists_cons_of_ne_nil hne
  exact ⟨name ++ pathOf rest, rfl⟩

/-- The URI of a path spells its names. -/
theorem ofPath?_pathOf {names : List Text} (hne : names ≠ []) (h : ∀ name ∈ names, IsName name) :
    ofPath? (pathOf names) = some ("file://".toList ++ pathOf (names.map spell)) := by
  obtain ⟨t, ht⟩ := exists_pathOf_eq_cons hne
  have hbody : names.flatMap ('/' :: spell ·) = pathOf (names.map spell) := by
    simp [pathOf, List.flatMap_map]
  have hslash : (pathOf (names.map spell)).isEmpty = false := by
    obtain ⟨u, hu⟩ := exists_pathOf_eq_cons (mt List.map_eq_nil_iff.mp hne)
    rw [hu, List.isEmpty_cons]
  rw [ht, ofPath?, ← ht, components_pathOf h, hbody, hslash]
  rfl

/-! ## Segments of a URI

The characters of a URI that count are kept with what stands before them, so that the split path is
a list of lists of glyphs.  For a URI that was spelled, nothing stands before any of them, and the
glyphs are the characters again. -/

/-- The glyph of a character that stands behind no line break. -/
def attached (c : Char) : Glyph := ⟨c, false⟩

@[simp] theorem plain_map_attached (t : Text) : plain (t.map attached) = t := by
  simp [plain, attached, Function.comp_def]

/-- Blanks within a URI are blanks around one as well. -/
theorem isInnerBlank_eq_false {c : Char} (h : isOuterBlank c = false) : isInnerBlank c = false := by
  rw [isInnerBlank, Bool.or_eq_false_iff, Bool.or_eq_false_iff]
  refine ⟨⟨?_, ?_⟩, ?_⟩ <;>
  · rw [decide_eq_false_iff_not]
    rintro rfl
    exact absurd h (by decide)

/-- All characters of a URI count if there are no blanks or controls in it. -/
theorem glyphs_eq_map_attached {t : Text} (h : ∀ c ∈ t, isOuterBlank c = false) :
    glyphs t = t.map attached := by
  have htrim {u : Text} (hu : ∀ c ∈ u, isOuterBlank c = false) : u.dropWhile isOuterBlank = u :=
    List.dropWhile_eq_self_iff.mpr fun hlen ↦ by simp [hu]
  have hinner {u : Text} (hu : ∀ c ∈ u, isOuterBlank c = false) :
      glyphsFrom false u = u.map attached := by
    induction u with
    | nil => rfl
    | cons c u ih =>
      obtain ⟨hc, hu⟩ := List.forall_mem_cons.mp hu
      simp [glyphsFrom, isInnerBlank_eq_false hc, ih hu, attached]
  rw [glyphs, htrim h, htrim (by simpa using h), List.reverse_reverse, hinner h]

/-- What stays in its segment is not split. -/
theorem splitPath_append (s : Scheme) {front : Text} (h : ∀ c ∈ front, isSegmentChar c = true)
    (t : List Glyph) :
    splitPath s (front.map attached ++ t) =
      (splitPath s t).modifyHead (front.map attached ++ ·) := by
  induction front with
  | nil => exact (congrFun List.modifyHead_id (splitPath s t)).symm
  | cons c front ih =>
    obtain ⟨hc, hfront⟩ := List.forall_mem_cons.mp h
    obtain ⟨-, hslash, hback, hquery, hfragment⟩ := isSegmentChar_iff.mp hc
    have hstep : splitPath s (attached c :: (front.map attached ++ t)) =
        (splitPath s (front.map attached ++ t)).modifyHead (attached c :: ·) := by
      simp [splitPath, attached, Scheme.isSlash, hslash, hback, hquery, hfragment]
    rw [List.map_cons, List.cons_append, hstep, ih hfront, List.modifyHead_modifyHead]
    rfl

/-- Splitting a path whose names are made of characters of segments. -/
theorem splitPath_append_pathOf (s : Scheme) (front : Text) {segments : List Text}
    (h : ∀ segment ∈ front :: segments, ∀ c ∈ segment, isSegmentChar c = true) :
    splitPath s ((front ++ pathOf segments).map attached) =
      (front :: segments).map (List.map attached) := by
  induction segments generalizing front with
  | nil =>
    have hfront := splitPath_append s (h front List.mem_cons_self) []
    simpa [pathOf, splitPath] using hfront
  | cons segment segments ih =>
    have hsplit := splitPath_append s (h front List.mem_cons_self)
      (attached '/' :: (segment ++ pathOf segments).map attached)
    have hslash : splitPath s (attached '/' :: (segment ++ pathOf segments).map attached) =
        [] :: (segment :: segments).map (List.map attached) := by
      rw [← ih segment fun u hu ↦ h u (List.mem_cons_of_mem _ hu)]
      simp [splitPath, attached, Scheme.isSlash]
    rw [hslash] at hsplit
    simpa [pathOf] using hsplit

/-! ## Walking

A walk treats its first step and steps of dots in their own way.  In front of the names of a path
there is an empty segment, for the slash that it starts with, so every name is a later step, and
none of them is made of dots. -/

namespace Walk

/-- A step that is no dot, behind the first, goes into its segment. -/
theorem step_eq {s : Scheme} {w : Walk} {segment : List Glyph} (hw : w.done ≠ [])
    (hsingle : isSingleDot (plain segment) = false)
    (hdouble : isDoubleDot (plain segment) = false) :
    w.step s segment = { w with done := plain segment :: w.done } := by
  simp [step, enter, hw, hsingle, hdouble]

theorem along_eq {s : Scheme} {w : Walk} {segments : List (List Glyph)} (hne : segments ≠ [])
    (hw : w.done ≠ [])
    (hsingle : ∀ g ∈ segments, isSingleDot (plain g) = false)
    (hdouble : ∀ g ∈ segments, isDoubleDot (plain g) = false) :
    along s w segments = { w with done := (segments.map plain).reverse ++ w.done } := by
  induction segments generalizing w with
  | nil => exact absurd rfl hne
  | cons g segments ih =>
    obtain ⟨hg, hsingle⟩ := List.forall_mem_cons.mp hsingle
    obtain ⟨hg', hdouble⟩ := List.forall_mem_cons.mp hdouble
    have hstep := step_eq (s := s) hw hg hg'
    cases segments with
    | nil => simp [along, finish, hstep, hg, hg']
    | cons next segments =>
      rw [along, hstep, ih (by simp) (by simp) hsingle hdouble]
      · simp
      · simp

end Walk

/-! ## The segments of the URI -/

/-- A segment that is gone into as it stands. -/
structure IsSegment (segment : Text) : Prop where
  ne_nil : segment ≠ []
  chars : ∀ c ∈ segment, isSegmentChar c = true
  notSingle : isSingleDot segment = false
  notDouble : isDoubleDot segment = false

/-- A name is spelled as a segment. -/
theorem IsName.isSegment_spell {name : Text} (h : IsName name) : IsSegment (spell name) where
  ne_nil := fun hs ↦ h.ne_nil (spell_injective hs)
  chars := fun _ ↦ isSegmentChar_of_mem_spell
  notSingle := by
    rw [isSingleDot, plainDots_spell, decide_eq_false_iff_not]
    exact fun hs ↦ h.ne_dot (spell_injective (hs.trans (by decide)))
  notDouble := by
    rw [isDoubleDot, plainDots_spell, decide_eq_false_iff_not]
    exact fun hs ↦ h.ne_dots (spell_injective (hs.trans (by decide)))

variable {segments : List Text}

/-- A path is walked into its segments, behind an empty one for the slash it starts with. -/
theorem ofPath_pathOf (hne : segments ≠ []) (h : ∀ s ∈ segments, IsSegment s) :
    (Walk.ofPath .file ((pathOf segments).map attached)).segments = [] :: segments := by
  have hsplit : splitPath .file ((pathOf segments).map attached) =
      [] :: segments.map (List.map attached) :=
    splitPath_append_pathOf .file [] fun s hs ↦ by
      obtain rfl | hs := List.mem_cons.mp hs
      · simp
      · exact (h s hs).chars
  have hfirst : Walk.along .file .start ([] :: segments.map (List.map attached)) =
      Walk.along .file ⟨[[]], false⟩ (segments.map (List.map attached)) := by
    obtain ⟨s, rest, rfl⟩ := List.exists_cons_of_ne_nil hne
    rfl
  have hrest : Walk.along .file ⟨[[]], false⟩ (segments.map (List.map attached)) =
      ⟨((segments.map (List.map attached)).map plain).reverse ++ [[]], false⟩ :=
    Walk.along_eq (by simpa using hne) (by simp) (by simpa using fun s hs ↦ (h s hs).notSingle)
      (by simpa using fun s hs ↦ (h s hs).notDouble)
  rw [Walk.ofPath, hsplit, hfirst, hrest]
  simp [Walk.segments, Function.comp_def]

theorem fileSegments?_pathOf (hne : segments ≠ []) (h : ∀ s ∈ segments, IsSegment s) :
    fileSegments? (attached '/' :: attached '/' :: (pathOf segments).map attached) =
      some segments := by
  have hhost : hostedFileWalk? ((pathOf segments).map attached) =
      some (Walk.ofPath .file ((pathOf segments).map attached)) := by
    obtain ⟨t, ht⟩ := exists_pathOf_eq_cons hne
    rw [ht]
    rfl
  have hdrop : dropEmptySegments ([] :: segments) = segments := by
    obtain ⟨s, rest, rfl⟩ := List.exists_cons_of_ne_nil hne
    have hs := (h s List.mem_cons_self).ne_nil
    simp [dropEmptySegments, hs]
  have hslash : Scheme.file.isSlash (attached '/').char = true := by decide
  rw [fileSegments?]
  simp [hslash, hhost, ofPath_pathOf hne h, hdrop]

/-- The segments of a URI that a path is written into. -/
theorem localSegments?_pathOf (hne : segments ≠ []) (h : ∀ s ∈ segments, IsSegment s) :
    localSegments? ("file://".toList ++ pathOf segments) = some segments := by
  have hchars : ∀ c ∈ "file://".toList ++ pathOf segments, isOuterBlank c = false := by
    intro c hc
    obtain hc | hc := List.mem_append.mp hc
    · have hscheme : ("file://".toList.all fun d ↦ !isOuterBlank d) = true := by decide
      simpa using List.all_eq_true.mp hscheme c hc
    · obtain ⟨s, hs, hc⟩ := List.mem_flatMap.mp hc
      obtain rfl | hc := List.mem_cons.mp hc
      · decide
      · exact (isSegmentChar_iff.mp ((h s hs).chars c hc)).1
  have hscheme : splitScheme? (glyphs ("file://".toList ++ pathOf segments)) =
      some (.file, attached '/' :: attached '/' :: (pathOf segments).map attached) := by
    rw [glyphs_eq_map_attached hchars]
    rfl
  rw [localSegments?, hscheme]
  exact fileSegments?_pathOf hne h

/-! ## Back to the path

Reading gives bytes, since a URI may spell a path that is no text.  What was spelled from a text
decodes to the UTF-8 form of it; the one thing that can still happen to it is the slash behind a
drive letter.  The program looks for the drive letter among the bytes and `closeDrive` among the
characters, and the two agree because a letter and a mark at the end of the bytes are characters of
their own. -/

theorem bytesOfSegments_spell (names : List Text) :
    bytesOfSegments (names.map spell) = (pathOf names).utf8 := by
  have hslash : String.utf8EncodeChar '/' = [47] := by decide
  induction names with
  | nil => rfl
  | cons name names ih =>
    have htail : bytesOfSegments (spell name :: names.map spell) =
        47 :: percentDecode (spell name).utf8 ++ bytesOfSegments (names.map spell) := rfl
    have hpath : pathOf (name :: names) = '/' :: name ++ pathOf names := rfl
    rw [List.map_cons, htail, ih, percentDecode_spell, hpath]
    simp [hslash]

/-! ### Drive letters at the end -/

/-- Whether a path ends like a drive letter. -/
def endsInDrive (path : Text) : Bool := isDriveLetter (path.drop (path.length - 2))

/-- A path with a slash behind the drive letter at its end, if there is one. -/
def closeDrive (path : Text) : Text := if endsInDrive path then path ++ ['/'] else path

theorem endsInDrive_append (s : Text) (c mark : Char) :
    endsInDrive (s ++ [c, mark]) = (isLetter c && (mark = ':' || mark = '|')) := by
  have hdrop : (s ++ [c, mark]).drop ((s ++ [c, mark]).length - 2) = [c, mark] := by simp
  rw [endsInDrive, hdrop, isDriveLetter]

theorem exists_of_endsInDrive {path : Text} (h : endsInDrive path = true) :
    ∃ (s : Text) (c mark : Char), path = s ++ [c, mark] ∧ isLetter c = true ∧
      (mark = ':' ∨ mark = '|') := by
  rw [endsInDrive] at h
  match hdrop : path.drop (path.length - 2), h with
  | [c, mark], h =>
    refine ⟨path.take (path.length - 2), c, mark, ?_, by simpa [isDriveLetter] using h⟩
    rw [← hdrop, List.take_append_drop]

/-- The bytes end like a drive letter. -/
def DriveAtEnd (bs : Bytes) : Prop :=
  ∃ front letter mark, bs = front ++ [letter, mark] ∧
    isLetter (Char.ofNat letter.toNat) = true ∧ (mark = 58 ∨ mark = 124)

theorem lt_of_isLetter_ofNat :
    ∀ b : UInt8, isLetter (Char.ofNat b.toNat) = true → b.toNat < 128 :=
  Text.forall_byte (by decide +kernel)

/-- A letter is a single byte. -/
theorem exists_of_isLetter {c : Char} (h : isLetter c = true) :
    ∃ b : UInt8, c = Char.ofNat b.toNat ∧ String.utf8EncodeChar c = [b] := by
  have hlt : c.toNat < 128 := by
    simp only [isLetter, Bool.or_eq_true, Bool.and_eq_true, decide_eq_true_eq, Char.le_def,
      UInt32.le_iff_toNat_le] at h
    simp only [Char.reduceVal, UInt32.reduceToNat, Char.toNat_val] at h
    omega
  have hb : (UInt8.ofNat c.toNat).toNat = c.toNat := by
    rw [UInt8.toNat_ofNat']
    omega
  have hc : c = Char.ofNat (UInt8.ofNat c.toNat).toNat := by rw [hb, Char.ofNat_toNat]
  have hform := Text.utf8EncodeChar_ofNat _ (hb.trans_lt hlt)
  rw [← hc] at hform
  exact ⟨_, hc, hform⟩

/-- The bytes of a path end like a drive letter exactly if its characters do. -/
theorem endsInDrive_iff {path : Text} : endsInDrive path = true ↔ DriveAtEnd path.utf8 := by
  constructor
  · intro h
    obtain ⟨s, c, mark, rfl, hc, hmark⟩ := exists_of_endsInDrive h
    obtain ⟨b, rfl, hb⟩ := exists_of_isLetter hc
    have hpath : Text.utf8 (s ++ [Char.ofNat b.toNat, mark]) =
        s.utf8 ++ b :: String.utf8EncodeChar mark := by
      simp [hb]
    obtain rfl | rfl := hmark
    · exact ⟨s.utf8, b, 58, hpath, hc, .inl rfl⟩
    · exact ⟨s.utf8, b, 124, hpath, hc, .inr rfl⟩
  · rintro ⟨front, letter, mark, h, hletter, hmark⟩
    -- the two bytes at the end are ASCII, so each is a character
    have hmark' : mark.toNat < 128 := by obtain rfl | rfl := hmark <;> decide
    have hend : path.utf8 = (front ++ [letter]) ++ [mark] := by simpa using h
    obtain ⟨s, rfl, hs⟩ := Text.exists_of_utf8_eq_concat hend hmark'
    obtain ⟨s, rfl, -⟩ := Text.exists_of_utf8_eq_concat hs (lt_of_isLetter_ofNat letter hletter)
    rw [List.append_assoc, List.singleton_append, endsInDrive_append, hletter]
    obtain rfl | rfl := hmark <;> decide

/-- A path that does not start with a letter gets a slash behind a drive letter at its end. -/
theorem closeDriveLetter_of_driveAtEnd {b : UInt8} {bs : Bytes}
    (hb : isLetter (Char.ofNat b.toNat) = false) (h : DriveAtEnd (b :: bs)) :
    closeDriveLetter (b :: bs) = b :: bs ++ [47] := by
  obtain ⟨front, letter, mark, hbs, hletter, hmark⟩ := h
  obtain ⟨last, rest, hfront⟩ : ∃ last rest, front.reverse = last :: rest := by
    refine List.exists_cons_of_ne_nil fun hnil ↦ ?_
    obtain rfl : front = [] := by simpa using hnil
    obtain ⟨rfl, -⟩ := List.cons.inj hbs
    exact absurd hletter (by simp [hb])
  rw [hbs, closeDriveLetter]
  simp [hfront, hletter, hmark]

theorem closeDriveLetter_of_not_driveAtEnd {bs : Bytes} (h : ¬ DriveAtEnd bs) :
    closeDriveLetter bs = bs := by
  rw [closeDriveLetter]
  split
  · next mark letter x rest hreverse =>
    refine if_neg fun hc ↦ h ⟨(x :: rest).reverse, letter, mark, ?_, by simpa using hc⟩
    simpa using congrArg List.reverse hreverse
  · rfl

/-- Bytes and characters agree on where a slash is missing. -/
theorem closeDriveLetter_utf8 (t : Text) :
    closeDriveLetter (Text.utf8 ('/' :: t)) = (closeDrive ('/' :: t)).utf8 := by
  rw [closeDrive]
  split
  · next h =>
    have hpath : Text.utf8 ('/' :: t) = 47 :: t.utf8 := rfl
    have hslash : Text.utf8 ['/'] = [47] := rfl
    have hend := endsInDrive_iff.mp h
    rw [hpath] at hend
    rw [Text.utf8_append, hslash, hpath, closeDriveLetter_of_driveAtEnd (by decide) hend]
  · next h => exact closeDriveLetter_of_not_driveAtEnd (mt endsInDrive_iff.mpr h)

/-! ### There and back -/

/-- **A file URI leads back to its path**, but for a slash that a drive letter at its end gets, and
the document with that URI is what stands there. -/
theorem pathOf_returns (names : List Text) (hne : names ≠ [])
    (h : ∀ name ∈ names, IsName name) :
    ∃ uri, ofPath? (pathOf names) = some uri ∧
      toPath? uri = some (closeDrive (pathOf names)).utf8 ∧
      ∀ {m : Type → Type} [Monad m] (fs : FileSystem m),
        Cli.loadDocument fs (String.ofList uri) = fs.read (closeDrive (pathOf names)) := by
  have hback : toPath? ("file://".toList ++ pathOf (names.map spell)) =
      some (closeDrive (pathOf names)).utf8 := by
    obtain ⟨t, ht⟩ := exists_pathOf_eq_cons hne
    have hsegments := localSegments?_pathOf (mt List.map_eq_nil_iff.mp hne)
      (List.forall_mem_map.mpr fun name hname ↦ (h name hname).isSegment_spell)
    rw [toPath?, hsegments, Option.map_some, bytesOfSegments_spell, ht, closeDriveLetter_utf8]
  refine ⟨_, ofPath?_pathOf hne h, hback, fun fs ↦ ?_⟩
  rw [Cli.loadDocument, String.toList_ofList, hback, Option.map_some, Text.ofUtf8?_utf8]

/-- A drive letter at the start, and names with blanks, escapes, marks and a line break. -/
theorem pathOf_returns_marks :
    let path : Text := "/C:/ a%2e#?/\\\n..é".toList
    let uri : Text := "file:///C:/%20a%252e%23%3F/%5C%0A..%C3%A9".toList
    ofPath? path = some uri ∧ toPath? uri = some path.utf8 ∧
      ∀ {m : Type → Type} [Monad m] (fs : FileSystem m),
        Cli.loadDocument fs (String.ofList uri) = fs.read path := by
  intro path uri
  have hnames : ∀ name ∈ ["C:".toList, " a%2e#?".toList, "\\\n..é".toList], IsName name := by
    simp only [List.forall_mem_cons]
    refine ⟨?_, ?_, ?_, by simp⟩ <;> constructor <;> decide
  obtain ⟨u, hu, hback, hload⟩ := pathOf_returns _ (by simp) hnames
  obtain rfl : uri = u := Option.some.inj (Eq.trans (by decide) hu)
  exact ⟨hu, hback, hload⟩

/-- The file `/a:` has a URI, from which it cannot be read. -/
theorem pathOf_returns_drive :
    let files : FileTree := ⟨[([['a', ':']], .file (Text.utf8 ['x']))]⟩
    let fs := files.toFileSystem ['/'] none
    IsName ['a', ':'] ∧ ofPath? ['/', 'a', ':'] = some "file:///a:".toList ∧
      toPath? "file:///a:".toList ≠ some (Text.utf8 ['/', 'a', ':']) ∧
      (fs.read ['/', 'a', ':']).run = .ok ['x'] ∧
      (Cli.loadDocument fs "file:///a:").run =
        .error ⟨"reading /a:/", ["Not a directory (os error 20)"]⟩ := by
  intro files fs
  have hname : IsName ['a', ':'] := ⟨by decide, by decide, by decide, by decide⟩
  have hback : toPath? "file:///a:".toList = some (Text.utf8 ['/', 'a', ':', '/']) := by decide
  have hload : Cli.loadDocument fs "file:///a:" = fs.read ['/', 'a', ':', '/'] := by
    rw [Cli.loadDocument, hback, Option.map_some, Text.ofUtf8?_utf8]
  refine ⟨hname, by decide, by decide, rfl, ?_⟩
  rw [hload]
  rfl

end Emend.Uri
