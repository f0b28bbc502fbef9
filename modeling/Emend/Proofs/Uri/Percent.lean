import Mathlib.Data.List.Basic
import Emend.Uri.File

/-!
# Escapes and the bytes they spell

`percentDecode` takes back what `percentEncode` spells: `percentDecode_percentEncode` holds for
every set of bytes that has the mark of an escape and everything beyond ASCII in it.  With the set
that paths use, a spelling (`spell`) is made of characters that neither end nor part a path
(`isSegmentChar`), and no escape in it is a dot (`plainDots_spell`).

Encoding makes text out of bytes, and decoding makes bytes out of the UTF-8 form of a text.  So the
way there and back goes through UTF-8 twice.  What makes it simple is that a spelling is ASCII
throughout, and a character of ASCII is one byte.
-/

set_option autoImplicit false

namespace Emend

/-! ## ASCII in UTF-8

Facts about a single byte are decided by trying all 256, once the quantifier over bytes has been put
into the form of one over numbers below a bound. -/

namespace Text

theorem utf8_injective : Function.Injective utf8 := fun s t h ↦
  Option.some.inj ((ofUtf8?_utf8 s).symm.trans ((congrArg ofUtf8? h).trans (ofUtf8?_utf8 t)))

/-- A property of all bytes below a bound, checked value by value. -/
theorem forall_byte_lt {P : UInt8 → Prop} {bound : Nat} (h : ∀ n < bound, P (UInt8.ofNat n)) :
    ∀ b : UInt8, b.toNat < bound → P b := by
  intro b hb
  have := h b.toNat hb
  rwa [UInt8.ofNat_toNat] at this

/-- A property of all bytes, checked value by value. -/
theorem forall_byte {P : UInt8 → Prop} (h : ∀ n < 256, P (UInt8.ofNat n)) (b : UInt8) : P b :=
  forall_byte_lt h b b.toNat_lt

/-- A byte of ASCII is the UTF-8 form of its character. -/
theorem utf8EncodeChar_ofNat :
    ∀ b : UInt8, b.toNat < 128 → String.utf8EncodeChar (Char.ofNat b.toNat) = [b] :=
  forall_byte_lt (by decide)

/-- A byte of ASCII starts the UTF-8 form of a character. -/
theorem isUTF8FirstByte_of_lt : ∀ b : UInt8, b.toNat < 128 → b.IsUTF8FirstByte :=
  forall_byte_lt (by decide)

/-- A byte of ASCII at the end of the UTF-8 form of a character is all of that form. -/
theorem eq_nil_of_utf8EncodeChar_eq_concat {c : Char} {bs : Bytes} {b : UInt8}
    (h : String.utf8EncodeChar c = bs ++ [b]) (hb : b.toNat < 128) : bs = [] := by
  have hlt : bs.length < (String.utf8EncodeChar c).length := by simp [h]
  have hlast : (String.utf8EncodeChar c)[bs.length] = b := by simp [h]
  have hfirst := isUTF8FirstByte_of_lt b hb
  rw [← hlast, UInt8.isUTF8FirstByte_getElem_utf8EncodeChar] at hfirst
  exact List.length_eq_zero_iff.mp hfirst

/-- A byte of ASCII at the end of the UTF-8 form of a text is the last character of the text. -/
theorem exists_of_utf8_eq_concat {t : Text} {bs : Bytes} {b : UInt8} (h : t.utf8 = bs ++ [b])
    (hb : b.toNat < 128) : ∃ s : Text, t = s ++ [Char.ofNat b.toNat] ∧ s.utf8 = bs := by
  obtain rfl | ⟨s, c, rfl⟩ : t = [] ∨ ∃ (s : Text) (c : Char), t = s ++ [c] := t.eq_nil_or_concat'
  · simp at h
  · obtain ⟨front, last, hc⟩ : ∃ front last, String.utf8EncodeChar c = front ++ [last] :=
      ⟨_, _, (List.dropLast_append_getLast String.utf8EncodeChar_ne_nil).symm⟩
    have hends : s.utf8 ++ front = bs ∧ last = b := by
      simpa [hc, ← List.append_assoc] using h
    obtain ⟨hfront, rfl⟩ := hends
    obtain rfl := eq_nil_of_utf8EncodeChar_eq_concat hc hb
    have hchar : utf8 [c] = utf8 [Char.ofNat last.toNat] := by
      simp [hc, utf8EncodeChar_ofNat _ hb]
    rw [List.append_nil] at hfront
    exact ⟨s, by rw [utf8_injective hchar], hfront⟩

end Text

namespace Uri

/-! ## Decoding what was encoded

Two conditions on the set of escaped bytes are enough.  The mark of an escape is in it, or else a
mark in the text would start one, and every byte beyond ASCII is, so that what is spelled is ASCII
and its own UTF-8 form. -/

/-- A byte that starts no escape stands for itself. -/
theorem percentDecode_cons {b : UInt8} (hb : b ≠ 37) (bs : Bytes) :
    percentDecode (b :: bs) = b :: percentDecode bs := by
  match bs with
  | [] => simp [percentDecode]
  | [_] => simp [percentDecode]
  | _ :: _ :: _ => simp [percentDecode, hb]

/-- A hexadecimal digit is a byte that has its value. -/
theorem exists_hexDigit {n : Nat} (hn : n < 16) :
    ∃ d, String.utf8EncodeChar (hexDigit n) = [d] ∧ hexValue? d = some (UInt8.ofNat n) := by
  have h : ∀ n < 16, (String.utf8EncodeChar (hexDigit n)).map hexValue? =
      [some (UInt8.ofNat n)] := by decide
  obtain ⟨d, hd, hvalue⟩ := List.map_eq_singleton_iff.mp (h n hn)
  exact ⟨d, hd, hvalue⟩

variable {escaped : UInt8 → Bool}

theorem percentDecode_percentEncodeByte (hmark : escaped 37 = true)
    (hascii : ∀ b, escaped b = false → b.toNat < 128) (b : UInt8) (bs : Bytes) :
    percentDecode ((percentEncodeByte escaped b).utf8 ++ bs) = b :: percentDecode bs := by
  cases h : escaped b with
  | false =>
    have hne : b ≠ 37 := by
      rintro rfl
      exact absurd hmark (by simp [h])
    simp [percentEncodeByte, h, Text.utf8EncodeChar_ofNat b (hascii b h), percentDecode_cons hne]
  | true =>
    have hb := b.toNat_lt
    obtain ⟨x, hx, hvx⟩ := exists_hexDigit (n := b.toNat / 16) (by omega)
    obtain ⟨y, hy, hvy⟩ := exists_hexDigit (n := b.toNat % 16) (by omega)
    have hsum : UInt8.ofNat (b.toNat / 16) * 16 + UInt8.ofNat (b.toNat % 16) = b := by
      rw [← UInt8.toNat_inj]
      simp
      omega
    have hpercent : String.utf8EncodeChar '%' = [37] := by decide
    simp [percentEncodeByte, h, hpercent, hx, hy, percentDecode, hvx, hvy, hsum]

/-- **Decoding takes back what encoding spells.** -/
theorem percentDecode_percentEncode (hmark : escaped 37 = true)
    (hascii : ∀ b, escaped b = false → b.toNat < 128) (t : Text) :
    percentDecode (percentEncode escaped t).utf8 = t.utf8 := by
  have h (bs : Bytes) :
      percentDecode (Text.utf8 (bs.flatMap (percentEncodeByte escaped))) = bs := by
    induction bs with
    | nil => rfl
    | cons b bs ih =>
      rw [List.flatMap_cons, Text.utf8_append, percentDecode_percentEncodeByte hmark hascii, ih]
  exact h t.utf8

/-! ## The spelling of a name in a path

A spelled name must survive the reading of a URI, which drops blanks, splits at slashes, stops at a
question mark or a hash, and takes dots as steps.  None of these characters occurs in a spelling.
That no dot is spelled by an escape takes a look at the digits: they are in capitals, and a dot
needs no escape in a path. -/

theorem isEscapedInPath_mark : isEscapedInPath 37 = true := by decide

theorem lt_of_isEscapedInPath_eq_false :
    ∀ b : UInt8, isEscapedInPath b = false → b.toNat < 128 :=
  Text.forall_byte (by decide +kernel)

/-- The spelling of a name in the URI of a path. -/
abbrev spell (name : Text) : Text := percentEncode isEscapedInPath name

theorem percentDecode_spell (name : Text) : percentDecode (spell name).utf8 = name.utf8 :=
  percentDecode_percentEncode isEscapedInPath_mark lt_of_isEscapedInPath_eq_false name

/-- Whether a character counts in a URI and neither ends a path nor parts it. -/
def isSegmentChar (c : Char) : Bool :=
  !isOuterBlank c && c ≠ '/' && c ≠ '\\' && c ≠ '?' && c ≠ '#'

theorem isSegmentChar_iff {c : Char} :
    isSegmentChar c = true ↔
      isOuterBlank c = false ∧ c ≠ '/' ∧ c ≠ '\\' ∧ c ≠ '?' ∧ c ≠ '#' := by
  simp [isSegmentChar, and_assoc]

/-- What a byte is spelled as stays in its segment. -/
theorem all_isSegmentChar_percentEncodeByte :
    ∀ b : UInt8, (percentEncodeByte isEscapedInPath b).all isSegmentChar = true :=
  Text.forall_byte (by decide +kernel)

theorem isSegmentChar_of_mem_spell {name : Text} {c : Char} (hc : c ∈ spell name) :
    isSegmentChar c = true := by
  obtain ⟨b, -, hb⟩ := List.mem_flatMap.mp hc
  exact List.all_eq_true.mp (all_isSegmentChar_percentEncodeByte b) c hb

/-! ### Dots -/

/-- A character that starts no escape stands for itself. -/
theorem plainDots_cons {c : Char} (hc : c ≠ '%') (t : Text) :
    plainDots (c :: t) = c :: plainDots t := by
  rw [plainDots] <;> simp [hc]

/-- An escape that does not spell a dot stays. -/
theorem plainDots_escape {x y : Char} (hx : x ≠ '%') (hy : y ≠ '%')
    (hdot : x = '2' → y ≠ 'e' ∧ y ≠ 'E') (t : Text) :
    plainDots ('%' :: x :: y :: t) = '%' :: x :: y :: plainDots t := by
  have hmark : plainDots ('%' :: x :: y :: t) = '%' :: plainDots (x :: y :: t) := by
    rw [plainDots] <;> simp +contextual [hdot]
  rw [hmark, plainDots_cons hx, plainDots_cons hy]

theorem ofNat_ne_mark_of_isEscapedInPath :
    ∀ b : UInt8, isEscapedInPath b = false → Char.ofNat b.toNat ≠ '%' :=
  Text.forall_byte (by decide +kernel)

/-- The digits of an escape in a path are in capitals, and they are not those of a dot. -/
theorem hexDigits_of_isEscapedInPath :
    ∀ b : UInt8, isEscapedInPath b = true →
      hexDigit (b.toNat / 16) ≠ '%' ∧ hexDigit (b.toNat % 16) ≠ '%' ∧
        (hexDigit (b.toNat / 16) = '2' →
          hexDigit (b.toNat % 16) ≠ 'e' ∧ hexDigit (b.toNat % 16) ≠ 'E') :=
  Text.forall_byte (by decide +kernel)

theorem plainDots_percentEncodeByte (b : UInt8) (t : Text) :
    plainDots (percentEncodeByte isEscapedInPath b ++ t) =
      percentEncodeByte isEscapedInPath b ++ plainDots t := by
  cases h : isEscapedInPath b with
  | false =>
    simp [percentEncodeByte, h, plainDots_cons (ofNat_ne_mark_of_isEscapedInPath b h)]
  | true =>
    obtain ⟨hx, hy, hdot⟩ := hexDigits_of_isEscapedInPath b h
    simp [percentEncodeByte, h, plainDots_escape hx hy hdot]

theorem plainDots_spell (name : Text) : plainDots (spell name) = spell name := by
  have h (bs : Bytes) :
      plainDots (bs.flatMap (percentEncodeByte isEscapedInPath)) =
        bs.flatMap (percentEncodeByte isEscapedInPath) := by
    induction bs with
    | nil => rfl
    | cons b bs ih => rw [List.flatMap_cons, plainDots_percentEncodeByte, ih]
  exact h name.utf8

/-- Different names are spelled differently. -/
theorem spell_injective : Function.Injective spell := fun s t h ↦
  Text.utf8_injective (by rw [← percentDecode_spell s, h, percentDecode_spell])

end Uri

end Emend
