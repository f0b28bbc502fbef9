import Emend.Text.Basic

/-!
# Texts as bytes

Files and URIs hold bytes, which are a text if they are its UTF-8 form.
-/

set_option autoImplicit false

namespace Emend

/-- A string of bytes. -/
abbrev Bytes := List UInt8

namespace Text

/-- The UTF-8 form of a text. -/
def utf8 (t : Text) : Bytes := t.flatMap String.utf8EncodeChar

@[simp] theorem utf8_nil : utf8 [] = [] := rfl

@[simp] theorem utf8_cons (c : Char) (t : Text) :
    utf8 (c :: t) = String.utf8EncodeChar c ++ utf8 t := rfl

@[simp] theorem utf8_append (s t : Text) : utf8 (s ++ t) = utf8 s ++ utf8 t :=
  List.flatMap_append

/-- The text with a UTF-8 form. -/
def ofUtf8? (bs : Bytes) : Option Text := (ByteArray.utf8Decode? ⟨bs.toArray⟩).map Array.toList

@[simp] theorem ofUtf8?_utf8 (t : Text) : ofUtf8? t.utf8 = some t := by
  have h : (⟨t.utf8.toArray⟩ : ByteArray) = List.utf8Encode t :=
    ByteArray.ext List.data_toByteArray.symm
  rw [ofUtf8?, h, List.utf8Decode?_utf8Encode, Option.map_some]

end Text

end Emend
