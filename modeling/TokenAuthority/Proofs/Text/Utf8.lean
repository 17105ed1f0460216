import Mathlib.Data.List.Basic

/-!
# Characters as bytes

The bytes of a list of characters in UTF-8, as the concatenation of the bytes of each.  Readers work on
bytes and writers on characters, so every statement that joins the two is a statement about `utf8`.

Two facts carry those statements.  Reading the bytes as a text gives the characters back, and a byte of a
character beyond ASCII is never an ASCII byte: no such character can end a string or start an escape.
-/

namespace TokenAuthority
namespace Text

/-- The bytes of characters, one character after the other. -/
def utf8 (characters : List Char) : List UInt8 :=
  characters.flatMap String.utf8EncodeChar

@[simp] theorem utf8_nil : utf8 [] = [] :=
  rfl

theorem utf8_cons (character : Char) (rest : List Char) :
    utf8 (character :: rest) = String.utf8EncodeChar character ++ utf8 rest :=
  rfl

@[simp] theorem utf8_append (left right : List Char) :
    utf8 (left ++ right) = utf8 left ++ utf8 right :=
  List.flatMap_append

/-- A text and the list of its characters have the same bytes. -/
theorem toUTF8_toList (text : String) : text.toUTF8.data.toList = utf8 text.toList := by
  have bytes : text.toUTF8 = text.toList.utf8Encode := String.utf8Encode_toList.symm
  rw [bytes, List.utf8Encode, List.toList_data_toByteArray]
  rfl

/-- The bytes of characters are the bytes of a text, and of no other text than theirs. -/
theorem fromUTF8?_utf8 (characters : List Char) :
    String.fromUTF8? ⟨(utf8 characters).toArray⟩ = some (String.ofList characters) := by
  have bytes : (⟨(utf8 characters).toArray⟩ : ByteArray) = characters.utf8Encode := by
    apply ByteArray.ext
    exact List.data_toByteArray.symm
  rw [bytes, String.fromUTF8?, dif_pos ByteArray.isValidUTF8_utf8Encode]
  rfl

/-- A character of ASCII is one byte. -/
theorem utf8EncodeChar_ascii {character : Char} (ascii : character.toNat < 0x80) :
    String.utf8EncodeChar character = [UInt8.ofNat character.toNat] := by
  have bound : character.val.toNat ≤ 0x7f := Nat.le_of_lt_succ ascii
  simp only [String.utf8EncodeChar, bound, if_true]
  rfl

/-- The bytes of a character beyond ASCII are all beyond ASCII. -/
theorem le_of_mem_utf8EncodeChar {character : Char} (beyond : 0x80 ≤ character.toNat) {byte : UInt8}
    (member : byte ∈ String.utf8EncodeChar character) : 0x80 ≤ byte.toNat := by
  have large : ¬ character.val.toNat ≤ 0x7f := Nat.not_le_of_lt beyond
  simp only [String.utf8EncodeChar, large, if_false] at member
  split_ifs at member <;> simp only [List.mem_cons, List.not_mem_nil, or_false] at member
  · rcases member with rfl | rfl <;> simp only [UInt8.toNat_ofNat'] <;> omega
  · rcases member with rfl | rfl | rfl <;> simp only [UInt8.toNat_ofNat'] <;> omega
  · rcases member with rfl | rfl | rfl | rfl <;> simp only [UInt8.toNat_ofNat'] <;> omega

end Text
end TokenAuthority
