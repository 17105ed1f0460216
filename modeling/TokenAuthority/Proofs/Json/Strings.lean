import Mathlib.Data.List.Basic
import TokenAuthority.Json.Reader
import TokenAuthority.Json.Writer
import TokenAuthority.Proofs.Text.Utf8

/-!
# Strings of JSON

Whatever characters a string has, reading what was written for it gives the string back and stops right
after its closing quote.  The writer works character by character, so the whole is carried by one
statement about one character: reading its written form puts its bytes in front of what the rest gives.
Three kinds of characters are told apart there, as in the writer: those with an escape of one letter,
the other controls, which are written by their code, and all others, which stand as they are.
-/

namespace TokenAuthority
namespace Json

open Text

/-- A byte that stands for itself between quotes. -/
def IsPlainByte (byte : UInt8) : Prop :=
  byte ≠ 0x22 ∧ byte ≠ 0x5c ∧ ¬ byte < 0x20

theorem pushBytes_pushBytes (first second : List UInt8) (content : Option (List UInt8) × List UInt8) :
    pushBytes first (pushBytes second content) = pushBytes (first ++ second) content := by
  rcases content with ⟨_ | bytes, rest⟩
  · rfl
  · simp only [pushBytes, Option.map_some, List.append_assoc]

@[simp] theorem pushBytes_nil (content : Option (List UInt8) × List UInt8) :
    pushBytes [] content = content := by
  rcases content with ⟨_ | bytes, rest⟩ <;> rfl

/-- Bytes that stand for themselves are taken over as they are. -/
theorem readContent?_plain {bytes : List UInt8} (plain : ∀ byte ∈ bytes, IsPlainByte byte)
    (rest : List UInt8) :
    readContent? (bytes ++ rest) = (readContent? rest).map (pushBytes bytes) := by
  induction bytes with
  | nil =>
      rw [List.nil_append, funext pushBytes_nil, Option.map_id']
  | cons byte bytes ih =>
      rcases plain byte List.mem_cons_self with ⟨quote, backslash, control⟩
      have tail := ih fun other member => plain other (List.mem_cons_of_mem byte member)
      rw [List.cons_append, readContent?.eq_def]
      simp only [if_neg quote, if_neg backslash, if_neg control, tail, Option.map_map]
      congr 1
      funext content
      exact pushBytes_pushBytes [byte] bytes content

/-- An escape of one letter gives the byte it stands for. -/
theorem readContent?_simpleEscape {letter byte : UInt8} (escape : simpleEscape? letter = some byte)
    (rest : List UInt8) :
    readContent? (0x5c :: letter :: rest) = (readContent? rest).map (pushBytes [byte]) := by
  have notCode : letter ≠ 0x75 := by
    rintro rfl
    exact Option.some_ne_none byte escape.symm
  have notQuote : ¬ (0x5c : UInt8) = 0x22 := by decide
  rw [readContent?.eq_def]
  simp only [if_neg notQuote, if_true, if_neg notCode, escape]

/-- An escape of four digits gives the bytes of the code, unless that is half of a pair. -/
theorem readContent?_codeEscape {a b c d : UInt8} {code : Nat} (digits : hexValue4? a b c d = some code)
    (small : code < 0xd800) (rest : List UInt8) :
    readContent? (0x5c :: 0x75 :: a :: b :: c :: d :: rest) =
      (readContent? rest).map (pushBytes (codePointBytes code)) := by
  have notHigh : ¬ (0xd800 ≤ code ∧ code < 0xdc00) := fun high => absurd high.1 (Nat.not_le_of_lt small)
  have notLow : ¬ (0xdc00 ≤ code ∧ code < 0xe000) := fun low => by omega
  have notQuote : ¬ (0x5c : UInt8) = 0x22 := by decide
  rw [readContent?.eq_def]
  simp only [if_neg notQuote, if_true, digits, if_neg notHigh, if_neg notLow]

/-- The digits with which a control is written denote its code. -/
theorem hexValue4?_hexDigits : ∀ code < 0x20,
    hexValue4? 0x30 0x30 (UInt8.ofNat (hexDigit (code / 16)).toNat)
      (UInt8.ofNat (hexDigit (code % 16)).toNat) = some code := by
  decide

theorem hexDigit_ascii : ∀ value < 16, (hexDigit value).toNat < 0x80 := by
  decide

/-- The bytes of a character that needs no escape stand for themselves. -/
theorem isPlainByte_of_mem {character : Char} (notQuote : character ≠ '"')
    (notBackslash : character ≠ '\\') (notControl : 0x20 ≤ character.toNat) {byte : UInt8}
    (member : byte ∈ String.utf8EncodeChar character) : IsPlainByte byte := by
  by_cases ascii : character.toNat < 0x80
  · rw [utf8EncodeChar_ascii ascii, List.mem_singleton] at member
    have value : byte.toNat = character.toNat := by
      rw [member, UInt8.toNat_ofNat']
      exact Nat.mod_eq_of_lt (Nat.lt_trans ascii (by decide))
    refine ⟨?_, ?_, ?_⟩
    · rintro rfl
      exact notQuote (Char.toNat_inj.mp value.symm)
    · rintro rfl
      exact notBackslash (Char.toNat_inj.mp value.symm)
    · rw [UInt8.lt_iff_toNat_lt, value]
      exact Nat.not_lt_of_le notControl
  · have beyond := le_of_mem_utf8EncodeChar (Nat.le_of_not_lt ascii) member
    refine ⟨?_, ?_, ?_⟩
    · rintro rfl
      exact absurd beyond (by decide)
    · rintro rfl
      exact absurd beyond (by decide)
    · rw [UInt8.lt_iff_toNat_lt]
      exact Nat.not_lt_of_le (Nat.le_trans (by decide) beyond)

/-- Reading what is written for a character puts the bytes of the character in front. -/
theorem readContent?_escapeChar (character : Char) (rest : List UInt8) :
    readContent? (utf8 (escapeChar character) ++ rest) =
      (readContent? rest).map (pushBytes (String.utf8EncodeChar character)) := by
  have whole (code : Nat) (same : character.toNat = code) : character = Char.ofNat code := by
    rw [← same, Char.ofNat_toNat]
  unfold escapeChar
  split_ifs with quote backslash visible backspace tab newline formFeed carriageReturn
  · subst quote
    exact readContent?_simpleEscape (by decide) rest
  · subst backslash
    exact readContent?_simpleEscape (by decide) rest
  · rw [utf8_cons, utf8_nil, List.append_nil]
    exact readContent?_plain (fun _ => isPlainByte_of_mem quote backslash visible) rest
  · rw [whole _ backspace]
    exact readContent?_simpleEscape (by decide) rest
  · rw [whole _ tab]
    exact readContent?_simpleEscape (by decide) rest
  · rw [whole _ newline]
    exact readContent?_simpleEscape (by decide) rest
  · rw [whole _ formFeed]
    exact readContent?_simpleEscape (by decide) rest
  · rw [whole _ carriageReturn]
    exact readContent?_simpleEscape (by decide) rest
  · have code : character.toNat < 0x20 := Nat.lt_of_not_le visible
    have high := hexDigit_ascii (character.toNat / 16) (by omega)
    have low := hexDigit_ascii (character.toNat % 16) (by omega)
    have read := readContent?_codeEscape (hexValue4?_hexDigits character.toNat code)
      (Nat.lt_trans code (by decide)) rest
    rw [codePointBytes, Char.ofNat_toNat] at read
    rw [← read]
    simp only [utf8_cons, utf8_nil, utf8EncodeChar_ascii high, utf8EncodeChar_ascii low]
    rfl

/-- Reading the inside of a written string, up to and with its closing quote. -/
theorem readContent?_escapeChars (characters : List Char) (rest : List UInt8) :
    readContent? (utf8 (characters.flatMap escapeChar) ++ 0x22 :: rest) =
      some (some (utf8 characters), rest) := by
  induction characters with
  | nil =>
      rw [List.flatMap_nil, utf8_nil, List.nil_append, readContent?.eq_def]
      simp only [if_true]
  | cons character characters ih =>
      rw [List.flatMap_cons, utf8_append, List.append_assoc, readContent?_escapeChar, ih]
      rfl

/-- The bytes of a written string: its content between two quotes. -/
theorem utf8_quoteChars (value : String) :
    utf8 (quoteChars value) = 0x22 :: (utf8 (value.toList.flatMap escapeChar) ++ [0x22]) := by
  rw [quoteChars, List.cons_append, utf8_cons, utf8_append]
  rfl

/-- The bytes of a text are the content of that text. -/
theorem contentText?_utf8 (value : String) : contentText? (some (utf8 value.toList)) = some value := by
  rw [contentText?, Option.bind_some, fromUTF8?_utf8, String.ofList_toList]

end Json
end TokenAuthority
