import Mathlib.Data.List.Basic
import TokenAuthority.Json.Reader
import TokenAuthority.Json.Writer
import TokenAuthority.Proofs.Text.Utf8

/-!
# Integers of JSON

An integer that a document can hold is read back from its digits.  A number has no closing mark: it goes
on as long as the bytes can belong to it.  So the statement asks of the bytes after it that they cannot,
which `endsNumber` says; commas and closing brackets, and the end of the text, are such.
-/

namespace TokenAuthority
namespace Json

open Text

/-- Bytes with which a number that stands in front of them does not go on. -/
def endsNumber : List UInt8 → Bool
  | [] => true
  | byte :: _ => !isDigitByte byte && byte != 0x2e && byte != 0x65 && byte != 0x45

/-- The digits of a natural number, as values. -/
def digitValues (value : Nat) : List Nat :=
  (Nat.toDigits 10 value).map fun character => character.toNat - 48

theorem digitValues_ne_nil (value : Nat) : digitValues value ≠ [] := by
  simp [digitValues, Nat.toDigits_ne_nil]

theorem ofDigits_digitValues (value : Nat) : ofDigits (digitValues value) = value := by
  rw [ofDigits, digitValues, List.foldl_map]
  exact Nat.ofDigitChars_ten_toDigits

/-- No digit stands in front of the others without need: the first digit is zero for zero only. -/
theorem digitValues_head (value : Nat) : ∀ rest, digitValues value = 0 :: rest → value = 0 ∧ rest = [] := by
  induction value using Nat.strongRecOn with
  | ind value ih =>
      intro rest leading
      by_cases small : value < 10
      · have single : digitValues value = [value] := by
          rw [digitValues, Nat.toDigits_of_lt_base small, List.map_singleton,
            Nat.toNat_digitChar_sub_48_of_lt_ten small]
        rw [single, List.cons.injEq] at leading
        exact ⟨leading.1, leading.2.symm⟩
      · have large : 10 ≤ value := Nat.le_of_not_lt small
        have split : digitValues value = digitValues (value / 10) ++
            [(Nat.digitChar (value % 10)).toNat - 48] := by
          rw [digitValues, Nat.toDigits_of_base_le (by decide) large, List.map_append]
          rfl
        rcases List.exists_cons_of_ne_nil (digitValues_ne_nil (value / 10)) with
          ⟨first, others, front⟩
        rw [split, front, List.cons_append, List.cons.injEq] at leading
        have zero := (ih (value / 10) (by omega) others (front.trans (by rw [leading.1]))).1
        omega

theorem isDigitByte_of_isDigit {character : Char} (digit : character.isDigit = true) :
    character.toNat < 0x80 ∧ isDigitByte (UInt8.ofNat character.toNat) = true ∧
      (UInt8.ofNat character.toNat).toNat - 0x30 = character.toNat - 48 := by
  have bounds : 48 ≤ character.toNat ∧ character.toNat ≤ 57 := by
    simpa [Char.isDigit, Char.le_def, UInt32.le_iff_toNat_le] using digit
  have value : (UInt8.ofNat character.toNat).toNat = character.toNat := by
    rw [UInt8.toNat_ofNat']
    omega
  refine ⟨by omega, ?_, by rw [value]⟩
  rw [isDigitByte, Bool.and_eq_true, decide_eq_true_eq, decide_eq_true_eq, UInt8.le_iff_toNat_le,
    UInt8.le_iff_toNat_le, value]
  exact bounds

theorem readDigits_of_endsNumber {rest : List UInt8} (ends : endsNumber rest = true) :
    readDigits rest = ([], rest) := by
  cases rest with
  | nil => rfl
  | cons byte rest =>
      have other : isDigitByte byte = false := by
        simp only [endsNumber, Bool.and_eq_true, Bool.not_eq_true'] at ends
        exact ends.1.1.1
      rw [readDigits, other, if_neg Bool.false_ne_true]

/-- Digits are read as their values, up to where the number ends. -/
theorem readDigits_utf8 {characters : List Char}
    (digits : ∀ character ∈ characters, character.isDigit = true) {rest : List UInt8}
    (ends : endsNumber rest = true) :
    readDigits (utf8 characters ++ rest) =
      (characters.map fun character => character.toNat - 48, rest) := by
  induction characters with
  | nil => exact readDigits_of_endsNumber ends
  | cons character characters ih =>
      rcases isDigitByte_of_isDigit (digits character List.mem_cons_self) with ⟨ascii, digit, value⟩
      have tail := ih fun other member => digits other (List.mem_cons_of_mem character member)
      rw [utf8_cons, utf8EncodeChar_ascii ascii, List.append_assoc, List.singleton_append, readDigits,
        if_pos digit, tail]
      simp only [value, List.map_cons]

/-- A natural number is read back from its digits. -/
theorem readWhole?_naturalChars (value : Nat) {rest : List UInt8} (ends : endsNumber rest = true) :
    readWhole? (utf8 (naturalChars value) ++ rest) = some (digitValues value, rest) := by
  have digits : ∀ character ∈ Nat.toDigits 10 value, character.isDigit = true :=
    fun _ member => Nat.isDigit_of_mem_toDigits (by decide) (by decide) member
  have read : readDigits (utf8 (naturalChars value) ++ rest) = (digitValues value, rest) :=
    readDigits_utf8 digits ends
  rw [readWhole?, read]
  split
  next empty => exact absurd (congrArg Prod.fst empty) (digitValues_ne_nil value)
  next leading =>
    have same := congrArg Prod.fst leading
    have single := (digitValues_head value _ same).2
    exact absurd single (List.cons_ne_nil _ _)
  next => rfl

theorem readFraction?_of_endsNumber {rest : List UInt8} (ends : endsNumber rest = true) :
    readFraction? rest = some (none, rest) := by
  cases rest with
  | nil => rfl
  | cons byte rest =>
      have notPoint : byte ≠ 0x2e := by
        rintro rfl
        exact absurd ends (by simp [endsNumber])
      rw [readFraction?, if_neg notPoint]

theorem readExponent?_of_endsNumber {rest : List UInt8} (ends : endsNumber rest = true) :
    readExponent? rest = some (none, rest) := by
  cases rest with
  | nil => rfl
  | cons byte rest =>
      have notMark : ¬ (byte = 0x65 ∨ byte = 0x45) := by
        rintro (rfl | rfl) <;> exact absurd ends (by simp [endsNumber])
      rw [readExponent?.eq_def]
      simp only [if_neg notMark]

/-- An integer that a document can hold: one of a word of 64 bits, with or without sign. -/
def IsWritableInteger (value : Int) : Prop :=
  IsSigned64 value ∨ IsUnsigned64 value

theorem numberValue_natural {value : Nat} (bound : IsWritableInteger value) :
    numberValue false (digitValues value) none none = .integer value := by
  have unsigned : IsUnsigned64 value := by
    rcases bound with ⟨_, high⟩ | unsigned
    · exact ⟨Int.natCast_nonneg value, by omega⟩
    · exact unsigned
  simp only [numberValue, ofDigits_digitValues, Bool.false_eq_true, if_false]
  exact if_pos (Or.inr ⟨trivial, unsigned⟩)

theorem numberValue_negative {value : Int} (negative : value < 0) (bound : IsWritableInteger value) :
    numberValue true (digitValues value.natAbs) none none = .integer value := by
  have signed : IsSigned64 value := by
    rcases bound with signed | ⟨low, _⟩
    · exact signed
    · omega
  have same : -(value.natAbs : Int) = value := by omega
  simp only [numberValue, ofDigits_digitValues, if_true, same]
  exact if_pos (Or.inl ⟨trivial, signed, negative⟩)

/-- The first byte of a natural number is a digit. -/
theorem utf8_naturalChars_cons (value : Nat) : ∃ byte bytes,
    utf8 (naturalChars value) = byte :: bytes ∧ isDigitByte byte = true := by
  rcases List.exists_cons_of_ne_nil
    (Nat.toDigits_ne_nil (n := value) (b := 10)) with ⟨character, characters, digits⟩
  have member : character ∈ Nat.toDigits 10 value := by
    rw [digits]
    exact List.mem_cons_self
  rcases isDigitByte_of_isDigit
    (Nat.isDigit_of_mem_toDigits (by decide) (by decide) member) with ⟨ascii, digit, _⟩
  refine ⟨UInt8.ofNat character.toNat, utf8 characters, ?_, digit⟩
  rw [naturalChars, digits, utf8_cons, utf8EncodeChar_ascii ascii, List.singleton_append]

/-- Reading what is written for an integer gives the integer back. -/
theorem readNumber?_integerChars {value : Int} (bound : IsWritableInteger value) {rest : List UInt8}
    (ends : endsNumber rest = true) :
    readNumber? (utf8 (integerChars value) ++ rest) = some (.integer value, rest) := by
  by_cases sign : 0 ≤ value
  · rcases Int.eq_ofNat_of_zero_le sign with ⟨natural, rfl⟩
    rcases utf8_naturalChars_cons natural with ⟨byte, bytes, first, digit⟩
    have notMinus : byte ≠ 0x2d := by
      rintro rfl
      exact absurd digit (by decide)
    have whole := readWhole?_naturalChars natural ends
    rw [first, List.cons_append] at whole
    rw [integerChars, if_pos sign, Int.toNat_natCast, first, List.cons_append, readNumber?]
    simp only [if_neg notMinus, whole, readFraction?_of_endsNumber ends,
      readExponent?_of_endsNumber ends, numberValue_natural bound, bind, Option.bind, pure]
  · have negative : value < 0 := Int.lt_of_not_ge sign
    rw [integerChars, if_neg sign, utf8_cons, List.append_assoc]
    change readNumber? (0x2d :: (utf8 (naturalChars value.natAbs) ++ rest)) = _
    simp only [readNumber?, if_true, readWhole?_naturalChars value.natAbs ends,
      readFraction?_of_endsNumber ends, readExponent?_of_endsNumber ends,
      numberValue_negative negative bound, bind, Option.bind, pure]

end Json
end TokenAuthority
