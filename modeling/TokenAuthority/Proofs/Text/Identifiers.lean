import Mathlib.Algebra.Order.Ring.Nat
import TokenAuthority.Uuid

/-!
# Identifiers, written and read

An identifier is read back from its text: the digits give the number, the hyphens stand where they are
looked for, and no digit starts one of the other spellings.  So different identifiers have different texts.
-/

namespace TokenAuthority
namespace Uuid

theorem hexValue?_hexDigit : ∀ value < 16,
    (Json.hexDigit value).toNat < 128 ∧
      Json.hexValue? (UInt8.ofNat (Json.hexDigit value).toNat) = some value := by
  decide

theorem length_digits (value count : Nat) : (digits value count).length = count := by
  induction count generalizing value with
  | zero => rfl
  | succ count ih => rw [digits, List.length_append, ih, List.length_singleton]

theorem exists_hexDigit_of_mem_digits {value count : Nat} {digit : Char}
    (member : digit ∈ digits value count) : ∃ unit < 16, digit = Json.hexDigit unit := by
  induction count generalizing value with
  | zero => cases member
  | succ count ih =>
      rcases List.mem_append.mp member with earlier | last
      · exact ih earlier
      · exact ⟨value % 16, Nat.mod_lt value (by decide), List.mem_singleton.mp last⟩

/-- Digits denote the part of the number that fits into them. -/
theorem ofDigits?_digits (value count : Nat) :
    ofDigits? (digits value count) = some (value % 16 ^ count) := by
  induction count generalizing value with
  | zero => rw [pow_zero, Nat.mod_one]; rfl
  | succ count ih =>
      have last := hexValue?_hexDigit (value % 16) (Nat.mod_lt value (by decide))
      have front := ih (value / 16)
      unfold ofDigits? at front ⊢
      rw [digits, List.foldlM_append, front]
      simp only [Option.bind_eq_bind, Option.bind_some, List.foldlM_cons, List.foldlM_nil, last.1,
        last.2, if_true, Option.map_some, pow_succ', Nat.mod_mul, Nat.add_comm]
      rfl

theorem ofSimple?_digits (identifier : Uuid) :
    ofSimple? (digits identifier.bits.toNat 32) = some identifier := by
  have small : identifier.bits.toNat % 16 ^ 32 = identifier.bits.toNat :=
    Nat.mod_eq_of_lt identifier.bits.isLt
  rw [ofSimple?, if_pos (length_digits _ 32), ofDigits?_digits, small, Option.map_some,
    BitVec.ofNat_toNat, BitVec.setWidth_eq]

section

variable {first second third fourth last : List Char} (firstLong : first.length = 8)
  (secondLong : second.length = 4) (thirdLong : third.length = 4) (fourthLong : fourth.length = 4)
  (lastLong : last.length = 12)

include firstLong secondLong thirdLong fourthLong lastLong

/-- Hyphens between groups of the right lengths stand where they are looked for. -/
theorem hyphens_append :
    (first ++ '-' :: second ++ '-' :: third ++ '-' :: fourth ++ '-' :: last).length = 36 ∧
      (first ++ '-' :: second ++ '-' :: third ++ '-' :: fourth ++ '-' :: last)[8]? = some '-' ∧
      (first ++ '-' :: second ++ '-' :: third ++ '-' :: fourth ++ '-' :: last)[13]? = some '-' ∧
      (first ++ '-' :: second ++ '-' :: third ++ '-' :: fourth ++ '-' :: last)[18]? = some '-' ∧
      (first ++ '-' :: second ++ '-' :: third ++ '-' :: fourth ++ '-' :: last)[23]? = some '-' := by
  simp [firstLong, secondLong, thirdLong, fourthLong, lastLong]

theorem ofHyphenated?_append :
    ofHyphenated? (first ++ '-' :: second ++ '-' :: third ++ '-' :: fourth ++ '-' :: last) =
      ofSimple? (first ++ second ++ third ++ fourth ++ last) := by
  rw [ofHyphenated?, if_pos (hyphens_append firstLong secondLong thirdLong fourthLong lastLong)]
  simp (disch := omega) [List.drop_append, List.drop_eq_nil_of_le, firstLong, secondLong, thirdLong,
    fourthLong]

end

theorem ofHyphenated?_toChars (identifier : Uuid) :
    ofHyphenated? identifier.toChars = some identifier := by
  have long := length_digits identifier.bits.toNat 32
  have read := identifier.ofSimple?_digits
  rw [toChars]
  generalize digits identifier.bits.toNat 32 = digits at long read ⊢
  have joined : digits.take 8 ++ (digits.drop 8).take 4 ++ (digits.drop 12).take 4 ++
      (digits.drop 16).take 4 ++ digits.drop 20 = digits := by
    rw [← List.take_add, ← List.take_add, ← List.take_add, List.take_append_drop]
  rw [ofHyphenated?_append, joined, read]
  all_goals simp [long]

/-- The first character of an identifier is a digit, which starts no other spelling. -/
theorem ofChars?_of_hexDigit {unit : Nat} (small : unit < 16) (rest : List Char)
    (long : (Json.hexDigit unit :: rest).length = 36) :
    ofChars? (Json.hexDigit unit :: rest) = ofHyphenated? (Json.hexDigit unit :: rest) := by
  have others : ∀ value < 16, Json.hexDigit value ≠ '{' ∧ Json.hexDigit value ≠ 'u' := by
    decide
  unfold ofChars?
  split
  next starts => exact absurd (List.cons.inj starts).1 (others unit small).1
  next starts => exact absurd (List.cons.inj starts).1 (others unit small).2
  · rw [if_neg (by rw [long]; decide)]

/-- An identifier is what its text denotes. -/
theorem ofText?_text (identifier : Uuid) : ofText? identifier.text = some identifier := by
  have read := identifier.ofHyphenated?_toChars
  have long : identifier.toChars.length = 36 := by
    simp [toChars, length_digits]
  rw [ofText?, text, String.toList_ofList]
  cases front : digits identifier.bits.toNat 32 with
  | nil => exact absurd (front ▸ length_digits identifier.bits.toNat 32) (by decide)
  | cons digit digits =>
      have listed : digit ∈ Uuid.digits identifier.bits.toNat 32 := by
        rw [front]
        exact List.mem_cons_self
      rcases exists_hexDigit_of_mem_digits listed with ⟨unit, small, rfl⟩
      have starts : ∃ rest, identifier.toChars = Json.hexDigit unit :: rest := by
        rw [toChars, front]
        exact ⟨_, rfl⟩
      rcases starts with ⟨rest, starts⟩
      rw [starts] at read long ⊢
      rw [ofChars?_of_hexDigit small rest long, read]

theorem text_injective {left right : Uuid} (same : left.text = right.text) : left = right := by
  have read := left.ofText?_text
  rw [same, right.ofText?_text] at read
  exact (Option.some.inj read).symm

end Uuid
end TokenAuthority
