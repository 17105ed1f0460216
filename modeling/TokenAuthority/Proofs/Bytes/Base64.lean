import Mathlib.Data.List.Basic
import TokenAuthority.Bytes.Base64
import TokenAuthority.Proofs.Failure

/-!
# Bytes read back from Base64

Between bytes and characters stand the values below 64 that the characters are named by.  Each step is
inverted on its own: the characters of an alphabet name their values, and the values determine the bytes.
Since no character of an alphabet is a point, a point can separate encoded parts.
-/

namespace TokenAuthority
namespace Base64

/-- The values below 64 that bytes are cut into; what is missing of the last one is filled with zeros. -/
def sextets : List UInt8 → List Nat
  | [] => []
  | [first] => [first.toNat / 4, first.toNat % 4 * 16]
  | [first, second] =>
    [first.toNat / 4, first.toNat % 4 * 16 + second.toNat / 16, second.toNat % 16 * 4]
  | first :: second :: third :: rest =>
    first.toNat / 4 :: (first.toNat % 4 * 16 + second.toNat / 16) ::
      (second.toNat % 16 * 4 + third.toNat / 64) :: third.toNat % 64 :: sextets rest

theorem encodeChars_eq_map (alphabet : Alphabet) (bytes : List UInt8) :
    encodeChars alphabet bytes = (sextets bytes).map alphabet.character := by
  induction bytes using sextets.induct with
  | case1 => rfl
  | case2 first => rfl
  | case3 first second => rfl
  | case4 first second third rest ih =>
      rw [encodeChars, sextets, ih]
      rfl

theorem lt_of_mem_sextets (bytes : List UInt8) : ∀ value ∈ sextets bytes, value < 64 := by
  induction bytes using sextets.induct with
  | case1 => simp [sextets]
  | case2 first =>
      have bound := first.toNat_lt
      simp only [sextets, List.forall_mem_cons, List.not_mem_nil, false_implies, implies_true, and_true]
      omega
  | case3 first second =>
      have firstBound := first.toNat_lt
      have secondBound := second.toNat_lt
      simp only [sextets, List.forall_mem_cons, List.not_mem_nil, false_implies, implies_true, and_true]
      omega
  | case4 first second third rest ih =>
      have firstBound := first.toNat_lt
      have secondBound := second.toNat_lt
      have thirdBound := third.toNat_lt
      simp only [sextets, List.forall_mem_cons]
      refine ⟨by omega, by omega, by omega, by omega, ih⟩

/-- The values determine the bytes they were cut from. -/
theorem ofValues?_sextets (bytes : List UInt8) : ofValues? (sextets bytes) = some bytes := by
  induction bytes using sextets.induct with
  | case1 => rfl
  | case2 first =>
      have bound := first.toNat_lt
      have back : UInt8.ofNat (first.toNat / 4 * 4 + first.toNat % 4 * 16 / 16) = first := by
        apply UInt8.toNat_inj.mp
        rw [UInt8.toNat_ofNat']
        omega
      rw [sextets, ofValues?, if_pos (by omega), back]
  | case3 first second =>
      have firstBound := first.toNat_lt
      have secondBound := second.toNat_lt
      have back : UInt8.ofNat (first.toNat / 4 * 4 +
          (first.toNat % 4 * 16 + second.toNat / 16) / 16) = first := by
        apply UInt8.toNat_inj.mp
        rw [UInt8.toNat_ofNat']
        omega
      have secondBack : UInt8.ofNat ((first.toNat % 4 * 16 + second.toNat / 16) % 16 * 16 +
          second.toNat % 16 * 4 / 4) = second := by
        apply UInt8.toNat_inj.mp
        rw [UInt8.toNat_ofNat']
        omega
      rw [sextets, ofValues?, if_pos (by omega), back, secondBack]
  | case4 first second third rest ih =>
      have firstBound := first.toNat_lt
      have secondBound := second.toNat_lt
      have thirdBound := third.toNat_lt
      have back : UInt8.ofNat (first.toNat / 4 * 4 +
          (first.toNat % 4 * 16 + second.toNat / 16) / 16) = first := by
        apply UInt8.toNat_inj.mp
        rw [UInt8.toNat_ofNat']
        omega
      have secondBack : UInt8.ofNat ((first.toNat % 4 * 16 + second.toNat / 16) % 16 * 16 +
          (second.toNat % 16 * 4 + third.toNat / 64) / 4) = second := by
        apply UInt8.toNat_inj.mp
        rw [UInt8.toNat_ofNat']
        omega
      have thirdBack : UInt8.ofNat ((second.toNat % 16 * 4 + third.toNat / 64) % 4 * 64 +
          third.toNat % 64) = third := by
        apply UInt8.toNat_inj.mp
        rw [UInt8.toNat_ofNat']
        omega
      rw [sextets, ofValues?, ih, Option.map_some, back, secondBack, thirdBack]

/-- A character of an alphabet names its value. -/
theorem value?_character (alphabet : Alphabet) :
    ∀ value < 64, alphabet.value? (alphabet.character value) = some value := by
  cases alphabet <;> decide

/-- No character of an alphabet is a point. -/
theorem character_ne_point (alphabet : Alphabet) : ∀ value < 64, alphabet.character value ≠ '.' := by
  cases alphabet <;> decide

theorem mapM_value?_map (alphabet : Alphabet) {values : List Nat} (bound : ∀ value ∈ values, value < 64) :
    (values.map alphabet.character).mapM alphabet.value? = some values :=
  mapM_map_of_read fun value member => value?_character alphabet value (bound value member)

/-- Bytes are read back from their characters. -/
theorem decodeChars?_encodeChars (alphabet : Alphabet) (bytes : List UInt8) :
    decodeChars? alphabet (encodeChars alphabet bytes) = some bytes := by
  rw [decodeChars?, encodeChars_eq_map, mapM_value?_map alphabet (lt_of_mem_sextets bytes),
    Option.bind_some, ofValues?_sextets]

/-- Bytes are read back from their text in the alphabet for URLs. -/
theorem ofUrlText?_urlText (bytes : List UInt8) : ofUrlText? (urlText bytes) = some bytes := by
  rw [ofUrlText?, urlText, String.toList_ofList, decodeChars?_encodeChars]

/-- What no value is written as is not among the characters of bytes. -/
theorem not_mem_encodeChars {alphabet : Alphabet} {foreign : Char}
    (different : ∀ value < 64, alphabet.character value ≠ foreign) (bytes : List UInt8) :
    foreign ∉ encodeChars alphabet bytes := by
  rw [encodeChars_eq_map, List.mem_map]
  rintro ⟨value, member, same⟩
  exact different value (lt_of_mem_sextets bytes value member) same

/-- A text in the alphabet for URLs holds no point. -/
theorem point_not_mem_urlText (bytes : List UInt8) : '.' ∉ (urlText bytes).toList := by
  rw [urlText, String.toList_ofList]
  exact not_mem_encodeChars (character_ne_point .url) bytes

/-! ## Filled texts -/

/-- Characters, filled up to a multiple of four. -/
def filled (characters : List Char) : List Char :=
  characters ++ List.replicate ((4 - characters.length % 4) % 4) '='

theorem length_filled_mod (characters : List Char) : (filled characters).length % 4 = 0 := by
  rw [filled, List.length_append, List.length_replicate]
  omega

/-- No bytes take one character more than a multiple of four. -/
theorem length_encodeChars_mod (alphabet : Alphabet) (bytes : List UInt8) :
    (encodeChars alphabet bytes).length % 4 ≠ 1 := by
  induction bytes using sextets.induct with
  | case1 => exact Nat.zero_ne_one
  | case2 first => simp [encodeChars]
  | case3 first second => simp [encodeChars]
  | case4 first second third rest ih =>
      simp only [encodeChars, List.length_cons]
      omega

theorem character_ne_equals (alphabet : Alphabet) : ∀ value < 64, alphabet.character value ≠ '=' := by
  cases alphabet <;> decide

/-- Bytes are read back from their filled text. -/
theorem decodeFilled?_filled (alphabet : Alphabet) (bytes : List UInt8) :
    decodeFilled? alphabet (filled (encodeChars alphabet bytes)) = some bytes := by
  have unfilled := not_mem_encodeChars (character_ne_equals alphabet) bytes
  have possible := length_encodeChars_mod alphabet bytes
  have read := decodeChars?_encodeChars alphabet bytes
  rw [decodeFilled?, if_pos (length_filled_mod _)]
  generalize encodeChars alphabet bytes = characters at unfilled possible read ⊢
  have notFirst : ∀ rest, characters.reverse ≠ '=' :: rest := by
    intro rest same
    have member : '=' ∈ characters.reverse := by
      rw [same]
      exact List.mem_cons_self
    exact unfilled (List.mem_reverse.mp member)
  have cases4 : characters.length % 4 = 0 ∨ characters.length % 4 = 2 ∨ characters.length % 4 = 3 := by
    omega
  rcases cases4 with whole | two | three
  · have none : filled characters = characters := by
      rw [filled, whole]
      exact List.append_nil characters
    rw [none]
    split
    next rest same => exact absurd same (notFirst _)
    next rest _ same => exact absurd same (notFirst _)
    · exact read
  · have both : (filled characters).reverse = '=' :: '=' :: characters.reverse := by
      rw [filled, two, List.reverse_append]
      rfl
    rw [both]
    simp only [List.reverse_reverse, read]
  · have one : (filled characters).reverse = '=' :: characters.reverse := by
      rw [filled, three, List.reverse_append]
      rfl
    rw [one]
    split
    next rest same => exact absurd (List.cons.inj same).2 (notFirst rest)
    next rest _ same => rw [← (List.cons.inj same).2, List.reverse_reverse, read]
    next other => exact absurd rfl (other characters.reverse)

end Base64
end TokenAuthority
