import Mathlib.Algebra.Order.BigOperators.Group.List
import TokenAuthority.Bytes.Der
import TokenAuthority.Proofs.Bytes.BigEndian

/-!
# Elements, written and read

Reading undoes writing: an element is read from the front of its bytes, and what follows it is left over.
The length of a content fits into four bytes, and a tag into one; nothing else is asked of an element.  A
sequence gives back its parts, and a number its value.
-/

namespace TokenAuthority
namespace Der

/-- A length in as few bytes as possible. -/
def lengthBytes (length : Nat) : List UInt8 :=
  if length < 128 then [UInt8.ofNat length]
  else UInt8.ofNat (0x80 + BigEndian.byteLength length) :: BigEndian.minimal length

theorem readLength?_lengthBytes {length : Nat} (small : length < 2 ^ 32) (rest : List UInt8) :
    readLength? (lengthBytes length ++ rest) = some (length, rest) := by
  unfold lengthBytes
  split
  next short =>
    have value : (UInt8.ofNat length).toNat = length := by
      rw [UInt8.toNat_ofNat']
      omega
    have below : UInt8.ofNat length < 0x80 := by
      rw [UInt8.lt_iff_toNat_lt, value]
      exact short
    rw [List.singleton_append, readLength?, if_pos below, value]
  next long =>
    have positive : 0 < length := by omega
    have lower := BigEndian.pow_byteLength_le positive
    have upper := BigEndian.lt_pow_byteLength length
    generalize count_eq : BigEndian.byteLength length = count at lower upper
    have atLeast : 1 ≤ count := by
      by_contra none
      have zero : count = 0 := by omega
      rw [zero] at upper
      omega
    have atMost : count ≤ 4 := by
      by_contra beyond
      have power : 256 ^ 4 ≤ 256 ^ (count - 1) := Nat.pow_le_pow_right (by decide) (by omega)
      omega
    have value : (UInt8.ofNat (0x80 + count)).toNat = 0x80 + count := by
      rw [UInt8.toNat_ofNat']
      omega
    have notShort : ¬ UInt8.ofNat (0x80 + count) < 0x80 := by
      rw [UInt8.lt_iff_toNat_lt, value]
      exact Nat.not_lt.mpr (Nat.le_add_right 0x80 count)
    have width : (BigEndian.minimal length).length = count := by
      rw [BigEndian.minimal, BigEndian.length_fixed, count_eq]
    have taken : (BigEndian.minimal length ++ rest).take count = BigEndian.minimal length :=
      List.take_left' width
    have dropped : (BigEndian.minimal length ++ rest).drop count = rest := List.drop_left' width
    have back : BigEndian.toNat (BigEndian.minimal length) = length := by
      rw [BigEndian.minimal, BigEndian.toNat_fixed, count_eq, Nat.mod_eq_of_lt upper]
    rw [List.cons_append, readLength?, if_neg notShort]
    simp only [value, Nat.add_sub_cancel_left, taken, dropped, back, count_eq, List.length_append, width]
    rw [if_pos ⟨atLeast, atMost, Nat.le_add_right _ _, by omega, trivial⟩]

theorem length_lengthBytes_le (length : Nat) : (lengthBytes length).length ≤ length + 1 := by
  unfold lengthBytes
  split
  · exact Nat.le_add_left 1 length
  next long =>
    have bits := Nat.log2_le_self length
    have positive : length ≠ 0 := by omega
    rw [List.length_cons, BigEndian.minimal, BigEndian.length_fixed, BigEndian.byteLength,
      BigEndian.bitLength, if_neg positive]
    omega

namespace Element

def bytes (element : Element) : List UInt8 :=
  element.tag :: lengthBytes element.content.length ++ element.content

/-- A generous bound, by which lengths need not be computed. -/
theorem length_bytes_le (element : Element) :
    element.bytes.length ≤ 2 * element.content.length + 2 := by
  have width := length_lengthBytes_le element.content.length
  simp only [bytes, List.length_append, List.length_cons]
  omega

/-- An element that can be written. -/
structure IsShort (element : Element) : Prop where
  tag : isTag element.tag = true
  content : element.content.length < 2 ^ 32

end Element

theorem readElement?_bytes {element : Element} (short : element.IsShort) (rest : List UInt8) :
    readElement? (element.bytes ++ rest) = some (element, rest) := by
  have length := readLength?_lengthBytes short.content (element.content ++ rest)
  rw [Element.bytes, List.cons_append, List.cons_append, List.append_assoc, readElement?, length]
  simp only [Option.bind_eq_bind, Option.bind_some, short.tag, List.length_append, true_and,
    Nat.le_add_right, if_true, List.take_left, List.drop_left]

theorem element?_bytes {element : Element} (short : element.IsShort) :
    element? element.bytes = some element := by
  have read := readElement?_bytes short []
  rw [List.append_nil] at read
  rw [element?, read]

theorem readElements?_of_readElement? {bytes rest : List UInt8} {element : Element}
    (read : readElement? bytes = some (element, rest)) (fuel : Nat) :
    readElements? (fuel + 1) bytes = (readElements? fuel rest).map (element :: ·) := by
  cases bytes with
  | nil => cases read
  | cons first bytes =>
      rw [readElements?, read]
      · simp only [Option.bind_eq_bind, Option.bind_some]
        cases readElements? fuel rest <;> rfl
      · exact List.cons_ne_nil first bytes

/-- Elements one after the other are read back, if there is fuel for each of them. -/
theorem readElements?_flatMap {elements : List Element} (short : ∀ element ∈ elements, element.IsShort)
    {fuel : Nat} (enough : elements.length ≤ fuel) :
    readElements? fuel (elements.flatMap Element.bytes) = some elements := by
  induction elements generalizing fuel with
  | nil => cases fuel <;> rfl
  | cons element elements ih =>
      cases fuel with
      | zero => cases enough
      | succ fuel =>
          have read := readElement?_bytes (short element List.mem_cons_self)
            (elements.flatMap Element.bytes)
          have others := ih (fun other member => short other (List.mem_cons_of_mem element member))
            (Nat.le_of_succ_le_succ enough)
          rw [List.flatMap_cons, readElements?_of_readElement? read, others]
          rfl

theorem length_le_length_flatMap (elements : List Element) :
    elements.length ≤ (elements.flatMap Element.bytes).length := by
  induction elements with
  | nil => exact Nat.le_refl 0
  | cons element elements ih =>
      simp only [List.flatMap_cons, List.length_append, List.length_cons, Element.bytes]
      omega

theorem length_content_le_of_mem {elements : List Element} {element : Element}
    (member : element ∈ elements) :
    element.content.length ≤ (elements.flatMap Element.bytes).length := by
  have own : element.content.length ≤ element.bytes.length := by
    simp only [Element.bytes, List.length_append, List.length_cons]
    omega
  have inside := List.sublist_flatten_of_mem (List.mem_map_of_mem (f := Element.bytes) member)
  rw [List.flatMap_def]
  exact own.trans inside.length_le

namespace Element

/-- The sequence of parts. -/
def sequence (parts : List Element) : Element :=
  ⟨sequenceTag, parts.flatMap bytes⟩

theorem isTag_sequence (parts : List Element) : isTag (sequence parts).tag = true :=
  have known : isTag sequenceTag = true := by decide
  known

/-- A sequence that can be written is one of parts that can be written, as far as their tags go. -/
theorem isShort_of_sequence {parts : List Element} (tags : ∀ part ∈ parts, isTag part.tag = true)
    (small : (sequence parts).content.length < 2 ^ 32) : ∀ part ∈ parts, part.IsShort := by
  intro part member
  exact ⟨tags part member, (length_content_le_of_mem member).trans_lt small⟩

theorem parts?_sequence {parts : List Element} (short : ∀ part ∈ parts, part.IsShort) :
    (sequence parts).parts? = some parts := by
  have content : (sequence parts).contentOf? sequenceTag = some (parts.flatMap bytes) := if_pos rfl
  rw [parts?, content, Option.bind_some]
  exact readElements?_flatMap short (length_le_length_flatMap parts)

theorem length_sequence_le {parts : List Element} {bound : Nat}
    (each : ∀ part ∈ parts, part.content.length ≤ bound) :
    (sequence parts).content.length ≤ parts.length * (2 * bound + 2) := by
  have lengths : ∀ length ∈ parts.map fun part => part.bytes.length, length ≤ 2 * bound + 2 := by
    intro length member
    rcases List.mem_map.mp member with ⟨part, present, rfl⟩
    have small := each part present
    have written := part.length_bytes_le
    omega
  have total := List.sum_le_card_nsmul _ _ lengths
  rw [List.length_map] at total
  rw [sequence, List.length_flatMap]
  exact total

/-- The bytes of a number, after a zero if the first of them would make it negative. -/
def naturalContent (value : Nat) : List UInt8 :=
  match BigEndian.minimal value with
  | [] => [0]
  | first :: rest => if first < 0x80 then first :: rest else 0 :: first :: rest

def natural (value : Nat) : Element :=
  ⟨integerTag, naturalContent value⟩

theorem length_natural_le (value : Nat) :
    (natural value).content.length ≤ BigEndian.byteLength value + 1 := by
  have width : (BigEndian.minimal value).length = BigEndian.byteLength value :=
    BigEndian.length_fixed _ value
  rw [← width, natural, naturalContent]
  cases BigEndian.minimal value with
  | nil => exact Nat.le_refl 1
  | cons first rest =>
      by_cases below : first < 0x80
      · simp only [if_pos below]
        exact Nat.le_succ _
      · simp only [if_neg below]
        exact Nat.le_refl _

theorem isTag_natural (value : Nat) : isTag (natural value).tag = true :=
  have known : isTag integerTag = true := by decide
  known

theorem natural?_natural (value : Nat) : (natural value).natural? = some value := by
  have back := BigEndian.toNat_minimal value
  have content : (natural value).contentOf? integerTag = some (naturalContent value) := if_pos rfl
  rw [natural?, content]
  simp only [Option.bind_eq_bind, Option.bind_some]
  unfold naturalContent
  cases bytes : BigEndian.minimal value with
  | nil =>
      rw [bytes] at back
      rw [← back]
      rfl
  | cons first rest =>
      have nonzero := BigEndian.first_ne_zero bytes
      rw [bytes] at back
      simp only
      by_cases below : first < 0x80
      · rw [if_pos below]
        cases rest with
        | nil =>
            have single : BigEndian.toNat [first] = first.toNat := Nat.zero_add _
            rw [single] at back
            simp only [below, if_true, back]
        | cons second rest =>
            simp only [below, nonzero, ne_eq, not_false_eq_true, true_or, and_self, if_true, back]
      · have high : 0x80 ≤ first := UInt8.not_lt.mp below
        have zeroFirst : BigEndian.toNat (0 :: first :: rest) = BigEndian.toNat (first :: rest) := rfl
        rw [if_neg below]
        simp only [high, or_true, and_true, zeroFirst, back]
        rfl

end Element
end Der
end TokenAuthority
