import Mathlib.Algebra.Order.Ring.Nat
import Mathlib.Data.List.Induction
import TokenAuthority.Bytes.BigEndian

/-!
# Numbers as bytes, and back

Bytes and the number that they denote determine each other once the number of bytes is known.  A number
needs no more bytes than its byte length, and no fewer.
-/

namespace TokenAuthority
namespace BigEndian

theorem toNat_append_singleton (bytes : List UInt8) (byte : UInt8) :
    toNat (bytes ++ [byte]) = 256 * toNat bytes + byte.toNat := by
  rw [toNat, List.foldl_append]
  rfl

@[simp] theorem length_fixed (width value : Nat) : (fixed width value).length = width := by
  induction width generalizing value with
  | zero => rfl
  | succ width ih => rw [fixed, List.length_append, ih, List.length_singleton]

/-- The last bytes of a number denote it up to a multiple of the power of their number. -/
theorem toNat_fixed (width value : Nat) : toNat (fixed width value) = value % 256 ^ width := by
  induction width generalizing value with
  | zero => rw [pow_zero, Nat.mod_one]; rfl
  | succ width ih =>
      have last : (UInt8.ofNat (value % 256)).toNat = value % 256 := by
        rw [UInt8.toNat_ofNat']
        exact Nat.mod_mod value 256
      rw [fixed, toNat_append_singleton, ih, last, pow_succ', Nat.mod_mul, Nat.add_comm]

theorem toNat_lt (bytes : List UInt8) : toNat bytes < 256 ^ bytes.length := by
  induction bytes using List.reverseRecOn with
  | nil => decide
  | append_singleton bytes byte ih =>
      have digit := byte.toNat_lt
      rw [toNat_append_singleton, List.length_append, List.length_singleton, pow_succ']
      omega

/-- Bytes are given back by the number that they denote. -/
theorem fixed_toNat (bytes : List UInt8) : fixed bytes.length (toNat bytes) = bytes := by
  induction bytes using List.reverseRecOn with
  | nil => rfl
  | append_singleton bytes byte ih =>
      have digit := byte.toNat_lt
      have quotient : (256 * toNat bytes + byte.toNat) / 256 = toNat bytes := by omega
      have remainder : (256 * toNat bytes + byte.toNat) % 256 = byte.toNat := by omega
      rw [toNat_append_singleton, List.length_append, List.length_singleton, fixed, quotient,
        remainder, ih, UInt8.ofNat_toNat]

/-! ## Lengths -/

theorem lt_pow_byteLength (value : Nat) : value < 256 ^ byteLength value := by
  have base : (256 : Nat) = 2 ^ 8 := rfl
  rw [byteLength, bitLength]
  split
  next zero => simp [zero]
  · have bits : value < 2 ^ (value.log2 + 1) := Nat.lt_log2_self
    have enough : value.log2 + 1 ≤ 8 * ((value.log2 + 1 + 7) / 8) := by omega
    rw [base, ← pow_mul]
    exact bits.trans_le (Nat.pow_le_pow_right (by decide) enough)

theorem pow_byteLength_le {value : Nat} (positive : 0 < value) :
    256 ^ (byteLength value - 1) ≤ value := by
  have base : (256 : Nat) = 2 ^ 8 := rfl
  have nonzero : value ≠ 0 := Nat.ne_of_gt positive
  rw [byteLength, bitLength, if_neg nonzero]
  have bits : 2 ^ value.log2 ≤ value := Nat.log2_self_le nonzero
  have enough : 8 * ((value.log2 + 1 + 7) / 8 - 1) ≤ value.log2 := by omega
  rw [base, ← pow_mul]
  exact (Nat.pow_le_pow_right (by decide) enough).trans bits

/-! ## As few bytes as possible -/

@[simp] theorem toNat_minimal (value : Nat) : toNat (minimal value) = value := by
  rw [minimal, toNat_fixed, Nat.mod_eq_of_lt (lt_pow_byteLength value)]

theorem first_ne_zero {value : Nat} {first : UInt8} {rest : List UInt8}
    (bytes : minimal value = first :: rest) : first ≠ 0 := by
  rintro rfl
  have width : rest.length = byteLength value - 1 := by
    have length := length_fixed (byteLength value) value
    rw [← minimal, bytes, List.length_cons] at length
    omega
  have positive : 0 < value := by
    rcases Nat.eq_zero_or_pos value with rfl | positive
    · cases bytes
    · exact positive
  have lower := pow_byteLength_le positive
  have upper := toNat_lt rest
  have same : toNat rest = value := by
    have back := toNat_minimal value
    rw [bytes] at back
    exact back
  rw [width, same] at upper
  omega

end BigEndian
end TokenAuthority
