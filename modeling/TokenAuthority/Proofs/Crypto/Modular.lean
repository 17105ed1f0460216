import Mathlib.Algebra.Group.Basic
import Mathlib.Data.Nat.Bitwise
import TokenAuthority.Crypto.Modular

/-!
# Powers by repeated squaring

The bits of the exponent are taken from the highest to the lowest.  After the bits above a position the
result is the power whose exponent is formed by them, so after all bits it is the power itself.
-/

namespace TokenAuthority
namespace Modular

/-- One step: the square, and once more the base where the exponent has a bit. -/
def powerStep (base exponent modulus position result : Nat) : Nat :=
  let square := result * result % modulus
  if exponent.testBit position then square * base % modulus else square

theorem power_eq_foldr (base exponent modulus : Nat) :
    power base exponent modulus =
      (List.range (exponent.log2 + 1)).foldr (powerStep base exponent modulus) (1 % modulus) :=
  rfl

/-- A step turns the power for the bits above a position into that for the bits from the position on. -/
theorem powerStep_pow (base exponent modulus position high : Nat) :
    powerStep base exponent modulus position (base ^ high % modulus) =
      base ^ (2 * high + (exponent.testBit position).toNat) % modulus := by
  have square : base ^ high % modulus * (base ^ high % modulus) % modulus =
      base ^ (2 * high) % modulus := by
    rw [← Nat.mul_mod, ← pow_add, two_mul]
  rw [powerStep, square]
  cases exponent.testBit position with
  | false => rfl
  | true =>
      have once : base ^ (2 * high) % modulus * base % modulus = base ^ (2 * high + 1) % modulus := by
        rw [Nat.mod_mul_mod, pow_succ]
      exact once

theorem foldr_powerStep (base exponent modulus count : Nat) : ∀ start,
    (List.range' start count).foldr (powerStep base exponent modulus) (1 % modulus) =
      base ^ ((exponent >>> start) % 2 ^ count) % modulus := by
  induction count with
  | zero =>
      intro start
      rw [pow_zero, Nat.mod_one, pow_zero]
      rfl
  | succ count ih =>
      intro start
      have bits : (exponent >>> start) % 2 ^ (count + 1) =
          2 * ((exponent >>> (start + 1)) % 2 ^ count) + (exponent.testBit start).toNat := by
        have low : (exponent.testBit start).toNat = (exponent >>> start) % 2 := by
          rw [Nat.testBit_eq_decide_div_mod_eq, Nat.shiftRight_eq_div_pow]
          rcases Nat.mod_two_eq_zero_or_one (exponent / 2 ^ start) with bit | bit <;> simp [bit]
        rw [low, Nat.shiftRight_succ, pow_succ', Nat.mod_mul, Nat.add_comm]
      rw [List.range'_succ, List.foldr_cons, ih, powerStep_pow, bits]

/-- Repeated squaring computes the power modulo the number. -/
theorem power_eq (base exponent modulus : Nat) :
    power base exponent modulus = base ^ exponent % modulus := by
  rw [power_eq_foldr, List.range_eq_range', foldr_powerStep, Nat.shiftRight_zero,
    Nat.mod_eq_of_lt Nat.lt_log2_self]

end Modular
end TokenAuthority
