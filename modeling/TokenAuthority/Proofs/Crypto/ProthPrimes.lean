import Mathlib.GroupTheory.OrderOfElement
import TokenAuthority.Proofs.Crypto.Rsa

/-!
# Keys from Proth primes

A number `factor * 2 ^ n + 1` with a small first factor is prime as soon as half of the exponent of Fermat
takes some base to minus one.  One power therefore shows that such a number is prime, at any size, and a
key of 2048 bits that is made of two such primes is seen to be genuine.

The keys at the end show that genuine keys exist.  Their primes are close to each other, so they keep no
secret.
-/

namespace TokenAuthority
namespace Rsa

/-- A small multiple of a power of two, and one. -/
def prothNumber (factor position : Nat) : Nat :=
  factor * 2 ^ (position + 1) + 1

section

variable {factor position : Nat}

/-- A prime factor is greater than the power of two, since this is the order of a power of the base. -/
theorem pow_lt_of_prime_dvd {prime base : Nat} (isPrime : prime.Prime)
    (divides : prime ∣ prothNumber factor position)
    (minusOne : Modular.power base (factor * 2 ^ position) (prothNumber factor position) =
      factor * 2 ^ (position + 1)) :
    2 ^ (position + 1) < prime := by
  unfold prothNumber at divides minusOne
  have double : factor * 2 ^ (position + 1) = 2 * (factor * 2 ^ position) := by
    rw [pow_succ']
    exact Nat.mul_left_comm factor 2 _
  have notTwo : 2 ≠ prime := by
    rintro rfl
    omega
  have : Fact prime.Prime := ⟨isPrime⟩
  have : Fact (2 < prime) := ⟨lt_of_le_of_ne isPrime.two_le notTwo⟩
  have vanishes : ((factor * 2 ^ (position + 1) : Nat) : ZMod prime) = -1 := by
    have zero := (ZMod.natCast_eq_zero_iff _ _).mpr divides
    rw [Nat.cast_succ] at zero
    exact eq_neg_of_add_eq_zero_left zero
  have half : (base : ZMod prime) ^ (factor * 2 ^ position) = -1 := by
    have congruent := (Nat.mod_modEq (base ^ (factor * 2 ^ position)) _).of_dvd divides
    rw [← Modular.power_eq, minusOne, ← ZMod.natCast_eq_natCast_iff, vanishes, Nat.cast_pow]
      at congruent
    exact congruent.symm
  have before : ¬ ((base : ZMod prime) ^ factor) ^ 2 ^ position = 1 := by
    rw [← pow_mul, half]
    exact ZMod.neg_one_ne_one
  have after : ((base : ZMod prime) ^ factor) ^ 2 ^ (position + 1) = 1 := by
    rw [← pow_mul, double, Nat.mul_comm 2, pow_mul, half, neg_one_sq]
  have nonzero : (base : ZMod prime) ^ factor ≠ 0 := by
    intro zero
    rw [zero, zero_pow (Nat.two_pow_pos _).ne'] at after
    exact zero_ne_one after
  have order := ZMod.orderOf_dvd_card_sub_one nonzero
  rw [orderOf_eq_prime_pow before after] at order
  have bound := Nat.le_of_dvd (Nat.sub_pos_of_lt isPrime.one_lt) order
  have positive := isPrime.pos
  omega

/-- The test of Proth: a smallest prime factor would be too great. -/
theorem prime_of_power_eq (base : Nat) (positive : 0 < factor) (small : factor < 2 ^ (position + 1))
    (minusOne : Modular.power base (factor * 2 ^ position) (prothNumber factor position) =
      factor * 2 ^ (position + 1)) :
    (prothNumber factor position).Prime := by
  have product : 0 < factor * 2 ^ (position + 1) := Nat.mul_pos positive (Nat.two_pow_pos _)
  by_contra composite
  have notOne : prothNumber factor position ≠ 1 := by
    unfold prothNumber
    omega
  have square := Nat.minFac_sq_le_self (Nat.succ_pos _) composite
  have beyond := pow_lt_of_prime_dvd (Nat.minFac_prime notOne) (Nat.minFac_dvd _) minusOne
  have tooGreat : (2 ^ (position + 1) + 1) * (2 ^ (position + 1) + 1) ≤
      factor * 2 ^ (position + 1) + 1 := by
    rw [pow_two] at square
    exact (Nat.mul_le_mul beyond beyond).trans square
  have bound : factor * 2 ^ (position + 1) < 2 ^ (position + 1) * 2 ^ (position + 1) :=
    Nat.mul_lt_mul_of_pos_right small (Nat.two_pow_pos _)
  rw [Nat.add_mul, Nat.mul_add] at tooGreat
  omega

/-- What the test of Proth computes. -/
def PassesTest (factor position base : Nat) : Prop :=
  0 < factor ∧ factor < 2 ^ (position + 1) ∧
    Modular.power base (factor * 2 ^ position) (prothNumber factor position) = factor * 2 ^ (position + 1)

instance (factor position base : Nat) : Decidable (PassesTest factor position base) :=
  inferInstanceAs (Decidable (_ ∧ _ ∧ _))

theorem prime_of_passesTest {base : Nat} (passes : PassesTest factor position base) :
    (prothNumber factor position).Prime :=
  prime_of_power_eq base passes.1 passes.2.1 passes.2.2

end

/-- All that is computed to see that a key with two Proth primes is genuine and consistent. -/
def PrivateKey.PassesTests (key : PrivateKey) (position : Nat) (first second : Nat × Nat) : Prop :=
  PassesTest first.1 position first.2 ∧ PassesTest second.1 position second.2 ∧
    key.firstPrime = prothNumber first.1 position ∧ key.secondPrime = prothNumber second.1 position ∧
    key.isConsistent = true ∧
    key.publicKey.exponent * key.firstExponent % (key.firstPrime - 1) = 1 ∧
    key.publicKey.exponent * key.secondExponent % (key.secondPrime - 1) = 1

instance (key : PrivateKey) (position : Nat) (first second : Nat × Nat) :
    Decidable (key.PassesTests position first second) :=
  inferInstanceAs (Decidable (_ ∧ _ ∧ _ ∧ _ ∧ _ ∧ _ ∧ _))

section

variable {key : PrivateKey} {position : Nat} {first second : Nat × Nat}

theorem PrivateKey.PassesTests.isConsistent (passes : key.PassesTests position first second) :
    key.isConsistent = true :=
  passes.2.2.2.2.1

/-- A key of two numbers that pass the test is genuine if its other parts belong to them. -/
theorem PrivateKey.PassesTests.isGenuine (passes : key.PassesTests position first second) :
    key.IsGenuine := by
  rcases passes with
    ⟨firstPasses, secondPasses, isFirst, isSecond, consistent, firstExponent, secondExponent⟩
  simp only [PrivateKey.isConsistent, Bool.and_eq_true, decide_eq_true_eq, beq_iff_eq] at consistent
  constructor
  case firstPrime => exact isFirst ▸ prime_of_passesTest firstPasses
  case secondPrime => exact isSecond ▸ prime_of_passesTest secondPasses
  case firstExponent => exact firstExponent
  case secondExponent => exact secondExponent
  all_goals omega

end

/-- An RSA key of 2048 bits. -/
def prothKey : PrivateKey :=
  let firstPrime := prothNumber 62326 1007
  let secondPrime := prothNumber 62325 1007
  { publicKey := ⟨firstPrime * secondPrime, 65537⟩
    exponent := (44813 * ((firstPrime - 1) * (secondPrime - 1)) + 1) / 65537
    firstPrime
    secondPrime
    firstExponent := (20104 * (firstPrime - 1) + 1) / 65537
    secondExponent := (40828 * (secondPrime - 1) + 1) / 65537
    inverse := 62326 }

theorem passesTests_prothKey : prothKey.PassesTests 1007 (62326, 3) (62325, 7) := by
  decide +kernel

theorem isGenuine_prothKey : prothKey.IsGenuine :=
  passesTests_prothKey.isGenuine

/-- The parts of the key are accepted where an encoded key is read. -/
theorem isConsistent_prothKey : prothKey.isConsistent = true :=
  passesTests_prothKey.isConsistent

/-- An RSA key of 2047 bits.  Three times its modulus takes no more bytes than the modulus. -/
def shortProthKey : PrivateKey :=
  let firstPrime := prothNumber 4405965 1000
  let secondPrime := prothNumber 4405964 1000
  { publicKey := ⟨firstPrime * secondPrime, 65537⟩
    exponent := (63244 * ((firstPrime - 1) * (secondPrime - 1)) + 1) / 65537
    firstPrime
    secondPrime
    firstExponent := (56983 * (firstPrime - 1) + 1) / 65537
    secondExponent := (62633 * (secondPrime - 1) + 1) / 65537
    inverse := 4405965 }

theorem passesTests_shortProthKey : shortProthKey.PassesTests 1000 (4405965, 7) (4405964, 3) := by
  decide +kernel

theorem isGenuine_shortProthKey : shortProthKey.IsGenuine :=
  passesTests_shortProthKey.isGenuine

theorem isConsistent_shortProthKey : shortProthKey.isConsistent = true :=
  passesTests_shortProthKey.isConsistent

end Rsa
end TokenAuthority
