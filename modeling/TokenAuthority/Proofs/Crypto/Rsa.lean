import Mathlib.FieldTheory.Finite.Basic
import TokenAuthority.Crypto.Rsa
import TokenAuthority.Proofs.Bytes.BigEndian
import TokenAuthority.Proofs.Crypto.Modular

/-!
# RSA keys verify what they sign

A genuine private key is made of two primes, the exponents that belong to them and the inverse of one
modulo the other.  The signature is computed modulo each prime and put together, and its power by the
public exponent is the framed hash again: modulo each prime by the theorem of Fermat, and then modulo the
product, since the primes are distinct.

A genuine key therefore signs every message.  The hash enters only through its length.
-/

namespace TokenAuthority
namespace Rsa

/-- A private key whose parts are what they are said to be. -/
structure PrivateKey.IsGenuine (key : PrivateKey) : Prop where
  firstPrime : key.firstPrime.Prime
  secondPrime : key.secondPrime.Prime
  modulus : key.firstPrime * key.secondPrime = key.publicKey.modulus
  atLeast : 2041 ≤ BigEndian.bitLength key.publicKey.modulus
  atMost : BigEndian.bitLength key.publicKey.modulus ≤ 8192
  firstExponent : key.publicKey.exponent * key.firstExponent % (key.firstPrime - 1) = 1
  secondExponent : key.publicKey.exponent * key.secondExponent % (key.secondPrime - 1) = 1
  inverse : key.secondPrime * key.inverse % key.firstPrime = 1

/-! ## Powers -/

/-- A power by an exponent that is one modulo the prime less one is the value itself. -/
theorem pow_modEq_self {prime exponent : Nat} (isPrime : prime.Prime)
    (one : exponent % (prime - 1) = 1) (value : Nat) : value ^ exponent ≡ value [MOD prime] := by
  have : Fact prime.Prime := ⟨isPrime⟩
  have parts := Nat.div_add_mod exponent (prime - 1)
  rw [one] at parts
  rw [← ZMod.natCast_eq_natCast_iff, Nat.cast_pow, ← parts]
  by_cases zero : (value : ZMod prime) = 0
  · rw [zero, pow_succ, mul_zero]
  · rw [pow_succ, pow_mul, ZMod.pow_card_sub_one_eq_one zero, one_pow, one_mul]

section

variable {key : PrivateKey}

/-- The primes are distinct, since one has an inverse modulo the other. -/
theorem PrivateKey.IsGenuine.coprime (genuine : key.IsGenuine) :
    key.firstPrime.Coprime key.secondPrime := by
  rw [Nat.coprime_primes genuine.firstPrime genuine.secondPrime]
  intro same
  have inverse := genuine.inverse
  rw [← same, Nat.mul_mod_right] at inverse
  exact Nat.zero_ne_one inverse

/-- The multiple of the second prime that is added to the power modulo it. -/
def PrivateKey.correction (key : PrivateKey) (value : Nat) : Nat :=
  (value ^ key.firstExponent % key.firstPrime + key.firstPrime -
    value ^ key.secondExponent % key.secondPrime % key.firstPrime) * key.inverse % key.firstPrime

theorem PrivateKey.power_eq (key : PrivateKey) (value : Nat) :
    key.power value =
      value ^ key.secondExponent % key.secondPrime + key.secondPrime * key.correction value := by
  rw [PrivateKey.power, Modular.power_eq, Modular.power_eq]
  rfl

theorem PrivateKey.power_modEq_second (key : PrivateKey) (value : Nat) :
    key.power value ≡ value ^ key.secondExponent [MOD key.secondPrime] := by
  rw [power_eq, Nat.ModEq, Nat.add_mul_mod_self_left, Nat.mod_mod]

/-- The correction turns the second power into the first one, modulo the first prime. -/
theorem PrivateKey.IsGenuine.power_modEq_first (genuine : key.IsGenuine) (value : Nat) :
    key.power value ≡ value ^ key.firstExponent [MOD key.firstPrime] := by
  have inverse : key.secondPrime * key.inverse ≡ 1 [MOD key.firstPrime] := by
    rw [Nat.ModEq, genuine.inverse, Nat.mod_eq_of_lt genuine.firstPrime.one_lt]
  rw [key.power_eq, PrivateKey.correction]
  generalize value ^ key.secondExponent % key.secondPrime = second
  generalize value ^ key.firstExponent = power
  have below : second % key.firstPrime < key.firstPrime := Nat.mod_lt _ genuine.firstPrime.pos
  calc
    second + key.secondPrime * ((power % key.firstPrime + key.firstPrime -
          second % key.firstPrime) * key.inverse % key.firstPrime)
      ≡ second + key.secondPrime * ((power % key.firstPrime + key.firstPrime -
          second % key.firstPrime) * key.inverse) [MOD key.firstPrime] :=
        ((Nat.mod_modEq _ _).mul_left _).add_left _
    _ = second + (power % key.firstPrime + key.firstPrime - second % key.firstPrime) *
          (key.secondPrime * key.inverse) := by
        rw [Nat.mul_left_comm]
    _ ≡ second + (power % key.firstPrime + key.firstPrime - second % key.firstPrime) * 1
          [MOD key.firstPrime] :=
        (inverse.mul_left _).add_left _
    _ ≡ second % key.firstPrime + (power % key.firstPrime + key.firstPrime -
          second % key.firstPrime) * 1 [MOD key.firstPrime] :=
        (Nat.mod_modEq _ _).symm.add_right _
    _ = power % key.firstPrime + key.firstPrime := by omega
    _ ≡ power % key.firstPrime [MOD key.firstPrime] := Nat.add_mod_right _ _
    _ ≡ power [MOD key.firstPrime] := Nat.mod_modEq _ _

theorem PrivateKey.IsGenuine.power_lt (genuine : key.IsGenuine) (value : Nat) :
    key.power value < key.publicKey.modulus := by
  have low : value ^ key.secondExponent % key.secondPrime < key.secondPrime :=
    Nat.mod_lt _ genuine.secondPrime.pos
  have high : key.correction value + 1 ≤ key.firstPrime := Nat.mod_lt _ genuine.firstPrime.pos
  calc
    key.power value
      = value ^ key.secondExponent % key.secondPrime + key.secondPrime * key.correction value :=
        key.power_eq value
    _ < key.secondPrime + key.secondPrime * key.correction value := Nat.add_lt_add_right low _
    _ = key.secondPrime * (key.correction value + 1) := by rw [Nat.mul_succ, Nat.add_comm]
    _ ≤ key.secondPrime * key.firstPrime := Nat.mul_le_mul_left _ high
    _ = key.publicKey.modulus := by rw [Nat.mul_comm, genuine.modulus]

/-- The public power of the private power of a value is the value. -/
theorem PrivateKey.IsGenuine.power_power (genuine : key.IsGenuine) {value : Nat}
    (small : value < key.publicKey.modulus) :
    Modular.power (key.power value) key.publicKey.exponent key.publicKey.modulus = value := by
  have back : ∀ prime exponent : Nat, prime.Prime →
      key.publicKey.exponent * exponent % (prime - 1) = 1 →
      key.power value ≡ value ^ exponent [MOD prime] →
      key.power value ^ key.publicKey.exponent ≡ value [MOD prime] := by
    intro prime exponent isPrime one power
    have raised := power.pow key.publicKey.exponent
    rw [← pow_mul, Nat.mul_comm] at raised
    exact raised.trans (pow_modEq_self isPrime one value)
  have first := back key.firstPrime key.firstExponent genuine.firstPrime genuine.firstExponent
    (genuine.power_modEq_first value)
  have second := back key.secondPrime key.secondExponent genuine.secondPrime genuine.secondExponent
    (key.power_modEq_second value)
  have both := (Nat.modEq_and_modEq_iff_modEq_mul genuine.coprime).mp ⟨first, second⟩
  rw [genuine.modulus] at both
  rw [Modular.power_eq, both, Nat.mod_eq_of_lt small]

end

/-! ## Frames -/

theorem length_frame {length : Nat} (enough : 54 ≤ length) (message : List UInt8) :
    (frame length message).length = length := by
  have hash : (Hash.sha256.digest message).length ≤ 32 := List.length_take_le _ _
  simp only [frame, List.length_append, List.length_cons, List.length_nil, List.length_replicate]
  omega

/-- A frame starts with a zero, so the number that it denotes is less than one of the same length. -/
theorem toNat_frame_lt {modulus : Nat} (enough : 54 ≤ BigEndian.byteLength modulus)
    (message : List UInt8) :
    BigEndian.toNat (frame (BigEndian.byteLength modulus) message) < modulus := by
  have positive : 0 < modulus := by
    rcases Nat.eq_zero_or_pos modulus with rfl | positive
    · exact absurd enough (by decide)
    · exact positive
  have zeroFirst : ∃ rest, frame (BigEndian.byteLength modulus) message = 0x00 :: rest := ⟨_, rfl⟩
  rcases zeroFirst with ⟨rest, starts⟩
  have length := length_frame enough message
  rw [starts, List.length_cons] at length
  have value : BigEndian.toNat (0x00 :: rest) = BigEndian.toNat rest := rfl
  have shorter : rest.length = BigEndian.byteLength modulus - 1 := by omega
  rw [starts, value]
  calc
    BigEndian.toNat rest < 256 ^ rest.length := BigEndian.toNat_lt rest
    _ = 256 ^ (BigEndian.byteLength modulus - 1) := by rw [shorter]
    _ ≤ modulus := BigEndian.pow_byteLength_le positive

/-! ## Signatures -/

/-- A number below the modulus is a signature if its public power is the number that the frame denotes. -/
theorem PublicKey.verifies_fixed_iff {key : PublicKey} (atLeast : 2041 ≤ BigEndian.bitLength key.modulus)
    (atMost : BigEndian.bitLength key.modulus ≤ 8192) {value : Nat} (small : value < key.modulus)
    (message : List UInt8) :
    key.verifies message (BigEndian.fixed (BigEndian.byteLength key.modulus) value) = true ↔
      Modular.power value key.exponent key.modulus =
        BigEndian.toNat (frame (BigEndian.byteLength key.modulus) message) := by
  have enough : 54 ≤ BigEndian.byteLength key.modulus := by
    unfold BigEndian.byteLength
    omega
  have restored : ∀ number < key.modulus,
      BigEndian.toNat (BigEndian.fixed (BigEndian.byteLength key.modulus) number) = number := by
    intro number below
    rw [BigEndian.toNat_fixed]
    exact Nat.mod_eq_of_lt (below.trans (BigEndian.lt_pow_byteLength key.modulus))
  have powerSmall : Modular.power value key.exponent key.modulus < key.modulus := by
    rw [Modular.power_eq]
    exact Nat.mod_lt _ (Nat.zero_lt_of_lt small)
  have framed : BigEndian.fixed (BigEndian.byteLength key.modulus)
      (BigEndian.toNat (frame (BigEndian.byteLength key.modulus) message)) =
        frame (BigEndian.byteLength key.modulus) message := by
    have same := BigEndian.fixed_toNat (frame (BigEndian.byteLength key.modulus) message)
    rwa [length_frame enough message] at same
  simp only [verifies, restored value small, BigEndian.length_fixed, atLeast, atMost, small, decide_true,
    beq_self_eq_true, Bool.and_self, Bool.true_and, beq_iff_eq]
  constructor
  · intro same
    rw [← same, restored _ powerSmall]
  · intro same
    rw [same, framed]

/-- The only signature that a key can hand out for a message. -/
def PrivateKey.signature (key : PrivateKey) (message : List UInt8) : List UInt8 :=
  let length := BigEndian.byteLength key.publicKey.modulus
  BigEndian.fixed length (key.power (BigEndian.toNat (frame length message)))

theorem PrivateKey.eq_signature_of_sign? {key : PrivateKey} {message signature : List UInt8}
    (signed : key.sign? message = some signature) : signature = key.signature message := by
  simp only [sign?] at signed
  split at signed
  · exact (Option.some.inj signed).symm
  · cases signed

/-- A signature verifies with the public key that the private key holds, whatever its other parts are. -/
theorem PrivateKey.verifies_of_sign? {key : PrivateKey} {message signature : List UInt8}
    (signed : key.sign? message = some signature) : key.publicKey.verifies message signature = true := by
  simp only [sign?] at signed
  split at signed
  next verified => exact Option.some.inj signed ▸ verified
  · cases signed

/-- A genuine key signs every message, with a signature that verifies. -/
theorem PrivateKey.IsGenuine.exists_sign? {key : PrivateKey} (genuine : key.IsGenuine)
    (message : List UInt8) :
    ∃ signature, key.sign? message = some signature ∧
      key.publicKey.verifies message signature = true := by
  have atLeast := genuine.atLeast
  have enough : 54 ≤ BigEndian.byteLength key.publicKey.modulus := by
    unfold BigEndian.byteLength
    omega
  have verified : key.publicKey.verifies message (key.signature message) = true :=
    (PublicKey.verifies_fixed_iff genuine.atLeast genuine.atMost (genuine.power_lt _) message).mpr
      (genuine.power_power (toNat_frame_lt enough message))
  refine ⟨key.signature message, ?_, verified⟩
  rw [signature] at verified
  rw [sign?, verified, if_pos rfl, signature]

end Rsa
end TokenAuthority
