import TokenAuthority.Keys.Keyring
import TokenAuthority.Proofs.Crypto.ProthPrimes

/-!
# Reliable key pairs

A pair is formed of two halves when the public one verifies the signature of the private one for a single
message.  That it verifies the signatures for all other messages is not checked again when the pair signs.  A
pair that does verify all of its own signatures, and that never fails to sign, is called reliable.

Nothing about a stored key shows that it is reliable, since its parts may be forged.  An RSA key checks every
signature with the public key that it holds, so a pair of an RSA key and this public key verifies its own
signatures, and if the key is genuine the pair is reliable.

The probe does not make a pair reliable.  A public key of three times the modulus verifies a signature of the
private key if it happens to hold modulo three as well.  This may be so for the probe and for other messages not.
-/

namespace TokenAuthority
namespace KeyPair

/-- The pair signs every message. -/
def SignsAll (pair : KeyPair) : Prop :=
  ∀ message, ∃ signature, pair.sign? message = some signature

/-- The pair verifies all signatures that it makes. -/
def VerifiesOwn (pair : KeyPair) : Prop :=
  ∀ message signature, pair.sign? message = some signature →
    pair.verifying.verifies message signature = true

/-- The pair signs every message, with a signature that it verifies. -/
structure IsReliable (pair : KeyPair) : Prop where
  signs : pair.SignsAll
  verifiesOwn : pair.VerifiesOwn

/-- The pair signs what new pairs have to sign, with a signature that it verifies. -/
def PassesProbe (pair : KeyPair) : Prop :=
  ∃ signature, pair.signing.sign? probe = some signature ∧
    pair.verifying.verifies probe signature = true

instance (pair : KeyPair) : Decidable pair.PassesProbe :=
  decidable_of_iff ((pair.signing.sign? probe).any (pair.verifying.verifies probe) = true)
    (Option.any_eq_true ..)

/-- What a pair signs is up to its private half. -/
theorem SignsAll.of_signing_eq {pair other : KeyPair} (signs : other.SignsAll)
    (same : pair.signing = other.signing) : pair.SignsAll := by
  intro message
  rw [KeyPair.sign?, same]
  exact signs message

theorem IsReliable.passesProbe {pair : KeyPair} (reliable : pair.IsReliable) : pair.PassesProbe := by
  rcases reliable.signs probe with ⟨signature, signed⟩
  exact ⟨signature, signed, reliable.verifiesOwn probe signature signed⟩

/-- A pair that passes the probe is taken for one. -/
theorem ofHalves_of_passesProbe {pair : KeyPair} (passes : pair.PassesProbe) (name : String) :
    ofHalves name (some pair.signing) pair.verifying = .ok pair := by
  rcases passes with ⟨signature, signed, verified⟩
  simp only [ofHalves, signed]
  exact if_pos verified

section

variable {key : Rsa.PrivateKey} {verifying : VerifyingKey} {message signature : List UInt8}

/-- The signature that a pair makes is the one of its private half. -/
theorem eq_signature_of_sign? (signed : (KeyPair.mk (.rsa key) verifying).sign? message = some signature) :
    signature = key.signature message :=
  Rsa.PrivateKey.eq_signature_of_sign? signed

/-- An RSA key with the public key that it holds verifies its own signatures, genuine or not. -/
theorem verifiesOwn_rsa (key : Rsa.PrivateKey) :
    (KeyPair.mk (.rsa key) (.rsa key.publicKey)).VerifiesOwn :=
  fun _ _ signed => Rsa.PrivateKey.verifies_of_sign? signed

/-- A genuine RSA key makes a reliable pair. -/
theorem isReliable_rsa (genuine : key.IsGenuine) :
    (KeyPair.mk (.rsa key) (.rsa key.publicKey)).IsReliable where
  signs := by
    intro message
    rcases genuine.exists_sign? message with ⟨signature, signed, _⟩
    exact ⟨signature, signed⟩
  verifiesOwn := verifiesOwn_rsa key

end

/-- A pair of RSA halves that is reliable. -/
def proth : KeyPair :=
  ⟨.rsa Rsa.prothKey, .rsa Rsa.prothKey.publicKey⟩

theorem isReliable_proth : proth.IsReliable :=
  isReliable_rsa Rsa.isGenuine_prothKey

/-- Another pair of RSA halves, with a shorter modulus. -/
def shortProth : KeyPair :=
  ⟨.rsa Rsa.shortProthKey, .rsa Rsa.shortProthKey.publicKey⟩

theorem isReliable_shortProth : shortProth.IsReliable :=
  isReliable_rsa Rsa.isGenuine_shortProthKey

/-! ## A pair that passes the probe -/

/-- A key that verifies modulo three times the modulus of the short key. -/
def tripledKey : Rsa.PublicKey where
  modulus := 3 * Rsa.shortProthKey.publicKey.modulus
  exponent := Rsa.shortProthKey.publicKey.exponent

/-- The short pair, but for the key that verifies. -/
def tripled : KeyPair :=
  ⟨.rsa Rsa.shortProthKey, .rsa tripledKey⟩

/-- The signature of the short key for a message holds modulo three as well. -/
def holdsTripled (message : List UInt8) : Bool :=
  let value := BigEndian.toNat (Rsa.frame 256 message)
  Modular.power (Rsa.shortProthKey.power value) tripledKey.exponent tripledKey.modulus == value

theorem verifies_tripledKey (message : List UInt8) :
    (VerifyingKey.rsa tripledKey).verifies message (Rsa.shortProthKey.signature message) =
      holdsTripled message := by
  have length : BigEndian.byteLength Rsa.shortProthKey.publicKey.modulus = 256 := by decide +kernel
  have sameLength : BigEndian.byteLength tripledKey.modulus = 256 := by decide +kernel
  have small : Rsa.shortProthKey.power (BigEndian.toNat (Rsa.frame 256 message)) <
      tripledKey.modulus :=
    (Rsa.isGenuine_shortProthKey.power_lt _).trans_le (Nat.le_mul_of_pos_left _ (by decide))
  have verified :=
    Rsa.PublicKey.verifies_fixed_iff (by decide +kernel) (by decide +kernel) small message
  rw [sameLength] at verified
  rw [VerifyingKey.verifies, Bool.eq_iff_iff, Rsa.PrivateKey.signature, length, verified, holdsTripled,
    beq_iff_eq]

theorem signsAll_tripled : tripled.SignsAll :=
  isReliable_shortProth.signs.of_signing_eq rfl

/-- What the pair signs it verifies or not, as the signature holds modulo three. -/
theorem verifies_of_sign?_tripled {message signature : List UInt8}
    (signed : tripled.sign? message = some signature) :
    tripled.verifying.verifies message signature = holdsTripled message := by
  rw [eq_signature_of_sign? signed]
  exact verifies_tripledKey message

theorem passesProbe_tripled : tripled.PassesProbe := by
  rcases signsAll_tripled probe with ⟨signature, signed⟩
  have holds : holdsTripled probe = true := by decide +kernel
  exact ⟨signature, signed, (verifies_of_sign?_tripled signed).trans holds⟩

end KeyPair

namespace Keyring

/-- A ring of one reliable key. -/
def proth : Keyring where
  signing := ⟨"proth", KeyPair.proth⟩
  audience := "res_ManagementPortal"
  leeway := 10

theorem isReliable_proth : proth.signing.pair.IsReliable :=
  KeyPair.isReliable_proth

end Keyring
end TokenAuthority
