import TokenAuthority.Proofs.Keys.Encodings
import TokenAuthority.Proofs.Keys.Formation

/-!
# Which pairs are accepted

An accepted pair is an RSA pair or a pair on the curve P-256, and signs under the algorithm of its kind.  Both
halves name that kind of keys, and the public one verifies the first signature of the private one.

For a pair on a curve the private half has to name P-256, and the key of the public half has to be a point of P-256.
Which curve the public half names is not looked at, so there is a pair at the end whose halves name two.
-/

namespace TokenAuthority

/-- The curve that the parameters of an algorithm name. -/
def AlgorithmId.curve? (algorithm : AlgorithmId) : Option ObjectId :=
  algorithm.parameters.bind ObjectId.ofElement?

/-- A point that is written with both coordinates, in 65 bytes. -/
def P256.IsUncompressed (bytes : List UInt8) : Prop :=
  bytes.length = 65 ∧ bytes.head? = some 0x04

theorem P256.PublicKey.isUncompressed_of_ofBytes? {bytes : List UInt8} {key : P256.PublicKey}
    (read : ofBytes? bytes = some key) : P256.IsUncompressed bytes := by
  unfold ofBytes? at read
  split_ifs at read with uncompressed
  exact uncompressed

/-- Only a point of the curve verifies signatures. -/
theorem VerifyingKey.isOnCurve_of_verifies {point : P256.PublicKey} {message signature : List UInt8}
    (verified : (p256 point).verifies message signature = true) : point.isOnCurve = true := by
  simp only [verifies, P256.PublicKey.verifies] at verified
  split at verified
  next bounds => exact bounds.2.2.2.2.2
  · cases verified

namespace KeyPair

/-- What the halves of a pair say about its kind.  A private half on a curve says that the curve is P-256; of the
public half the point says so, whatever curve it names. -/
inductive IsKindOf (pair : KeyPair) (secret : PrivateKeyInfo) (known : PublicKeyInfo) : Prop
  | rsa (secretName : secret.algorithm.name = rsaName) (knownName : known.algorithm.name = rsaName)
      (algorithm : pair.algorithm = .rs256)
  | p256 (secretName : secret.algorithm.name = curveKeyName)
      (secretCurve : secret.algorithm.curve? = some p256Name) (knownName : known.algorithm.name = curveKeyName)
      (uncompressed : P256.IsUncompressed known.key) {point : P256.PublicKey}
      (verifying : pair.verifying = .p256 point) (onCurve : point.isOnCurve = true)
      (algorithm : pair.algorithm = .es256)

section

variable {name : String} {encoded : EncodedPair} {pair : KeyPair} {secret : PrivateKeyInfo} {known : PublicKeyInfo}

theorem IsKindOf.sameKind (isKind : pair.IsKindOf secret known) : known.algorithm.name = secret.algorithm.name := by
  cases isKind with
  | rsa secretName knownName => exact knownName.trans secretName.symm
  | p256 secretName _ knownName => exact knownName.trans secretName.symm

/-- A pair has the kind that its halves name. -/
theorem IsOf.isKindOf (isOf : pair.IsOf secret known) : pair.IsKindOf secret known := by
  have signing := isOf.signing
  have verifying := isOf.verifying
  rw [PrivateKeyInfo.signingKey?] at signing
  rw [PublicKeyInfo.verifyingKey?, isOf.sameKind] at verifying
  by_cases isRsa : secret.algorithm.name = rsaName
  · rw [if_pos isRsa] at verifying
    rcases Option.map_eq_some_iff.mp verifying with ⟨key, _, isKey⟩
    refine .rsa isRsa (isOf.sameKind.trans isRsa) ?_
    rw [algorithm, ← isKey]
    rfl
  · rw [if_neg isRsa] at signing verifying
    split_ifs at signing with isCurve
    rw [if_pos isCurve.1] at verifying
    rcases Option.map_eq_some_iff.mp verifying with ⟨point, read, isPoint⟩
    rcases isOf.passesProbe with ⟨_, _, verified⟩
    rw [← isPoint] at verified
    refine .p256 isCurve.1 isCurve.2 (isOf.sameKind.trans isCurve.1)
      (P256.PublicKey.isUncompressed_of_ofBytes? read) isPoint.symm
      (VerifyingKey.isOnCurve_of_verifies verified) ?_
    rw [algorithm, ← isPoint]
    rfl

/-- A pair is accepted exactly if its halves are of one of the two kinds, its keys are those of the halves, and the
one verifies what the other signs. -/
theorem ofEncoded_eq_ok_iff_isKindOf :
    ofEncoded name encoded = .ok pair ↔
      ∃ secret known, PrivateKeyInfo.ofDer? encoded.privateKey = some secret ∧
        PublicKeyInfo.ofDer? encoded.publicKey = some known ∧ pair.IsKindOf secret known ∧
        secret.signingKey? = some pair.signing ∧ known.verifyingKey? = some pair.verifying ∧
        ∃ signature, pair.signing.sign? probe = some signature ∧
          pair.verifying.verifies probe signature = true := by
  rw [ofEncoded_eq_ok_iff]
  constructor
  · rintro ⟨secret, known, readSecret, readKnown, isOf⟩
    exact ⟨secret, known, readSecret, readKnown, isOf.isKindOf, isOf.signing, isOf.verifying,
      isOf.passesProbe⟩
  · rintro ⟨secret, known, readSecret, readKnown, isKind, signing, verifying, passes⟩
    exact ⟨secret, known, readSecret, readKnown, isKind.sameKind, signing, verifying, passes⟩

/-- Of a public half on a curve nothing is looked at but the point. -/
theorem IsOf.of_sameKey (isOf : pair.IsOf secret known) (onCurve : known.algorithm.name = curveKeyName)
    {other : PublicKeyInfo} (sameName : other.algorithm.name = known.algorithm.name) (sameKey : other.key = known.key) :
    pair.IsOf secret other := by
  have notRsa : curveKeyName ≠ rsaName := by decide
  refine ⟨sameName.trans isOf.sameKind, isOf.signing, ?_, isOf.passesProbe⟩
  have verifying := isOf.verifying
  rw [PublicKeyInfo.verifyingKey?, onCurve, if_neg notRsa, if_pos rfl] at verifying
  rw [PublicKeyInfo.verifyingKey?, sameName, onCurve, if_neg notRsa, if_pos rfl, sameKey]
  exact verifying

/-- A pair on P-256 is accepted as well if its public half names any other curve, or none. -/
theorem ofEncoded_of_otherCurve (formed : ofEncoded name encoded = .ok pair) {publicKey : List UInt8}
    (read : PublicKeyInfo.ofDer? encoded.publicKey = some known) (onCurve : known.algorithm.name = curveKeyName)
    (parameters : Option Der.Element)
    (readOther : PublicKeyInfo.ofDer? publicKey =
      some { known with algorithm := { known.algorithm with parameters } }) :
    ofEncoded name { encoded with publicKey } = .ok pair := by
  rcases ofEncoded_eq_ok_iff.mp formed with ⟨secret, found, readSecret, readFound, isOf⟩
  cases read.symm.trans readFound
  exact ofEncoded_eq_ok_iff.mpr ⟨secret, _, readSecret, readOther, isOf.of_sameKey onCurve rfl rfl⟩

end

/-- The name of the curve secp384r1, over a field of 384 bits. -/
def p384Name : ObjectId :=
  ObjectId.ofArcs [1, 3, 132, 0, 34]

/-- The halves of the pair of the factor one, where the public half names secp384r1 for its curve. -/
def otherCurveHalves : EncodedPair :=
  { P256.generatorKey.halves with publicKey := (P256.generatorKey.publicKey.info p384Name).bytes }

theorem ofDer?_otherCurveHalves :
    PublicKeyInfo.ofDer? otherCurveHalves.publicKey =
      some ⟨.onCurve p384Name, 0, P256.generatorKey.publicKey.bytes⟩ := by
  decide +kernel

/-- A pair is accepted whose halves name two different curves. -/
theorem ofEncoded_otherCurveHalves :
    ∃ secret known pair, PrivateKeyInfo.ofDer? otherCurveHalves.privateKey = some secret ∧
      PublicKeyInfo.ofDer? otherCurveHalves.publicKey = some known ∧
      secret.algorithm.curve? = some p256Name ∧ known.algorithm.curve? = some p384Name ∧ p384Name ≠ p256Name ∧
      ofEncoded "main" otherCurveHalves = .ok pair := by
  have accepted := ofEncoded_of_otherCurve (ofEncoded_generatorKey "main") P256.ofDer?_publicInfo_generatorKey rfl
    (AlgorithmId.onCurve p384Name).parameters ofDer?_otherCurveHalves
  exact ⟨_, _, _, P256.ofDer?_info_generatorKey, ofDer?_otherCurveHalves, by decide, by decide, by decide, accepted⟩

end KeyPair
end TokenAuthority
