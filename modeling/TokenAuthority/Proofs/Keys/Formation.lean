import TokenAuthority.Proofs.Keys.Reliability

/-!
# What key pairs are formed of

What a pair signs with is read from its private half, and what it verifies with from its public half; neither
depends on the other half or on the name of the pair.  A pair is formed when the halves name the same kind of
keys, both can be read, and a first signature verifies.
-/

namespace TokenAuthority

/-- The key that a private half has for signing.  A key on a curve has to be on P-256. -/
def PrivateKeyInfo.signingKey? (info : PrivateKeyInfo) : Option SigningKey :=
  if info.algorithm.name = KeyPair.rsaName then (Rsa.PrivateKey.ofDer? info.key).map .rsa
  else if info.algorithm.name = KeyPair.curveKeyName ∧
      info.algorithm.parameters.bind ObjectId.ofElement? = some KeyPair.p256Name then
    (KeyPair.p256PrivateKey? info).map .p256
  else none

/-- The key that a public half has for verifying.  The curve that it names is not looked at. -/
def PublicKeyInfo.verifyingKey? (info : PublicKeyInfo) : Option VerifyingKey :=
  if info.algorithm.name = KeyPair.rsaName then (KeyPair.rsaPublicKey? info).map .rsa
  else if info.algorithm.name = KeyPair.curveKeyName then
    (P256.PublicKey.ofBytes? info.key).map .p256
  else none

namespace KeyPair

/-- A pair has the keys of two halves of one kind, and passes the probe. -/
structure IsOf (pair : KeyPair) (secret : PrivateKeyInfo) (known : PublicKeyInfo) : Prop where
  sameKind : known.algorithm.name = secret.algorithm.name
  signing : secret.signingKey? = some pair.signing
  verifying : known.verifyingKey? = some pair.verifying
  passesProbe : pair.PassesProbe

variable {name : String} {pair : KeyPair}

theorem ofHalves_eq_ok_iff {signing : Option SigningKey} {verifying : VerifyingKey} :
    ofHalves name signing verifying = .ok pair ↔
      signing = some pair.signing ∧ verifying = pair.verifying ∧ pair.PassesProbe := by
  constructor
  · intro formed
    unfold ofHalves at formed
    split at formed
    · cases formed
    next signingKey =>
      split at formed
      · cases formed
      next signature signed =>
        split at formed
        next verified =>
          cases formed
          exact ⟨rfl, rfl, signature, signed, verified⟩
        · cases formed
  · rintro ⟨rfl, rfl, passes⟩
    exact ofHalves_of_passesProbe passes name

section

variable {secret : PrivateKeyInfo} {known : PublicKeyInfo}

theorem ofRsaHalves_eq_ok_iff :
    ofRsaHalves name secret known = .ok pair ↔
      (Rsa.PrivateKey.ofDer? secret.key).map SigningKey.rsa = some pair.signing ∧
        (rsaPublicKey? known).map VerifyingKey.rsa = some pair.verifying ∧ pair.PassesProbe := by
  unfold ofRsaHalves
  cases rsaPublicKey? known with
  | none => exact iff_of_false nofun nofun
  | some verifying =>
      simp only [ofHalves_eq_ok_iff, Option.map_some, Option.some.injEq]

theorem ofCurveHalves_eq_ok_iff :
    ofCurveHalves name secret known = .ok pair ↔
      secret.algorithm.parameters.bind ObjectId.ofElement? = some p256Name ∧
        (p256PrivateKey? secret).map SigningKey.p256 = some pair.signing ∧
        (P256.PublicKey.ofBytes? known.key).map VerifyingKey.p256 = some pair.verifying ∧
        pair.PassesProbe := by
  unfold ofCurveHalves
  cases secret.algorithm.parameters.bind ObjectId.ofElement? with
  | none => exact iff_of_false nofun nofun
  | some curve =>
      by_cases isP256 : curve = p256Name
      · simp only [isP256, if_true, true_and]
        cases P256.PublicKey.ofBytes? known.key with
        | none => exact iff_of_false nofun nofun
        | some verifying => simp only [ofHalves_eq_ok_iff, Option.map_some, Option.some.injEq]
      · simp only [isP256, if_false, Option.some.injEq, false_and, iff_false]
        exact nofun

/-- The pairs that are formed of two encoded halves are those that have the keys of the halves. -/
theorem ofEncoded_eq_ok_iff {encoded : EncodedPair} :
    ofEncoded name encoded = .ok pair ↔
      ∃ secret known, PrivateKeyInfo.ofDer? encoded.privateKey = some secret ∧
        PublicKeyInfo.ofDer? encoded.publicKey = some known ∧ pair.IsOf secret known := by
  constructor
  · intro formed
    unfold ofEncoded at formed
    split at formed
    · cases formed
    next secret readSecret =>
      split at formed
      · cases formed
      next known readKnown =>
        split_ifs at formed with different isRsa isCurve
        · have sameKind := Decidable.not_not.mp different
          rcases ofRsaHalves_eq_ok_iff.mp formed with ⟨signing, verifying, passes⟩
          refine ⟨secret, known, readSecret, readKnown, sameKind, ?_, ?_, passes⟩
          · rw [PrivateKeyInfo.signingKey?, if_pos isRsa, signing]
          · rw [PublicKeyInfo.verifyingKey?, if_pos (sameKind.trans isRsa), verifying]
        · have sameKind := Decidable.not_not.mp different
          rcases ofCurveHalves_eq_ok_iff.mp formed with ⟨curve, signing, verifying, passes⟩
          refine ⟨secret, known, readSecret, readKnown, sameKind, ?_, ?_, passes⟩
          · rw [PrivateKeyInfo.signingKey?, if_neg isRsa, if_pos ⟨isCurve, curve⟩, signing]
          · rw [PublicKeyInfo.verifyingKey?, if_neg (sameKind ▸ isRsa),
              if_pos (sameKind.trans isCurve), verifying]
  · rintro ⟨secret, known, readSecret, readKnown, isOf⟩
    have signing := isOf.signing
    have verifying := isOf.verifying
    rw [PublicKeyInfo.verifyingKey?, isOf.sameKind] at verifying
    rw [PrivateKeyInfo.signingKey?] at signing
    simp only [ofEncoded, readSecret, readKnown, isOf.sameKind, ne_eq, not_true_eq_false, if_false]
    by_cases isRsa : secret.algorithm.name = rsaName
    · rw [if_pos isRsa] at signing verifying ⊢
      exact ofRsaHalves_eq_ok_iff.mpr ⟨signing, verifying, isOf.passesProbe⟩
    · rw [if_neg isRsa] at signing verifying ⊢
      split_ifs at signing with isCurve
      rw [if_pos isCurve.1] at verifying ⊢
      exact ofCurveHalves_eq_ok_iff.mpr ⟨isCurve.2, signing, verifying, isOf.passesProbe⟩

end

end KeyPair
end TokenAuthority
