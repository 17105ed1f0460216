import TokenAuthority.Proofs.Token.ClaimSets
import TokenAuthority.Proofs.Token.Signing

/-!
# Claims as tokens and back

Claims that were built in any way are encoded as a token, and the same ring decodes the token to the same
claims.  What is lost are fractions of seconds; what is added are the text and the type of the token.

The claims have to be valid at the time of reading.  Unless they are those of a refresh token, they also
have to name the audience of the ring, since the ring asks its own keys for that audience alone.
-/

namespace TokenAuthority
namespace Keyring

/-- An expiry that the clock, without the leeway, has not passed. -/
theorem isExpired_eq_false {verifier : Verifier} {now : UInt64} {expiry : Int}
    (fits : IsSigned64 expiry) (positive : 0 ≤ expiry) (begun : verifier.leeway ≤ now)
    (valid : now.toNat ≤ expiry + verifier.leeway.toNat) : verifier.isExpired now expiry = false := by
  have clock : (UInt64.ofNat expiry.toNat).toNat = expiry.toNat := by
    rw [UInt64.toNat_ofNat']
    apply Nat.mod_eq_of_lt
    have := fits.2
    omega
  rw [Verifier.isExpired, decide_eq_false_iff_not, UInt64.lt_iff_toNat_lt, clock,
    UInt64.toNat_sub_of_le now verifier.leeway begun]
  have := UInt64.le_iff_toNat_le.mp begun
  omega

/-- A token that has not expired is read before its expiry and the leeway have passed. -/
theorem le_of_isExpired_eq_false {verifier : Verifier} {now : UInt64} {expiry : Int}
    (positive : 0 ≤ expiry) (begun : verifier.leeway ≤ now)
    (current : verifier.isExpired now expiry = false) : now.toNat ≤ expiry + verifier.leeway.toNat := by
  rw [Verifier.isExpired, decide_eq_false_iff_not, UInt64.lt_iff_toNat_lt, Nat.not_lt] at current
  have clock : (UInt64.ofNat expiry.toNat).toNat ≤ expiry.toNat := by
    rw [UInt64.toNat_ofNat']
    exact Nat.mod_le _ _
  rw [UInt64.toNat_sub_of_le now verifier.leeway begun] at current
  omega

/-- The keys of a ring take the document of a claim set to be for the ring if it is that of a refresh token
or names the audience. -/
theorem isForAudience_toJson (ring : Keyring) (claimSet : ClaimSet) :
    (ring.signingVerifier claimSet.accessTokenId.isSome).isForAudience claimSet.toJson = true ↔
      claimSet.accessTokenId.isSome = true ∨ ring.audience ∈ claimSet.audience := by
  unfold Verifier.isForAudience
  rw [claimSet.statedAudience?_toJson]
  cases claimSet.accessTokenId.isSome with
  | true => exact iff_of_true rfl (Or.inl rfl)
  | false =>
      rw [or_iff_right Bool.false_ne_true]
      exact List.contains_iff_mem

/-- A ring whose signing key signs every message encodes all claims that have a claim set. -/
theorem exists_encode_of_signsAll {ring : Keyring} (signs : ring.signing.pair.SignsAll)
    {claims : Claims} {claimSet : ClaimSet} (written : ClaimSet.ofClaims claims = .ok claimSet) :
    ∃ text, ring.encode claims = .ok text ∧ ring.signing.sign? claimSet.toJson = some text := by
  rcases ring.signing.exists_sign?_of_signsAll signs claimSet.toJson with ⟨text, signed⟩
  refine ⟨text, ?_, signed⟩
  simp only [encode, written, signed]

/-- The document of a claim set that is valid is judged by its audience alone. -/
theorem judgePayload_toJson_eq_ite {ring : Keyring} {claimSet : ClaimSet}
    (times : claimSet.HasSignedTimes) (positive : 0 ≤ claimSet.expiry) {now : UInt64}
    (begun : ring.leeway ≤ now) (valid : now.toNat ≤ claimSet.expiry + ring.leeway.toNat) :
    (ring.signingVerifier claimSet.accessTokenId.isSome).judgePayload now claimSet.toJson =
      if claimSet.accessTokenId.isSome = true ∨ ring.audience ∈ claimSet.audience then
        .accepted claimSet
      else .otherAudience := by
  have current : (ring.signingVerifier claimSet.accessTokenId.isSome).isExpired now claimSet.expiry =
      false := isExpired_eq_false times.expiry positive begun valid
  have within : ¬ now < (ring.signingVerifier claimSet.accessTokenId.isSome).leeway := UInt64.not_lt.mpr begun
  simp only [Verifier.judgePayload, ClaimSet.ofJson?_toJson times, claimSet.isRegular_toJson, current, within,
    Int.not_lt.mpr positive, Bool.not_true, Bool.false_eq_true, if_false, ring.isForAudience_toJson]

/-- The signing key accepts the document of a claim set that is valid and, unless it is that of a refresh
token, for the audience of the ring. -/
theorem judgePayload_toJson {ring : Keyring} {claimSet : ClaimSet} (times : claimSet.HasSignedTimes)
    (positive : 0 ≤ claimSet.expiry) {now : UInt64} (begun : ring.leeway ≤ now)
    (valid : now.toNat ≤ claimSet.expiry + ring.leeway.toNat)
    (audience : claimSet.accessTokenId.isSome = true ∨ ring.audience ∈ claimSet.audience) :
    (ring.signingVerifier claimSet.accessTokenId.isSome).judgePayload now claimSet.toJson =
      .accepted claimSet := by
  rw [judgePayload_toJson_eq_ite times positive begun valid, if_pos audience]

/-- Claims that were built in any way come back from the token that they are encoded as, with their times
in whole seconds, and with the text and the type of the token. -/
theorem decode_encode (ring : Keyring) (reliable : ring.signing.pair.IsReliable)
    (claims : Claims) (built : claims.IsBuilt) (expiry : Time.Instant)
    (expires : claims.expiresAt = some expiry) (positive : 0 ≤ expiry.seconds)
    (now : Time.Instant) (begun : ring.leeway ≤ now.clock)
    (valid : now.clock.toNat ≤ expiry.seconds + ring.leeway.toNat)
    (audience : claims.accessTokenId.isSome = true ∨ ring.audience ∈ claims.audience) :
    ∃ text, ring.encode claims = .ok text ∧
      ring.decode now text = .ok { claims with
        issuedAt := claims.issuedAt.map Time.Instant.truncate
        expiresAt := some expiry.truncate
        token := some text
        tokenType := some "jwt" } := by
  rcases ClaimSet.exists_ofClaims expires with ⟨claimSet, written, same⟩
  rcases ClaimSet.kept_of_ofClaims written with ⟨sameAudience, sameAccessToken⟩
  have times := ClaimSet.hasSignedTimes_of_ofClaims built.isCanonical written
  rw [← same] at positive valid
  rw [← sameAudience, ← sameAccessToken] at audience
  have accepted := judgePayload_toJson times positive begun valid audience
  rcases exists_encode_of_signsAll reliable.signs written with ⟨text, encoded, signed⟩
  refine ⟨text, encoded, ?_⟩
  rw [decode_of_sign? reliable.verifiesOwn signed (ClaimSet.isWritable_toJson times) claimSet.namesAccessToken?_toJson
    accepted, ClaimSet.toClaims_of_ofClaims built.isCanonical written text, Claims.readFrom, expires]
  rfl

/-- Steps with colons in a referent, with empty and repeated texts and with fractions of seconds. -/
def sampleSteps : List Claims.Step :=
  [.subject "", .roleClaims ["a:b:ROLE_PARTICIPANT", "x"], .scopes ["MEASUREMENT.CREATE", "", ""],
    .audience ["", "res_ManagementPortal"], .issuedAt ⟨1000, 5⟩ rfl, .expiresAt ⟨2000, 7⟩ rfl]

/-- At the last second of the leeway. -/
theorem decode_encode_proth :
    ∃ text, proth.encode (Claims.build sampleSteps) = .ok text ∧
      proth.decode ⟨2010, 0⟩ text = .ok { Claims.build sampleSteps with
        issuedAt := some ⟨1000, 0⟩
        expiresAt := some ⟨2000, 0⟩
        token := some text
        tokenType := some "jwt" } :=
  decode_encode proth isReliable_proth (Claims.build sampleSteps) ⟨sampleSteps, rfl⟩ ⟨2000, 7⟩
    rfl (by decide) ⟨2010, 0⟩ (by decide) (by decide) (Or.inr (by decide))

end Keyring
end TokenAuthority
