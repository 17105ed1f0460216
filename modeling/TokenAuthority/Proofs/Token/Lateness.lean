import TokenAuthority.Proofs.Token.Verdicts

/-!
# Tokens that come too late

A token whose expiry, put off by the leeway, lies before the clock is refused by every ring that vouches for
it.  The expiry is looked at before the audience, so it does not matter for whom the token is, nor whether it
is an access token or a refresh token.

What the ring reports depends on the sign of the expiry.  Claims may expire before 1970, and are then
encoded with a negative number.  The reader of the expiry wants an unsigned number, and a negative one is to it
no expiry at all.  So such a token is reported as malformed, and only the others as expired.
-/

namespace TokenAuthority

/-- What is wrong with a token that comes too late. -/
def TokenError.ofLate (expiry : Int) : TokenError :=
  if expiry < 0 then .malformed .missingExpiry else .expired

namespace Verifier

variable {verifier : Verifier} {claimSet : ClaimSet} {now : UInt64}

theorem isExpired_of_late {expiry : Int} (positive : 0 ≤ expiry)
    (late : expiry + verifier.leeway.toNat < now.toNat) : verifier.isExpired now expiry = true := by
  by_contra current
  have begun : verifier.leeway ≤ now := UInt64.le_iff_toNat_le.mpr (by omega)
  have valid := Keyring.le_of_isExpired_eq_false positive begun (Bool.not_eq_true _ ▸ current)
  omega

/-- A verifier refuses the document of a claim set that comes too late before it looks at the audience. -/
theorem judgePayload_toJson_of_late (times : claimSet.HasSignedTimes)
    (late : claimSet.expiry + verifier.leeway.toNat < now.toNat) :
    verifier.judgePayload now claimSet.toJson = .refused (.ofLate claimSet.expiry) := by
  rw [judgePayload, ClaimSet.ofJson?_toJson times]
  simp only [claimSet.isRegular_toJson, Bool.not_true, Bool.false_eq_true, if_false]
  by_cases negative : claimSet.expiry < 0
  · rw [if_pos negative, TokenError.ofLate, if_pos negative]
  · -- an expiry that is not negative leaves room for the leeway
    have within : ¬ now < verifier.leeway := by
      rw [UInt64.lt_iff_toNat_lt]
      omega
    rw [if_neg negative, if_neg within, isExpired_of_late (Int.not_lt.mp negative) late, if_pos rfl,
      TokenError.ofLate, if_neg negative]

end Verifier

namespace Keyring

/-- A token of claims that comes too late is refused by every ring that vouches for it, whichever ring has encoded
the claims.  The others refuse the signature. -/
theorem decode_eq_ofLate {signer ring : Keyring} {claims : Claims} (built : claims.IsBuilt)
    {expiry : Time.Instant} (expires : claims.expiresAt = some expiry) {text : String}
    (encoded : signer.encode claims = .ok text) {now : Time.Instant}
    (late : expiry.seconds + ring.leeway.toNat < now.clock.toNat) :
    ring.decode now text =
      .error (if ring.vouchesFor text then .ofLate expiry.seconds else .signatureRejected) := by
  rcases exists_standsFor_of_encode built encoded with ⟨claimSet, stands, signed⟩
  rcases NamedKey.exists_isFrom_of_sign? (ClaimSet.isWritable_toJson stands.times) signed with
    ⟨token, parts, made⟩
  rw [← stands.expiry expiry expires] at late ⊢
  have judged : (ring.signingVerifier claimSet.accessTokenId.isSome).judgePayload now.clock
      claimSet.toJson = .refused (.ofLate claimSet.expiry) :=
    Verifier.judgePayload_toJson_of_late stands.times late
  rw [decode_of_isFrom parts made claimSet.namesAccessToken?_toJson, judged]
  cases ring.vouchesFor text <;> rfl

/-- What a ring has encoded of claims that were built in any way a ring refuses once the expiry and the leeway have
passed.  If it vouches for the token, it reports it as expired when the expiry is not negative, and as malformed
otherwise. -/
theorem decode_of_encode_of_late (signer ring : Keyring) (claims : Claims) (built : claims.IsBuilt)
    (expiry : Time.Instant) (expires : claims.expiresAt = some expiry) (text : String)
    (encoded : signer.encode claims = .ok text) (now : Time.Instant)
    (late : expiry.seconds + ring.leeway.toNat < now.clock.toNat) :
    ring.decode now text = .error
      (if ring.vouchesFor text then if expiry.seconds < 0 then .malformed .missingExpiry else .expired
      else .signatureRejected) :=
  decode_eq_ofLate built expires encoded late

/-- Claims of a refresh token for another audience, with a given expiry. -/
def lateClaims (expiry : Time.Instant) (representable : Time.Instant.isRepresentable expiry.seconds = true) :
    Claims :=
  Claims.build [.subject "S", .audience ["res_Other"], .accessTokenId "a",
    .expiresAt expiry representable]

theorem exists_encode_lateClaims (expiry : Time.Instant)
    (representable : Time.Instant.isRepresentable expiry.seconds = true) :
    ∃ text, proth.encode (lateClaims expiry representable) = .ok text := by
  have expires : (lateClaims expiry representable).expiresAt = some expiry := rfl
  rcases ClaimSet.exists_ofClaims expires with ⟨claimSet, written, _⟩
  rcases exists_encode_of_signsAll isReliable_proth.signs written with ⟨text, encoded, _⟩
  exact ⟨text, encoded⟩

theorem vouchesFor_lateClaims {expiry : Time.Instant}
    {representable : Time.Instant.isRepresentable expiry.seconds = true} {text : String}
    (encoded : proth.encode (lateClaims expiry representable) = .ok text) : proth.vouchesFor text = true :=
  vouchesFor_of_encode isReliable_proth.verifiesOwn ⟨_, rfl⟩ encoded

/-- In the first second after the leeway of ten seconds. -/
theorem decode_of_encode_of_late_proth :
    ∃ text, proth.encode (lateClaims ⟨2000, 7⟩ rfl) = .ok text ∧ proth.vouchesFor text = true ∧
      proth.decode ⟨2011, 0⟩ text = .error .expired := by
  rcases exists_encode_lateClaims ⟨2000, 7⟩ rfl with ⟨text, encoded⟩
  have vouches := vouchesFor_lateClaims encoded
  refine ⟨text, encoded, vouches, ?_⟩
  have refused := decode_of_encode_of_late proth proth _ ⟨_, rfl⟩ ⟨2000, 7⟩ rfl text encoded ⟨2011, 0⟩ (by decide)
  rw [vouches] at refused
  exact refused

/-- In the last second before 1970, the ring encodes claims that it will not report as expired. -/
theorem exists_decode_ne_expired_of_late :
    ∃ text, proth.encode (lateClaims ⟨-1, 0⟩ rfl) = .ok text ∧ proth.vouchesFor text = true ∧
      proth.leeway ≤ Time.Instant.clock ⟨2000, 0⟩ ∧
      (-1 : Int) + proth.leeway.toNat < (Time.Instant.clock ⟨2000, 0⟩).toNat ∧
      proth.decode ⟨2000, 0⟩ text = .error (.malformed .missingExpiry) ∧
      proth.decode ⟨2000, 0⟩ text ≠ .error .expired := by
  rcases exists_encode_lateClaims ⟨-1, 0⟩ rfl with ⟨text, encoded⟩
  have vouches := vouchesFor_lateClaims encoded
  have built : (lateClaims ⟨-1, 0⟩ rfl).IsBuilt := ⟨_, rfl⟩
  have expires : (lateClaims ⟨-1, 0⟩ rfl).expiresAt = some ⟨-1, 0⟩ := rfl
  have late : (-1 : Int) + proth.leeway.toNat < (Time.Instant.clock ⟨2000, 0⟩).toNat := by decide
  have decoded : proth.decode ⟨2000, 0⟩ text = .error (.malformed .missingExpiry) := by
    have refused := decode_eq_ofLate built expires encoded late
    rw [vouches] at refused
    exact refused
  refine ⟨text, encoded, vouches, by decide, late, decoded, ?_⟩
  rw [decoded]
  nofun

end Keyring
end TokenAuthority
