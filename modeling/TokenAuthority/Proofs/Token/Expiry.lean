import TokenAuthority.Proofs.Token.Audience
import TokenAuthority.Proofs.Token.Verdicts

/-!
# Two tests of expiry

A ring refuses a token whose expiry lies before its clock, less the leeway.  Claims are expired at an instant
that does not lie before their expiry.  The first test is strict and the second is not.  They agree in every
second but one: in the very second of the expiry, put off by the leeway, the ring still decodes a token to
claims that are expired.

What depends on the clock is kept apart from everything else that a ring asks of a token.  A token that the
ring admits is decoded to its claims or refused as expired, by one comparison, provided that the clock can be put
back by the leeway at all.  Nothing that the ring does not admit is ever decoded.
-/

namespace TokenAuthority

namespace Time.Instant

/-- The start of a second of the clock. -/
def ofClock (clock : UInt64) : Instant where
  seconds := clock.toNat

@[simp] theorem clock_ofClock (clock : UInt64) : (ofClock clock).clock = clock := by
  rw [Instant.clock, ofClock, Int.toNat_natCast, UInt64.ofNat_toNat]

/-- Starts of seconds are in the order of their seconds. -/
theorem le_ofClock_iff {seconds : Int} {clock : UInt64} :
    le { seconds } (ofClock clock) = true ↔ seconds ≤ clock.toNat := by
  rw [le, ofClock, Bool.or_eq_true, Bool.and_eq_true, decide_eq_true_eq, decide_eq_true_eq, beq_iff_eq]
  constructor
  · rintro (earlier | ⟨same, _⟩)
    · exact Int.le_of_lt earlier
    · exact Int.le_of_eq same
  · intro notLater
    rcases Int.lt_or_eq_of_le notLater with earlier | same
    · exact Or.inl earlier
    · exact Or.inr ⟨same, Nat.le_refl 0⟩

theorem eq_ofClock_iff {seconds : Int} {clock : UInt64} :
    some { seconds } = some (ofClock clock) ↔ seconds = clock.toNat := by
  simp [ofClock]

end Time.Instant

namespace ClaimSet

/-- The expiry of claims is the start of the second that their claim set states. -/
theorem expiresAt_of_toClaims {claimSet : ClaimSet} {text : String} {claims : Claims}
    (taken : claimSet.toClaims text = .ok claims) :
    claims.expiresAt = some { seconds := claimSet.expiry } ∧ IsSigned64 claimSet.expiry := by
  unfold toClaims at taken
  rcases exists_ok_of_bind taken with ⟨expiry, expires, taken⟩
  rcases exists_ok_of_bind taken with ⟨issuedAt, _, taken⟩
  have within : Time.Instant.isRepresentable claimSet.expiry = true ∧
      expiry = { seconds := claimSet.expiry } := by
    unfold instantOf Time.Instant.ofSeconds? at expires
    split_ifs at expires with representable
    cases expires
    exact ⟨representable, rfl⟩
  rw [← Except.ok.inj taken, ← within.2]
  exact ⟨rfl, Time.Instant.isSigned64_of_isRepresentable within.1⟩

end ClaimSet

/-- What a key has signed has a header and a signature that can be read. -/
theorem SignedToken.exists_readable_of_isSignedBy {token : SignedToken} {key : VerifyingKey}
    (signed : token.isSignedBy key = true) :
    ∃ header signature, TokenHeader.ofPart? token.header = some header ∧
      Base64.ofUrlText? token.signature = some signature := by
  unfold isSignedBy at signed
  split at signed
  next header signature stated read => exact ⟨header, signature, stated, read⟩
  · cases signed

namespace Keyring

/-- A key of the ring has signed the token that the text is, and what the payload states are the claims, for
the audience of the ring if they are not those of a refresh token.  The expiry is not negative, and nothing
else is asked of it. -/
structure Admits (ring : Keyring) (text : String) (claims : Claims) : Prop where
  signed : ring.vouchesFor text = true
  states : ∃ token payload claimSet, SignedToken.ofText? text = some token ∧
    SignedToken.readPart token.payload = .ok payload ∧ ClaimSet.ofJson? payload = some claimSet ∧
    Verifier.isRegular payload = true ∧ 0 ≤ claimSet.expiry ∧
    (ring.signingVerifier claimSet.accessTokenId.isSome).isForAudience payload = true ∧
    claimSet.toClaims text = .ok claims

/-- The ring takes an expiry for passed: it lies before the clock, less the leeway. -/
def isPast (ring : Keyring) (now : UInt64) (expiry : Int) : Bool :=
  (ring.signingVerifier false).isExpired now expiry

section

variable {ring : Keyring} {text : String} {claims : Claims}

theorem isPast_eq_false_iff {now : UInt64} {expiry : Int} (fits : IsSigned64 expiry)
    (positive : 0 ≤ expiry) (begun : ring.leeway ≤ now) :
    ring.isPast now expiry = false ↔ (now - ring.leeway).toNat ≤ expiry := by
  have started := UInt64.le_iff_toNat_le.mp begun
  have difference := UInt64.toNat_sub_of_le now ring.leeway begun
  constructor
  · intro current
    have valid := le_of_isExpired_eq_false positive begun current
    change now.toNat ≤ expiry + ring.leeway.toNat at valid
    omega
  · intro valid
    refine isExpired_eq_false fits positive begun ?_
    change now.toNat ≤ expiry + ring.leeway.toNat
    omega

/-- An admitted token is decoded to its claims unless its expiry has passed, at every clock from which the leeway
can be taken. -/
theorem Admits.exists_decode_eq (admits : ring.Admits text claims) :
    ∃ expiry : Int, claims.expiresAt = some { seconds := expiry } ∧ IsSigned64 expiry ∧ 0 ≤ expiry ∧
      ∀ now : Time.Instant, ring.decode now text =
        if now.clock < ring.leeway then .error .overflow
        else if ring.isPast now.clock expiry then .error .expired
        else .ok claims := by
  rcases admits.states with
    ⟨token, payload, claimSet, parts, readPayload, stated, regular, positive, passes, taken⟩
  rcases ClaimSet.expiresAt_of_toClaims taken with ⟨expires, fits⟩
  refine ⟨claimSet.expiry, expires, fits, positive, ?_⟩
  intro now
  have readable : ∃ header signature, TokenHeader.ofPart? token.header = some header ∧
      Base64.ofUrlText? token.signature = some signature := by
    have signed := admits.signed
    rw [vouchesFor, parts, List.any_eq_true] at signed
    rcases signed with ⟨key, _, isSigned⟩
    exact SignedToken.exists_readable_of_isSignedBy isSigned
  rcases readable with ⟨header, signature, isHeader, isSignature⟩
  have presented : SignedToken.namesAccessToken? payload = some claimSet.accessTokenId.isSome := by
    rcases Verifier.exists_members_of_isRegular regular with ⟨members, rfl⟩
    exact ClaimSet.namesAccessToken?_eq_of_ofJson? stated
  rw [decode_of_readable parts isHeader isSignature readPayload presented, admits.signed, if_pos rfl,
    Verifier.judgePayload, stated]
  simp only [regular, Int.not_lt.mpr positive, passes, Bool.not_true, Bool.false_eq_true, if_false, if_true]
  -- the verifiers for both kinds of tokens have one leeway
  change (if now.clock < ring.leeway then Verdict.refused .overflow
    else if ring.isPast now.clock claimSet.expiry then .refused .expired
    else .accepted claimSet).answer.bind _ = _
  by_cases beyond : now.clock < ring.leeway
  · rw [if_pos beyond, if_pos beyond]
    rfl
  rw [if_neg beyond, if_neg beyond]
  cases ring.isPast now.clock claimSet.expiry with
  | true => rfl
  | false => exact taken

/-- What a ring decodes it admits. -/
theorem admits_of_decode {now : Time.Instant} (decoded : ring.decode now text = .ok claims) :
    ring.Admits text claims := by
  rcases exists_accepted_of_decode decoded with
    ⟨token, payload, refresh, claimSet, verifier, member, parts, readPayload, presented, isSigned, judged,
      taken⟩
  rcases Verifier.judgePayload_eq_accepted_iff.mp judged with ⟨stated, regular, positive, _, _, passes⟩
  rcases exists_key_of_mem_verifiers member with ⟨key, present, sameKey⟩
  have signed : ring.vouchesFor text = true := by
    rw [vouchesFor, parts, List.any_eq_true]
    exact ⟨key, present, sameKey ▸ isSigned⟩
  have kind : refresh = claimSet.accessTokenId.isSome := by
    rcases Verifier.exists_members_of_isRegular regular with ⟨members, rfl⟩
    exact ClaimSet.namesAccessToken?_of_ofJson? stated presented
  -- all verifiers of one kind ask for the same audience
  have passesFirst : (ring.signingVerifier refresh).isForAudience payload = true := by
    rw [Verifier.isForAudience, ← (isLike_of_mem_verifiers member).audience]
    exact passes
  exact ⟨signed, token, payload, claimSet, parts, readPayload, stated, regular, positive,
    kind ▸ passesFirst, taken⟩

end

/-! ## The two tests -/

/-- The clock of the ring, put back by the leeway. -/
def horizon (ring : Keyring) (now : UInt64) : Time.Instant :=
  .ofClock (now - ring.leeway)

/-- The ring takes an expiry for passed when claims with this expiry are expired, put back by the leeway, but
for the second of the expiry itself. -/
theorem isPast_iff_isExpiredAt {ring : Keyring} {now : UInt64} (begun : ring.leeway ≤ now)
    {claims : Claims} {expiry : Int} (expires : claims.expiresAt = some { seconds := expiry })
    (fits : IsSigned64 expiry) (positive : 0 ≤ expiry) :
    ring.isPast now expiry = true ↔
      claims.isExpiredAt (ring.horizon now) = true ∧ claims.expiresAt ≠ some (ring.horizon now) := by
  have current := isPast_eq_false_iff fits positive begun
  rw [← Bool.not_eq_false, current, Claims.isExpiredAt, expires, horizon, Ne,
    Time.Instant.eq_ofClock_iff]
  simp only [Time.Instant.le_ofClock_iff]
  omega

/-- A ring whose clock has passed the leeway reports an admitted token as expired exactly when its claims are
expired, put back by the leeway, and this is not the second of their expiry.  It decodes a text to claims
exactly when it admits them and does not report them as expired. -/
theorem decode_iff_isExpiredAt (ring : Keyring) (now : UInt64) (begun : ring.leeway ≤ now) (text : String)
    (claims : Claims) :
    (ring.Admits text claims →
      (ring.decode (.ofClock now) text = .error .expired ↔
        claims.isExpiredAt (ring.horizon now) = true ∧
          claims.expiresAt ≠ some (ring.horizon now))) ∧
    (ring.decode (.ofClock now) text = .ok claims ↔
      ring.Admits text claims ∧
        ¬ (claims.isExpiredAt (ring.horizon now) = true ∧
          claims.expiresAt ≠ some (ring.horizon now))) := by
  have decided : ring.Admits text claims → ring.decode (.ofClock now) text =
      if claims.isExpiredAt (ring.horizon now) = true ∧ claims.expiresAt ≠ some (ring.horizon now) then
        .error .expired
      else .ok claims := by
    intro admits
    rcases admits.exists_decode_eq with ⟨expiry, expires, fits, positive, decided⟩
    rw [decided, Time.Instant.clock_ofClock, if_neg (UInt64.not_lt.mpr begun)]
    exact if_congr (isPast_iff_isExpiredAt begun expires fits positive) rfl rfl
  refine ⟨?_, ?_, ?_⟩
  · intro admits
    rw [decided admits]
    split
    next expired => exact iff_of_true rfl expired
    next current => exact iff_of_false nofun current
  · intro decoded
    have admits := admits_of_decode decoded
    refine ⟨admits, ?_⟩
    intro expired
    rw [decided admits, if_pos expired] at decoded
    cases decoded
  · rintro ⟨admits, current⟩
    rw [decided admits, if_neg current]

/-- A payload for the ring of one reliable key that expires in second 2000. -/
def expiringPayload : Json :=
  .object [("aud", .string proth.audience), ("exp", .integer 2000)]

/-- One second after the leeway of ten seconds. -/
theorem decode_iff_isExpiredAt_proth :
    ∃ text claims, proth.Admits text claims ∧
      proth.decode (.ofClock 2011) text = .error .expired := by
  rcases exists_sign?_proth expiringPayload with ⟨text, signed⟩
  have accepted : (proth.signingVerifier false).judgePayload (Time.Instant.clock ⟨1000, 0⟩)
      expiringPayload = .accepted { audience := [proth.audience], expiry := 2000 } := by
    decide +kernel
  have decoded := decode_of_sign? isReliable_proth.verifiesOwn signed (by decide +kernel) (by decide +kernel)
    accepted
  have admits := admits_of_decode decoded
  refine ⟨text, _, admits, ?_⟩
  refine ((decode_iff_isExpiredAt proth 2011 (by decide) text _).1 admits).mpr ⟨rfl, ?_⟩
  change some (Time.Instant.mk 2000 0) ≠ some (.ofClock (2011 - 10))
  decide

/-- A ring without leeway. -/
def strict : Keyring :=
  { proth with leeway := 0 }

/-- In the second of the expiry, a ring without leeway decodes the token to claims that are expired. -/
theorem exists_decode_of_isExpiredAt :
    ∃ text claims, strict.Admits text claims ∧ claims.isExpiredAt (.ofClock 2000) = true ∧
      strict.decode (.ofClock 2000) text = .ok claims := by
  have reliable : strict.signing.pair.IsReliable := isReliable_proth
  rcases strict.signing.exists_sign?_of_signsAll reliable.signs expiringPayload with ⟨text, signed⟩
  have accepted : (strict.signingVerifier false).judgePayload (Time.Instant.ofClock 2000).clock
      expiringPayload = .accepted { audience := [proth.audience], expiry := 2000 } := by
    decide +kernel
  have decoded := decode_of_sign? reliable.verifiesOwn signed (by decide +kernel) (by decide +kernel) accepted
  exact ⟨text, _, admits_of_decode decoded, rfl, decoded⟩

end Keyring
end TokenAuthority
