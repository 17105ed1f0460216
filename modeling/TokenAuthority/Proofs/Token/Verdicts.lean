import TokenAuthority.Proofs.Token.RoundTrip

/-!
# What a ring makes of a signed token

The keys of a ring judge a payload alike.  They differ in whether they have signed the token, and those that
have not pass it over.  A ring that vouches for a token therefore decides by the payload alone, whichever of
its keys has signed and wherever this key stands, and a ring that does not refuses the signature.

For the claim set of a token that is valid, only the audience is left to decide.  Whether a ring vouches for
what a pair has signed comes down to whether the pair is in the ring, provided that no other pair accepts
its signatures and that it verifies them itself.  Nothing in the definition of a pair makes this so; pairs of
different algorithms show that it can be had.
-/

namespace TokenAuthority

/-- The answer of verifiers that agree on a verdict. -/
def Verdict.answer : Verdict → Except TokenError ClaimSet
  | otherKey => .error .signatureRejected
  | otherAudience => .error .audienceRejected
  | refused error => .error error
  | accepted claimSet => .ok claimSet

namespace Verifier

/-- What a key makes of the payload of a token that it signed, as it is written. -/
def judgePart (verifier : Verifier) (now : UInt64) (part : String) : Verdict :=
  match SignedToken.readPart part with
  | .error fault => .refused (.malformed fault)
  | .ok payload => verifier.judgePayload now payload

/-- A verifier for the same audience and with the same leeway, whatever its key is. -/
structure IsLike (verifier model : Verifier) : Prop where
  audience : verifier.audience = model.audience
  leeway : verifier.leeway = model.leeway

variable {verifier model other : Verifier} {token : SignedToken} {now : UInt64}

theorem IsLike.symm (like : verifier.IsLike model) : model.IsLike verifier :=
  ⟨like.audience.symm, like.leeway.symm⟩

theorem IsLike.trans (like : verifier.IsLike model) (alsoLike : model.IsLike other) :
    verifier.IsLike other :=
  ⟨like.audience.trans alsoLike.audience, like.leeway.trans alsoLike.leeway⟩

theorem IsLike.judgePayload_eq (like : verifier.IsLike model) (payload : Json) :
    verifier.judgePayload now payload = model.judgePayload now payload := by
  rcases verifier with ⟨_, _, audience, leeway⟩
  rcases model with ⟨_, _, _, _⟩
  rcases like with ⟨rfl, rfl⟩
  rfl

theorem IsLike.judgePart_eq (like : verifier.IsLike model) (part : String) :
    verifier.judgePart now part = model.judgePart now part := by
  simp only [judgePart, like.judgePayload_eq]

section

variable {header : TokenHeader} {signature : List UInt8}

/-- Of a token with a header and a signature that can be read, a verifier judges the payload if its key has
signed the token, and passes it over otherwise. -/
theorem judge_of_readable (stated : TokenHeader.ofPart? token.header = some header)
    (read : Base64.ofUrlText? token.signature = some signature) (verifier : Verifier) :
    verifier.judge now token =
      if token.isSignedBy verifier.key then verifier.judgePart now token.payload else .otherKey := by
  cases signed : token.isSignedBy verifier.key with
  | true =>
      rw [judge_of_isSignedBy signed, if_pos rfl]
      rfl
  | false =>
      rw [if_neg Bool.false_ne_true]
      rw [SignedToken.isSignedBy, stated, read] at signed
      rw [TokenHeader.ofPart?] at stated
      cases part : SignedToken.readPart token.header with
      | error fault =>
          rw [part] at stated
          cases stated
      | ok document =>
          rw [part] at stated
          have isHeader : TokenHeader.ofJson? document = some header := stated
          rw [judge, part]
          simp only [isHeader, read]
          split
          · rfl
          next same =>
            have fails : verifier.key.verifies token.message signature = false := by
              simpa [Decidable.not_not.mp same] using signed
            rw [fails, if_neg Bool.false_ne_true]

/-- Verifiers that give one verdict where they decide at all, and pass the token over elsewhere, give the
answer of this verdict if one of them decides. -/
theorem verifyWith_of_agree {verdict : Verdict} {verifiers : List Verifier}
    (decides : Verifier → Bool)
    (agree : ∀ verifier ∈ verifiers, verifier.judge now token =
      if decides verifier then verdict else .otherKey)
    (otherAudience : Bool) (before : otherAudience = true → verdict = .otherAudience) :
    verifyWith now token otherAudience verifiers =
      if otherAudience || verifiers.any decides then verdict.answer
      else .error .signatureRejected := by
  induction verifiers generalizing otherAudience with
  | nil =>
      cases otherAudience with
      | true =>
          rw [before rfl]
          rfl
      | false => rfl
  | cons verifier verifiers ih =>
      have others := fun other member => agree other (List.mem_cons_of_mem verifier member)
      rw [verifyWith, agree verifier List.mem_cons_self, List.any_cons]
      cases decides verifier with
      | false => simpa using ih others otherAudience before
      | true =>
          simp only [if_true, Bool.true_or, Bool.or_true]
          cases verdict with
          | otherKey =>
              -- a verdict that is no verdict was not remembered before
              have fresh : otherAudience = false := by
                cases otherAudience with
                | false => rfl
                | true => cases before rfl
              rw [fresh]
              simpa [Verdict.answer] using ih others false fun remembered => by cases remembered
          | otherAudience => simpa using ih others true fun _ => rfl
          | refused error => rfl
          | accepted claimSet => rfl

/-- Alike verifiers judge the payload if the key of one of them has signed the token, and reject the
signature otherwise. -/
theorem verifyWith_of_readable (stated : TokenHeader.ofPart? token.header = some header)
    (read : Base64.ofUrlText? token.signature = some signature) {verifiers : List Verifier}
    (alike : ∀ verifier ∈ verifiers, verifier.IsLike model) :
    verifyWith now token false verifiers =
      if verifiers.any fun verifier => token.isSignedBy verifier.key then
        (model.judgePart now token.payload).answer
      else .error .signatureRejected := by
  refine verifyWith_of_agree (fun verifier => token.isSignedBy verifier.key) ?_ false nofun
  intro verifier member
  rw [judge_of_readable stated read, (alike verifier member).judgePart_eq]

end

end Verifier

namespace Keyring

/-- All verifiers of one kind are for one audience and have one leeway. -/
theorem isLike_of_mem_verifiers {ring : Keyring} {refresh : Bool} {verifier : Verifier}
    (member : verifier ∈ ring.verifiers refresh) : verifier.IsLike (ring.signingVerifier refresh) := by
  cases refresh with
  | false =>
      rcases List.mem_map.mp member with ⟨key, _, rfl⟩
      exact ⟨rfl, rfl⟩
  | true =>
      rcases List.mem_map.mp member with ⟨key, _, rfl⟩
      exact ⟨rfl, rfl⟩

theorem any_verifiers (ring : Keyring) (refresh : Bool) (token : SignedToken) :
    ((ring.verifiers refresh).any fun verifier => token.isSignedBy verifier.key) =
      ring.keys.any fun key => token.isSignedBy key.pair.verifying := by
  cases refresh with
  | false => exact List.any_map
  | true => exact List.any_map

/-- A ring decides on a token whose parts can all be read by the payload if one of its keys has signed the
token, and refuses the signature otherwise. -/
theorem decode_of_readable {ring : Keyring} {text : String} {token : SignedToken} {header : TokenHeader}
    {signature : List UInt8} {payload : Json} {refresh : Bool}
    (parts : SignedToken.ofText? text = some token)
    (stated : TokenHeader.ofPart? token.header = some header)
    (read : Base64.ofUrlText? token.signature = some signature)
    (readPayload : SignedToken.readPart token.payload = .ok payload)
    (presented : SignedToken.namesAccessToken? payload = some refresh) (now : Time.Instant) :
    ring.decode now text =
      if ring.vouchesFor text then
        ((ring.signingVerifier refresh).judgePayload now.clock payload).answer.bind fun claimSet =>
          claimSet.toClaims text
      else .error .signatureRejected := by
  have presents : SignedToken.presentsAsRefresh text = .ok refresh := by
    rw [SignedToken.presentsAsRefresh, parts]
    simp only [readPayload, presented]
  have vouches : ring.vouchesFor text =
      (ring.verifiers refresh).any fun verifier => token.isSignedBy verifier.key := by
    rw [any_verifiers, vouchesFor, parts]
  have verified : Verifier.verifyWith now.clock token false (ring.verifiers refresh) = _ :=
    Verifier.verifyWith_of_readable stated read fun _ => isLike_of_mem_verifiers
  rw [← vouches, Verifier.judgePart, readPayload] at verified
  rw [decode, presents, parts]
  simp only [verified]
  cases ring.vouchesFor text with
  | false => rfl
  | true =>
      rw [if_pos rfl, if_pos rfl]
      cases ((ring.signingVerifier refresh).judgePayload now.clock payload).answer <;> rfl

/-- A ring decides on a token that some key has made by the payload if one of its own keys verifies it,
and refuses the signature otherwise. -/
theorem decode_of_isFrom {ring : Keyring} {text : String} {token : SignedToken} {key : NamedKey}
    {payload : Json} {refresh : Bool} (parts : SignedToken.ofText? text = some token)
    (made : token.IsFrom key payload)
    (presented : SignedToken.namesAccessToken? payload = some refresh) (now : Time.Instant) :
    ring.decode now text =
      if ring.vouchesFor text then
        ((ring.signingVerifier refresh).judgePayload now.clock payload).answer.bind fun claimSet =>
          claimSet.toClaims text
      else .error .signatureRejected := by
  rcases made.signature with ⟨signature, read, _⟩
  exact decode_of_readable parts made.header read made.payload presented now

/-! ## Tokens of claim sets -/

/-- A token of claims is what the signing key makes of their claim set. -/
theorem exists_claimSet_of_encode {ring : Keyring} {claims : Claims} {text : String}
    (encoded : ring.encode claims = .ok text) :
    ∃ claimSet, ClaimSet.ofClaims claims = .ok claimSet ∧
      ring.signing.sign? claimSet.toJson = some text := by
  unfold encode at encoded
  split at encoded
  · cases encoded
  next claimSet written =>
    split at encoded
    next made signed =>
      cases encoded
      exact ⟨claimSet, written, signed⟩
    · cases encoded

section

variable {ring : Keyring} {key : NamedKey} {claimSet : ClaimSet} {text : String}

/-- Claims that were built in any way have a claim set that stands for them in the token. -/
theorem exists_standsFor_of_encode {claims : Claims} (built : claims.IsBuilt)
    (encoded : ring.encode claims = .ok text) :
    ∃ claimSet : ClaimSet, claimSet.StandsFor claims text ∧
      ring.signing.sign? claimSet.toJson = some text := by
  rcases exists_claimSet_of_encode encoded with ⟨claimSet, written, signed⟩
  exact ⟨claimSet, ClaimSet.standsFor_of_ofClaims built.isCanonical written text, signed⟩

/-- A token that no key of the ring verifies is refused for its signature, whatever it says. -/
theorem decode_claimSet_of_not_vouchesFor (times : claimSet.HasSignedTimes)
    (signed : key.sign? claimSet.toJson = some text) (foreign : ring.vouchesFor text = false)
    (now : Time.Instant) : ring.decode now text = .error .signatureRejected := by
  rcases NamedKey.exists_isFrom_of_sign? (ClaimSet.isWritable_toJson times) signed with
    ⟨token, parts, made⟩
  rw [decode_of_isFrom parts made claimSet.namesAccessToken?_toJson, foreign,
    if_neg Bool.false_ne_true]

/-- A valid token that a key of the ring verifies is refused only for its audience. -/
theorem decode_claimSet_of_vouchesFor (times : claimSet.HasSignedTimes)
    (signed : key.sign? claimSet.toJson = some text) (vouches : ring.vouchesFor text = true)
    {now : Time.Instant} (begun : ring.leeway ≤ now.clock)
    (valid : now.clock.toNat ≤ claimSet.expiry + ring.leeway.toNat) :
    ring.decode now text =
      if claimSet.accessTokenId.isSome = true ∨ ring.audience ∈ claimSet.audience then
        claimSet.toClaims text
      else .error .audienceRejected := by
  rcases NamedKey.exists_isFrom_of_sign? (ClaimSet.isWritable_toJson times) signed with
    ⟨token, parts, made⟩
  have started := UInt64.le_iff_toNat_le.mp begun
  have positive : 0 ≤ claimSet.expiry := by omega
  rw [decode_of_isFrom parts made claimSet.namesAccessToken?_toJson, vouches, if_pos rfl,
    judgePayload_toJson_eq_ite times positive begun valid]
  by_cases named : claimSet.accessTokenId.isSome = true ∨ ring.audience ∈ claimSet.audience
  · rw [if_pos named, if_pos named]
    rfl
  · rw [if_neg named, if_neg named]
    rfl

/-- A valid token of claims that a key of the ring verifies is decoded to the claims, or refused only for its
audience. -/
theorem decode_of_standsFor {claims : Claims} (stands : claimSet.StandsFor claims text)
    (signed : key.sign? claimSet.toJson = some text) (vouches : ring.vouchesFor text = true)
    {expiry : Time.Instant} (expires : claims.expiresAt = some expiry) {now : Time.Instant}
    (begun : ring.leeway ≤ now.clock)
    (valid : now.clock.toNat ≤ expiry.seconds + ring.leeway.toNat) :
    ring.decode now text =
      if claims.accessTokenId.isSome = true ∨ ring.audience ∈ claims.audience then
        .ok (claims.readFrom text)
      else .error .audienceRejected := by
  rw [← stands.expiry expiry expires] at valid
  rw [decode_claimSet_of_vouchesFor stands.times signed vouches begun valid, stands.audience,
    stands.accessTokenId, stands.taken]

end

/-! ## Which rings vouch for a token -/

end Keyring

/-- The key verifies no signature that the pair hands out. -/
def VerifyingKey.Rejects (key : VerifyingKey) (pair : KeyPair) : Prop :=
  ∀ message signature, pair.sign? message = some signature → key.verifies message signature = false

/-- What an RSA key verifies is as long as its modulus. -/
theorem Rsa.PublicKey.length_of_verifies {key : PublicKey} {message signature : List UInt8}
    (verified : key.verifies message signature = true) :
    2041 ≤ BigEndian.bitLength key.modulus ∧ signature.length = BigEndian.byteLength key.modulus := by
  simp only [verifies, Bool.and_eq_true, decide_eq_true_eq, beq_iff_eq] at verified
  exact ⟨verified.1.1.1.1, verified.1.1.2⟩

/-- What a key verifies has the length that its algorithm gives to signatures. -/
theorem VerifyingKey.length_of_verifies {key : VerifyingKey} {message signature : List UInt8}
    (verified : key.verifies message signature = true) :
    match key.algorithm with
    | .es256 => signature.length = 64
    | .rs256 => 256 ≤ signature.length := by
  cases key with
  | rsa key =>
      have parts := Rsa.PublicKey.length_of_verifies verified
      simp only [algorithm, parts.2, BigEndian.byteLength]
      omega
  | p256 key =>
      simp only [verifies, P256.PublicKey.verifies] at verified
      split at verified
      next bounds => exact bounds.1
      · cases verified

/-- Keys that verify one signature, be it over different messages, are of one algorithm. -/
theorem VerifyingKey.algorithm_eq_of_verifies {key other : VerifyingKey}
    {message otherMessage signature : List UInt8} (verified : key.verifies message signature = true)
    (otherVerified : other.verifies otherMessage signature = true) :
    key.algorithm = other.algorithm := by
  have ours := length_of_verifies verified
  have theirs := length_of_verifies otherVerified
  cases key with
  | rsa =>
      cases other with
      | rsa => rfl
      | p256 =>
          simp only [algorithm] at ours theirs
          omega
  | p256 =>
      cases other with
      | rsa =>
          simp only [algorithm] at ours theirs
          omega
      | p256 => rfl

/-- A key rejects the signatures of pairs of another algorithm that verify their own. -/
theorem VerifyingKey.rejects_of_algorithm_ne {key : VerifyingKey} {pair : KeyPair} (own : pair.VerifiesOwn)
    (different : key.algorithm ≠ pair.algorithm) : key.Rejects pair := by
  intro message signature handedOut
  by_contra verified
  exact different
    (algorithm_eq_of_verifies (Bool.not_eq_false _ ▸ verified) (own message signature handedOut))

/-- Keys on the curve reject what the reliable RSA pair signs. -/
theorem VerifyingKey.p256_rejects_proth (key : P256.PublicKey) :
    (VerifyingKey.p256 key).Rejects KeyPair.proth := by
  refine rejects_of_algorithm_ne KeyPair.isReliable_proth.verifiesOwn ?_
  intro same
  cases same

theorem SignedToken.IsFrom.isSignedBy_eq_false {token : SignedToken} {key : NamedKey} {payload : Json}
    (made : token.IsFrom key payload) {other : VerifyingKey} (rejects : other.Rejects key.pair) :
    token.isSignedBy other = false := by
  rcases made.signature with ⟨signature, read, handedOut⟩
  rw [SignedToken.isSignedBy, made.header, read]
  simp only [rejects token.message signature handedOut, Bool.and_false]

namespace Keyring

/-- A ring vouches for what one of its pairs verifies. -/
theorem vouchesFor_of_isSignedBy {ring : Keyring} {text : String} {token : SignedToken}
    (parts : SignedToken.ofText? text = some token) {pair : KeyPair}
    (isSigned : token.isSignedBy pair.verifying = true) (held : pair ∈ ring.keys.map NamedKey.pair) :
    ring.vouchesFor text = true := by
  rcases List.mem_map.mp held with ⟨key, present, rfl⟩
  rw [vouchesFor, parts, List.any_eq_true]
  exact ⟨key, present, isSigned⟩

/-- A ring vouches for what one of its pairs has signed, if the pair verifies its own signatures. -/
theorem vouchesFor_of_mem {ring : Keyring} {key : NamedKey} (own : key.pair.VerifiesOwn) {payload : Json}
    {text : String} (writable : payload.isWritable = true) (signed : key.sign? payload = some text)
    (held : key.pair ∈ ring.keys.map NamedKey.pair) : ring.vouchesFor text = true := by
  rcases NamedKey.exists_isFrom_of_sign? writable signed with ⟨token, parts, made⟩
  exact vouchesFor_of_isSignedBy parts (made.isSignedBy own) held

/-- A ring whose signing key verifies its own signatures vouches for what it has encoded of claims that were
built in any way. -/
theorem vouchesFor_of_encode {ring : Keyring} (own : ring.signing.pair.VerifiesOwn) {claims : Claims}
    (built : claims.IsBuilt) {text : String} (encoded : ring.encode claims = .ok text) :
    ring.vouchesFor text = true := by
  rcases exists_standsFor_of_encode built encoded with ⟨claimSet, stands, signed⟩
  exact vouchesFor_of_mem own (ClaimSet.isWritable_toJson stands.times) signed
    (List.mem_map_of_mem List.mem_cons_self)

/-- A ring vouches for nothing else, if its other pairs reject the signatures. -/
theorem vouchesFor_iff {ring : Keyring} {key : NamedKey} (own : key.pair.VerifiesOwn) {payload : Json}
    {text : String} (writable : payload.isWritable = true) (signed : key.sign? payload = some text)
    (others : ∀ other ∈ ring.keys, other.pair ≠ key.pair → other.pair.verifying.Rejects key.pair) :
    ring.vouchesFor text = true ↔ key.pair ∈ ring.keys.map NamedKey.pair := by
  constructor
  · intro vouches
    rcases NamedKey.exists_isFrom_of_sign? writable signed with ⟨token, parts, made⟩
    rw [vouchesFor, parts, List.any_eq_true] at vouches
    rcases vouches with ⟨other, present, verified⟩
    refine List.mem_map.mpr ⟨other, present, ?_⟩
    by_contra different
    rw [made.isSignedBy_eq_false (others other present different)] at verified
    cases verified
  · exact vouchesFor_of_mem own writable signed

end Keyring
end TokenAuthority
