import Mathlib.Tactic.SplitIfs
import TokenAuthority.Proofs.Keys.Reliability
import TokenAuthority.Token.Verification

/-!
# What a signature is needed for

A key has signed a token when the header of the token names the algorithm of the key and the key verifies
the signature over the first two parts.  A verifier makes one of three things of a token that its key has
not signed: it passes it over, or a part of it cannot be read, or its header is none.  In no case does it
look at a claim.

It follows for every list of verifiers, and hence for the readers of tokens, that only the form of a token
that no key has signed decides how it is refused.  Which verifiers are consulted depends on the payload
before it is verified, but all of them hold the same keys.
-/

namespace TokenAuthority

/-- The header that a part of a token states. -/
def TokenHeader.ofPart? (part : String) : Option TokenHeader :=
  (SignedToken.readPart part).toOption.bind TokenHeader.ofJson?

/-- The header names the algorithm of the key, and the key verifies the signature over the message. -/
def SignedToken.isSignedBy (token : SignedToken) (key : VerifyingKey) : Bool :=
  match TokenHeader.ofPart? token.header, Base64.ofUrlText? token.signature with
  | some header, some signature =>
    header.algorithm == key.algorithm.name && key.verifies token.message signature
  | _, _ => false

/-- A refusal that tells nothing of the claims: the token is no token, or no key has signed it. -/
def TokenError.IsWithoutClaims (error : TokenError) : Prop :=
  (∃ cause, error = .malformed cause) ∨ error = .signatureRejected

namespace Verifier

variable {verifier : Verifier} {token : SignedToken}

/-- A key that has signed a token decides by its payload. -/
theorem judge_of_isSignedBy (signed : token.isSignedBy verifier.key = true) (now : UInt64) :
    verifier.judge now token =
      match SignedToken.readPart token.payload with
      | .error fault => .refused (.malformed fault)
      | .ok payload => verifier.judgePayload now payload := by
  unfold SignedToken.isSignedBy at signed
  split at signed
  next header signature readHeader readSignature =>
    rw [Bool.and_eq_true, beq_iff_eq] at signed
    rw [TokenHeader.ofPart?] at readHeader
    rcases Option.bind_eq_some_iff.mp readHeader with ⟨document, readDocument, stated⟩
    cases part : SignedToken.readPart token.header with
    | error fault =>
        rw [part] at readDocument
        cases readDocument
    | ok other =>
        rw [part] at readDocument
        cases readDocument
        rw [judge, part]
        cases read : SignedToken.readPart token.payload <;>
          simp only [stated, signed.1, ne_eq, not_true_eq_false, if_false, readSignature, signed.2,
            if_true]
  · cases signed

/-- A key that has not signed a token passes it over, unless a part of the token cannot be read. -/
theorem judge_of_not_isSignedBy (unsigned : token.isSignedBy verifier.key = false) (now : UInt64) :
    verifier.judge now token = .otherKey ∨
      ∃ fault, verifier.judge now token = .refused (.malformed fault) := by
  unfold judge
  split
  next fault _ => exact Or.inr ⟨fault, rfl⟩
  next document part =>
    split
    · exact Or.inr ⟨.json, rfl⟩
    next header stated =>
      have readHeader : TokenHeader.ofPart? token.header = some header := by
        rw [TokenHeader.ofPart?, part]
        exact stated
      split
      · exact Or.inl rfl
      next same =>
        split
        · exact Or.inr ⟨.encoding, rfl⟩
        next signature readSignature =>
          have fails : verifier.key.verifies token.message signature = false := by
            rw [SignedToken.isSignedBy, readHeader, readSignature] at unsigned
            simpa [Decidable.not_not.mp same] using unsigned
          rw [fails]
          exact Or.inl rfl

/-- A payload is accepted as the claim set that it states, if this is regular, valid and for the
audience, and the clock can be put back by the leeway. -/
theorem judgePayload_eq_accepted_iff {now : UInt64} {payload : Json} {claimSet : ClaimSet} :
    verifier.judgePayload now payload = .accepted claimSet ↔
      ClaimSet.ofJson? payload = some claimSet ∧ isRegular payload = true ∧ 0 ≤ claimSet.expiry ∧
        verifier.leeway ≤ now ∧ verifier.isExpired now claimSet.expiry = false ∧
        verifier.isForAudience payload = true := by
  unfold judgePayload
  constructor
  · intro accepted
    split at accepted
    · cases accepted
    next other stated =>
      split_ifs at accepted with irregular negative beyond expired audience
      rw [← Verdict.accepted.inj accepted]
      exact ⟨stated, by simpa using irregular, Int.not_lt.mp negative, UInt64.not_lt.mp beyond,
        by simpa using expired, audience⟩
  · rintro ⟨stated, regular, positive, begun, current, audience⟩
    simp only [stated, regular, Bool.not_true, Bool.false_eq_true, if_false, Int.not_lt.mpr positive,
      UInt64.not_lt.mpr begun, current, audience, if_true]

/-- What a verifier accepts is the payload of a token that its key has signed. -/
theorem isSignedBy_of_judge_eq_accepted {now : UInt64} {claimSet : ClaimSet}
    (accepted : verifier.judge now token = .accepted claimSet) :
    token.isSignedBy verifier.key = true ∧
      ∃ payload, SignedToken.readPart token.payload = .ok payload ∧
        verifier.judgePayload now payload = .accepted claimSet := by
  cases signed : token.isSignedBy verifier.key with
  | false =>
      rcases judge_of_not_isSignedBy signed now with passed | ⟨fault, refused⟩
      · rw [passed] at accepted
        cases accepted
      · rw [refused] at accepted
        cases accepted
  | true =>
      rw [judge_of_isSignedBy signed] at accepted
      split at accepted
      · cases accepted
      next payload read => exact ⟨rfl, payload, read, accepted⟩

/-- Without a key that has signed the token, its form alone decides how it is refused. -/
theorem verifyWith_of_unsigned {verifiers : List Verifier}
    (unsigned : ∀ verifier ∈ verifiers, token.isSignedBy verifier.key = false) (now : UInt64) :
    ∃ error, verifyWith now token false verifiers = .error error ∧ error.IsWithoutClaims := by
  induction verifiers with
  | nil => exact ⟨.signatureRejected, rfl, Or.inr rfl⟩
  | cons verifier verifiers ih =>
      rw [verifyWith]
      rcases judge_of_not_isSignedBy (unsigned verifier List.mem_cons_self) now with
        passed | ⟨fault, refused⟩
      · rw [passed]
        exact ih fun other member => unsigned other (List.mem_cons_of_mem verifier member)
      · rw [refused]
        exact ⟨.malformed fault, rfl, Or.inl ⟨fault, rfl⟩⟩

/-- A claim set comes from one of the verifiers. -/
theorem exists_accepted_of_verifyWith {verifiers : List Verifier} {now : UInt64} {otherAudience : Bool}
    {claimSet : ClaimSet} (verified : verifyWith now token otherAudience verifiers = .ok claimSet) :
    ∃ verifier ∈ verifiers, verifier.judge now token = .accepted claimSet := by
  induction verifiers generalizing otherAudience with
  | nil => cases verified
  | cons verifier verifiers ih =>
      have later : ∀ {flag : Bool}, verifyWith now token flag verifiers = .ok claimSet →
          ∃ other ∈ verifier :: verifiers, other.judge now token = .accepted claimSet := by
        intro flag verified
        rcases ih verified with ⟨other, member, accepted⟩
        exact ⟨other, List.mem_cons_of_mem verifier member, accepted⟩
      rw [verifyWith] at verified
      split at verified
      · exact later verified
      · exact later verified
      · cases verified
      next other accepted =>
        rw [← Except.ok.inj verified]
        exact ⟨verifier, List.mem_cons_self, accepted⟩

end Verifier

namespace Keyring

/-- Some key of the ring has signed the token that the text is. -/
def vouchesFor (ring : Keyring) (text : String) : Bool :=
  match SignedToken.ofText? text with
  | some token => ring.keys.any fun key => token.isSignedBy key.pair.verifying
  | none => false

theorem exists_key_of_mem_verifiers {ring : Keyring} {refresh : Bool} {verifier : Verifier}
    (member : verifier ∈ ring.verifiers refresh) :
    ∃ key ∈ ring.keys, verifier.key = key.pair.verifying := by
  have listed : ∀ audience, verifier ∈ ring.verifiersFor audience →
      ∃ key ∈ ring.keys, verifier.key = key.pair.verifying := by
    intro audience member
    rcases List.mem_map.mp member with ⟨key, present, rfl⟩
    exact ⟨key, present, rfl⟩
  cases refresh with
  | false => exact listed (some ring.audience) member
  | true => exact listed none member

theorem leeway_of_mem_verifiers {ring : Keyring} {refresh : Bool} {verifier : Verifier}
    (member : verifier ∈ ring.verifiers refresh) : verifier.leeway = ring.leeway := by
  unfold verifiers at member
  split at member
  all_goals
    rcases List.mem_map.mp member with ⟨key, _, rfl⟩
    rfl

/-- Claims come from the payload of a token that a key of the ring has signed, and a verifier of the kind
that the payload itself asks for accepts them. -/
theorem exists_accepted_of_decode {ring : Keyring} {now : Time.Instant} {text : String} {claims : Claims}
    (decoded : ring.decode now text = .ok claims) :
    ∃ token payload refresh claimSet, ∃ verifier ∈ ring.verifiers refresh,
      SignedToken.ofText? text = some token ∧ SignedToken.readPart token.payload = .ok payload ∧
        SignedToken.namesAccessToken? payload = some refresh ∧
        token.isSignedBy verifier.key = true ∧
        verifier.judgePayload now.clock payload = .accepted claimSet ∧
        claimSet.toClaims text = .ok claims := by
  unfold decode at decoded
  split at decoded
  · cases decoded
  · cases decoded
  next refresh token presented parts =>
    split at decoded
    · cases decoded
    next claimSet verified =>
      rcases Verifier.exists_accepted_of_verifyWith verified with ⟨verifier, member, accepted⟩
      rcases Verifier.isSignedBy_of_judge_eq_accepted accepted with ⟨signed, payload, read, judged⟩
      refine ⟨token, payload, refresh, claimSet, verifier, member, parts, read, ?_, signed, judged,
        decoded⟩
      rw [SignedToken.presentsAsRefresh, parts] at presented
      simp only [read] at presented
      split at presented
      next names =>
        rw [← Except.ok.inj presented]
        exact names
      · cases presented

/-- A text that no key has signed gives no claims, whatever its payload says. -/
theorem decode_of_not_vouchesFor {ring : Keyring} {text : String} (unsigned : ring.vouchesFor text = false)
    (now : Time.Instant) :
    ∃ error, ring.decode now text = .error error ∧ error.IsWithoutClaims := by
  unfold decode
  split
  next fault _ => exact ⟨.malformed fault, rfl, Or.inl ⟨fault, rfl⟩⟩
  · exact ⟨.malformed .segments, rfl, Or.inl ⟨.segments, rfl⟩⟩
  next refresh token _ parts =>
    rw [vouchesFor, parts] at unsigned
    have none : ∀ verifier ∈ ring.verifiers refresh, token.isSignedBy verifier.key = false := by
      intro verifier member
      rcases exists_key_of_mem_verifiers member with ⟨key, present, same⟩
      rw [same]
      exact Bool.eq_false_iff.mpr (List.any_eq_false.mp unsigned key present)
    rcases Verifier.verifyWith_of_unsigned none now.clock with ⟨error, refused, without⟩
    rw [refused]
    exact ⟨error, rfl, without⟩

/-- No claim of a text that no key has signed is acted on: it is refused alike as a token of any kind, as
an access token and, whatever is approved, as a refresh token, and for its form only. -/
theorem refused_of_not_vouchesFor (ring : Keyring) (now : Time.Instant) (text : String)
    (unsigned : ring.vouchesFor text = false) :
    ∃ error : TokenError, error.IsWithoutClaims ∧ ring.decode now text = .error error ∧
      ring.readAccess now text = .error error ∧
      ∀ approvals, ring.readRefresh now approvals text = .error error := by
  rcases decode_of_not_vouchesFor unsigned now with ⟨error, refused, without⟩
  refine ⟨error, without, refused, ?_, ?_⟩
  · rw [readAccess, refused]
  · intro approvals
    rw [readRefresh, refused]

/-- A header that names the algorithm of the key, a payload of a refresh token, and a forged signature. -/
theorem refused_of_not_vouchesFor_forged :
    proth.vouchesFor "eyJhbGciOiJSUzI1NiJ9.eyJhdGkiOiJhIiwiZXhwIjo0MTAyNDQ0ODAwfQ.AAAA" = false ∧
      ∃ error : TokenError, error.IsWithoutClaims ∧
        proth.decode ⟨1000, 0⟩ "eyJhbGciOiJSUzI1NiJ9.eyJhdGkiOiJhIiwiZXhwIjo0MTAyNDQ0ODAwfQ.AAAA" =
          .error error ∧
        proth.readAccess ⟨1000, 0⟩ "eyJhbGciOiJSUzI1NiJ9.eyJhdGkiOiJhIiwiZXhwIjo0MTAyNDQ0ODAwfQ.AAAA" =
          .error error ∧
        ∀ approvals, proth.readRefresh ⟨1000, 0⟩ approvals
          "eyJhbGciOiJSUzI1NiJ9.eyJhdGkiOiJhIiwiZXhwIjo0MTAyNDQ0ODAwfQ.AAAA" = .error error :=
  ⟨by decide +kernel, refused_of_not_vouchesFor proth ⟨1000, 0⟩ _ (by decide +kernel)⟩

end Keyring
end TokenAuthority
