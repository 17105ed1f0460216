import TokenAuthority.Proofs.Token.Verdicts

/-!
# The order of verifiers

Verifiers are asked in an order, some refusals end the search and others do not, and a rejected audience is
remembered for the end.  All the same the order is of no account.  For a given token, audience and leeway
there is one verdict that every verifier either gives or, having nothing to say, passes over: whether the
header, the signature and the payload can be read is the same for all of them, and so is what the payload
comes to.

Which of the verifiers give the verdict depends on their keys alone.  Two rings that hold the same pairs,
in whatever order and under whatever names, therefore decode every text alike, and refuse it for the same
reason if they refuse it.
-/

namespace TokenAuthority

namespace Verifier

variable {verifier model : Verifier} {token : SignedToken} {now : UInt64}

/-- The name of a verifier is not looked at. -/
theorem IsLike.judge_eq (like : verifier.IsLike model) (sameKey : verifier.key = model.key) :
    verifier.judge now token = model.judge now token := by
  rcases verifier with ⟨_, _, _, _⟩
  rcases model with ⟨_, _, _, _⟩
  rcases like with ⟨rfl, rfl⟩
  cases sameKey
  rfl

/-- All alike verifiers that have anything to say of a token say the same. -/
theorem exists_verdict (model : Verifier) (now : UInt64) (token : SignedToken) :
    ∃ verdict : Verdict, ∀ verifier : Verifier, verifier.IsLike model →
      verifier.judge now token = verdict ∨ verifier.judge now token = .otherKey := by
  cases part : SignedToken.readPart token.header with
  | error fault =>
      refine ⟨.refused (.malformed fault), fun verifier _ => Or.inl ?_⟩
      rw [judge, part]
  | ok document =>
      cases stated : TokenHeader.ofJson? document with
      | none =>
          refine ⟨.refused (.malformed .json), fun verifier _ => Or.inl ?_⟩
          simp only [judge, part, stated]
      | some header =>
          cases read : Base64.ofUrlText? token.signature with
          | none =>
              -- the signature is looked at only if the header names the algorithm
              refine ⟨.refused (.malformed .encoding), fun verifier _ => ?_⟩
              simp only [judge, part, stated, read]
              split
              · exact Or.inr rfl
              · exact Or.inl rfl
          | some signature =>
              have isHeader : TokenHeader.ofPart? token.header = some header := by
                rw [TokenHeader.ofPart?, part]
                exact stated
              refine ⟨model.judgePart now token.payload, fun verifier like => ?_⟩
              rw [judge_of_readable isHeader read, like.judgePart_eq]
              split
              · exact Or.inl rfl
              · exact Or.inr rfl

/-- The verifier has something to say of the token. -/
def decidesOn (now : UInt64) (token : SignedToken) (verifier : Verifier) : Bool :=
  verifier.judge now token != .otherKey

/-- The answer of alike verifiers is the one verdict, if one of them gives it. -/
theorem exists_answer (model : Verifier) (now : UInt64) (token : SignedToken) :
    ∃ verdict : Verdict, ∀ verifiers : List Verifier, (∀ verifier ∈ verifiers, verifier.IsLike model) →
      verifyWith now token false verifiers =
        if verifiers.any (decidesOn now token) then verdict.answer else .error .signatureRejected := by
  rcases exists_verdict model now token with ⟨verdict, given⟩
  refine ⟨verdict, fun verifiers alike => ?_⟩
  refine verifyWith_of_agree (decidesOn now token) ?_ false nofun
  intro verifier member
  rcases given verifier (alike verifier member) with same | passed
  · rw [decidesOn, same]
    cases verdict <;> rfl
  · rw [decidesOn, passed]
    rfl

/-- What a verifier has to say of a token, an alike one with the same key has to say as well. -/
theorem any_decidesOn_of_subset {verifiers others : List Verifier}
    (alike : ∀ verifier ∈ verifiers, verifier.IsLike model)
    (othersAlike : ∀ verifier ∈ others, verifier.IsLike model)
    (keys : verifiers.map Verifier.key ⊆ others.map Verifier.key)
    (decided : verifiers.any (decidesOn now token) = true) :
    others.any (decidesOn now token) = true := by
  rcases List.any_eq_true.mp decided with ⟨verifier, member, decides⟩
  rcases List.mem_map.mp (keys (List.mem_map_of_mem member)) with ⟨other, listed, sameKey⟩
  have like := (othersAlike other listed).trans (alike verifier member).symm
  refine List.any_eq_true.mpr ⟨other, listed, ?_⟩
  rw [decidesOn, like.judge_eq sameKey]
  exact decides

/-- The answer of alike verifiers depends only on which keys they have. -/
theorem verifyWith_congr {verifiers others : List Verifier}
    (alike : ∀ verifier ∈ verifiers, verifier.IsLike model)
    (othersAlike : ∀ verifier ∈ others, verifier.IsLike model)
    (sameKeys : ∀ key, key ∈ verifiers.map Verifier.key ↔ key ∈ others.map Verifier.key) :
    verifyWith now token false verifiers = verifyWith now token false others := by
  rcases exists_answer model now token with ⟨verdict, answer⟩
  have decided : verifiers.any (decidesOn now token) = others.any (decidesOn now token) :=
    Bool.eq_iff_iff.mpr
      ⟨any_decidesOn_of_subset alike othersAlike fun key => (sameKeys key).mp,
        any_decidesOn_of_subset othersAlike alike fun key => (sameKeys key).mpr⟩
  rw [answer verifiers alike, answer others othersAlike, decided]

end Verifier

namespace Keyring

theorem map_key_verifiers (ring : Keyring) (refresh : Bool) :
    (ring.verifiers refresh).map Verifier.key =
      (ring.keys.map NamedKey.pair).map KeyPair.verifying := by
  rw [List.map_map]
  cases refresh with
  | false => exact List.map_map
  | true => exact List.map_map

/-- Rings that hold the same pairs, for one audience and with one leeway, decode every text alike. -/
theorem decode_congr {ring other : Keyring} (audience : other.audience = ring.audience)
    (leeway : other.leeway = ring.leeway)
    (samePairs : ∀ pair, pair ∈ other.keys.map NamedKey.pair ↔ pair ∈ ring.keys.map NamedKey.pair)
    (now : Time.Instant) (text : String) : other.decode now text = ring.decode now text := by
  have verified : ∀ token refresh,
      Verifier.verifyWith now.clock token false (other.verifiers refresh) =
        Verifier.verifyWith now.clock token false (ring.verifiers refresh) := by
    intro token refresh
    have like : (other.signingVerifier refresh).IsLike (ring.signingVerifier refresh) := by
      constructor
      · rw [signingVerifier, signingVerifier, audience]
      · rw [signingVerifier, signingVerifier, leeway]
    have sameKeys : ∀ key, key ∈ (other.verifiers refresh).map Verifier.key ↔
        key ∈ (ring.verifiers refresh).map Verifier.key := by
      intro key
      rw [map_key_verifiers, map_key_verifiers, List.mem_map, List.mem_map]
      simp only [samePairs]
    exact Verifier.verifyWith_congr (fun _ member => (isLike_of_mem_verifiers member).trans like)
      (fun _ => isLike_of_mem_verifiers) sameKeys
  unfold decode
  simp only [verified]

end Keyring
end TokenAuthority
