import TokenAuthority.Proofs.Token.Grants

/-!
# Access tokens and refresh tokens

Two readers decide of which kind a token is.  Before any signature is verified, one looks at a single member
of the payload, which may be anything, to choose the verifiers; afterwards the other reads the whole claim
set, in which the member is a string.  They differ on many payloads: a list, a repeated name, a member that
is no string.  But whatever the second of them accepts, the first has read in the same way, since null and
nothing mean the same to both.

The kind is therefore written in the text of a token.  It depends neither on the ring nor on the clock nor
on what is approved, and no text is ever a token of both kinds.
-/

namespace TokenAuthority
namespace Keyring

variable {ring : Keyring} {now : Time.Instant} {text : String} {claims : Claims}

/-- What a text is decoded to is of the kind as which the text presents itself, and it was verified as one
of that kind. -/
theorem exists_verified_of_decode (decoded : ring.decode now text = .ok claims) :
    SignedToken.presentsAsRefresh text = .ok claims.isRefresh ∧
      ∃ token claimSet, SignedToken.ofText? text = some token ∧
        Verifier.verifyWith now.clock token false (ring.verifiers claims.isRefresh) = .ok claimSet ∧
        claimSet.toClaims text = .ok claims := by
  have accepted := exists_accepted_of_decode decoded
  unfold decode at decoded
  split at decoded
  · cases decoded
  · cases decoded
  next refresh token presented parts =>
    split at decoded
    · cases decoded
    next claimSet verified =>
      rcases accepted with
        ⟨other, payload, kind, stated, verifier, _, same, read, names, _, judged, taken⟩
      rw [parts] at same
      cases same
      rcases Verifier.judgePayload_eq_accepted_iff.mp judged with ⟨isStated, regular, _⟩
      rcases Verifier.exists_members_of_isRegular regular with ⟨members, rfl⟩
      have presents : SignedToken.presentsAsRefresh text = .ok kind := by
        rw [SignedToken.presentsAsRefresh, parts]
        simp only [read, names]
      have isKind : kind = claims.isRefresh := by
        rw [ClaimSet.namesAccessToken?_of_ofJson? isStated names, Claims.isRefresh,
          (ClaimSet.isKeptBy_of_toClaims taken).accessTokenId]
      rw [presents] at presented
      rw [← Except.ok.inj presented, isKind] at verified
      exact ⟨by rw [presents, isKind], token, claimSet, parts, verified, decoded⟩

theorem readAccess_eq_ok_iff :
    ring.readAccess now text = .ok claims ↔
      ring.decode now text = .ok claims ∧ claims.isRefresh = false := by
  unfold readAccess
  constructor
  · intro read
    split at read
    · cases read
    next other decoded =>
      split at read
      · cases read
      next access =>
        cases read
        exact ⟨decoded, Bool.eq_false_iff.mpr access⟩
  · rintro ⟨decoded, access⟩
    simp only [decoded, access, Bool.false_eq_true, if_false]

/-- A text has one kind for good: claims it is decoded to are of the kind as which it presents itself and
for which it was verified, and what one ring reads as an access token no ring ever reads as a refresh token,
at any time and whatever is approved. -/
theorem isRefresh_eq_presentsAsRefresh (text : String) :
    (∀ ring now claims, Keyring.decode ring now text = .ok claims →
      SignedToken.presentsAsRefresh text = .ok claims.isRefresh ∧
        ∃ token claimSet, SignedToken.ofText? text = some token ∧
          Verifier.verifyWith now.clock token false (ring.verifiers claims.isRefresh) = .ok claimSet ∧
          claimSet.toClaims text = .ok claims) ∧
    ((∃ ring now claims, Keyring.readAccess ring now text = .ok claims) →
      ∀ ring now approvals claims, Keyring.readRefresh ring now approvals text ≠ .ok claims) := by
  refine ⟨fun ring now claims => exists_verified_of_decode, ?_⟩
  rintro ⟨ring, now, claims, access⟩ other later approvals refreshed refresh
  rcases readAccess_eq_ok_iff.mp access with ⟨decoded, isAccess⟩
  rcases readRefresh_eq_ok_iff.mp refresh with ⟨decodedAgain, isRefresh, _⟩
  have presented := (exists_verified_of_decode decoded).1
  rw [(exists_verified_of_decode decodedAgain).1, isAccess, isRefresh] at presented
  cases presented

/-- An access token presents itself as one, and is a refresh token nowhere. -/
theorem isRefresh_eq_presentsAsRefresh_proth :
    ∃ text claims, proth.readAccess ⟨1000, 0⟩ text = .ok claims ∧
      SignedToken.presentsAsRefresh text = .ok false ∧
      ∀ ring now approvals claims, Keyring.readRefresh ring now approvals text ≠ .ok claims := by
  rcases exists_sign?_proth (.object [("ati", .null), ("exp", .integer 2000)]) with ⟨text, signed⟩
  have accepted : (proth.signingVerifier false).judgePayload (Time.Instant.clock ⟨1000, 0⟩)
      (.object [("ati", .null), ("exp", .integer 2000)]) = .accepted { expiry := 2000 } := by
    decide +kernel
  have read := readAccess_of_sign? isReliable_proth.verifiesOwn signed (by decide +kernel) (by decide +kernel) accepted
    rfl rfl
  have kinds := isRefresh_eq_presentsAsRefresh text
  refine ⟨text, _, read, ?_, kinds.2 ⟨proth, _, _, read⟩⟩
  exact (kinds.1 proth _ _ (readAccess_eq_ok_iff.mp read).1).1

end Keyring
end TokenAuthority
