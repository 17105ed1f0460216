import TokenAuthority.Proofs.Authority.Issuance
import TokenAuthority.Proofs.Authority.RefreshChains
import TokenAuthority.Proofs.Token.Approvals

/-!
# Revocation

The approvals of a service after a run come from the history of what users have approved and taken back in
that run; nothing else touches them.

Refresh tokens are read against this history.  One is read only if a key of the ring has signed it, it has
not expired, and it names an access token and a user, and then only while each of its scopes stands for that
user and the client of the token.  A client that is not named is the one with the empty name.  What is
revoked is therefore lost at the next refresh, until it is approved again.
-/

namespace TokenAuthority

open Approvals (Change StandsAfter)

namespace Authority

/-- What users have approved and taken back in a run. -/
def history (operations : List Operation) : List Change :=
  operations.filterMap Operation.change?

theorem approvals_run (authority : Authority) (operations : List Operation) :
    (authority.run operations).approvals = authority.approvals.changes (history operations) := by
  induction operations generalizing authority with
  | nil => rfl
  | cons operation operations ih =>
      rw [run_cons, ih, approvals_after, history, history, List.filterMap_cons]
      cases operation.change? <;> rfl

end Authority

/-- A claim set is that of a refresh token, and its user approves each of its scopes for its client. -/
structure ClaimSet.IsApprovedAfter (stated : ClaimSet) (history : List Change) : Prop where
  accessTokenId : stated.accessTokenId.isSome = true
  user : ∃ username, stated.username = some username ∧
    ∀ scope ∈ stated.scopes, StandsAfter history ⟨username, stated.clientId.getD "", scope⟩

/-- After a history, a refresh token is read as what it is decoded to if the history approves it. -/
theorem Keyring.readRefresh_changes_iff {ring : Keyring} {now : Time.Instant} {history : List Change}
    {text : String} {claims : Claims} :
    ring.readRefresh now (({} : Approvals).changes history) text = .ok claims ↔
      ring.decode now text = .ok claims ∧
        ∃ stated, ring.Trusts now text stated ∧ stated.IsApprovedAfter history := by
  rw [readRefresh_eq_ok_iff]
  apply and_congr_right
  intro decoded
  rcases exists_trusts_of_decode decoded with ⟨stated, trusts, taken⟩
  have kept := ClaimSet.isKeptBy_of_toClaims taken
  have refreshes : claims.isRefresh = stated.accessTokenId.isSome := by
    rw [Claims.isRefresh, kept.accessTokenId]
  have approved : isApproved (({} : Approvals).changes history) claims = true ↔
      ∃ username, stated.username = some username ∧
        ∀ scope ∈ stated.scopes, StandsAfter history ⟨username, stated.clientId.getD "", scope⟩ := by
    rw [isApproved_iff, kept.username, kept.clientId, kept.scopes]
    simp only [Approvals.isApproved_changes_iff, mem_foldl_addScopeTo]
  rw [refreshes, approved]
  constructor
  · rintro ⟨names, user⟩
    exact ⟨stated, trusts, names, user⟩
  · rintro ⟨other, same, stands⟩
    have again := same.states
    rw [trusts.states] at again
    cases again
    exact ⟨stands.accessTokenId, stands.user⟩

/-- After every run that begins without approvals, scopes are approved exactly if the last change that
affects each of them gave it, and refresh tokens are read and refreshed accordingly. -/
theorem Authority.approved_run (authority : Authority) (without : authority.approvals = {})
    (operations : List Operation) :
    (∀ username clientId scopes,
      (authority.run operations).approvals.isApproved username clientId scopes = true ↔
        ∀ scope ∈ scopes, StandsAfter (history operations) ⟨username, clientId, scope⟩) ∧
      (∀ now text claims, (authority.run operations).keyring.readRefresh now
          (authority.run operations).approvals text = .ok claims ↔
        (authority.run operations).keyring.decode now text = .ok claims ∧
          ∃ stated, (authority.run operations).keyring.Trusts now text stated ∧
            stated.IsApprovedAfter (history operations)) ∧
      ∀ now ids text profile granted next,
        (authority.run operations).refresh now ids text profile = .ok (granted, next) →
          ∃ stated, (authority.run operations).keyring.Trusts now text stated ∧
            stated.IsApprovedAfter (history operations) ∧ stated.subject = some profile.subject := by
  have approvals := authority.approvals_run operations
  rw [without] at approvals
  refine ⟨?_, ?_, ?_⟩
  · intro username clientId scopes
    rw [approvals]
    exact Approvals.isApproved_changes_iff _ username clientId scopes
  · intro now text claims
    rw [approvals]
    exact Keyring.readRefresh_changes_iff
  · intro now ids text profile granted next refreshed
    rcases exists_readRefresh_of_refresh refreshed with ⟨claims, read, person, _⟩
    rw [approvals, Keyring.readRefresh_changes_iff] at read
    rcases read with ⟨decoded, stated, trusts, approved⟩
    refine ⟨stated, trusts, approved, ?_⟩
    rcases Keyring.exists_trusts_of_decode decoded with ⟨other, same, taken⟩
    have again := same.states
    rw [trusts.states] at again
    cases again
    rw [← person, (ClaimSet.isKeptBy_of_toClaims taken).subject]

/-- A user approves a scope, takes this back, and approves it again. -/
def Authority.approvedAgain : List Operation :=
  [.approve "user" "client" ["SUBJECT.READ"], .revoke "user" "client" "SUBJECT.READ",
    .approve "user" "client" ["SUBJECT.READ"]]

/-- A scope that is approved again can be refreshed, and cannot after everything is revoked. -/
theorem Authority.approved_run_approvedAgain :
    ∃ text renewed next stated,
      (issuing.run approvedAgain).refresh ⟨2000, 0⟩ threeIds text enrolled = .ok (renewed, next) ∧
        SignedToken.claimSet? text = some stated ∧
        stated.IsApprovedAfter (history approvedAgain) ∧ stated.subject = some "S" ∧
        (issuing.run (approvedAgain ++ [.revokeAll "user" "client"])).approvals.isApproved "user" "client"
          ["SUBJECT.READ"] = false := by
  have opens : ∃ granted next, issuing.grant ⟨1000, 5⟩ threeIds
      ⟨"client", "password", ["SUBJECT.READ"]⟩ (some enrolled) = .ok (granted, next) :=
    issuing.exists_grant_of_signsAll Keyring.isReliable_proth.signs rfl rfl rfl
  rcases opens with ⟨granted, _, opened⟩
  rcases exists_issues_of_grant opened with ⟨expiry, issues⟩
  rcases issues.exists_refreshToken rfl with ⟨text, given⟩
  have scopes : granted.scopes = ["SUBJECT.READ"] := by
    rw [issues.scopes, GrantRequest.scopes_grantedClaims_eq]
    decide +kernel
  have read : ∃ claims, (issuing.run approvedAgain).keyring.readRefresh ⟨2000, 0⟩
      (issuing.run approvedAgain).approvals text = .ok claims ∧
        claims.subject = some enrolled.subject ∧ claims.clientId = some "client" := by
    apply Keyring.readRefresh_of_issues issues given
    case own => exact Keyring.isReliable_proth.verifiesOwn
    case held => exact List.mem_cons_self
    case representable => rfl
    case begun => decide
    case valid => decide
    case approved =>
      rw [scopes]
      decide
  rcases read with ⟨claims, read, subject, _⟩
  have renews : ∃ renewed next, (issuing.run approvedAgain).grant ⟨2000, 0⟩ threeIds
      (GrantRequest.ofRefresh claims) (some enrolled) = .ok (renewed, next) :=
    (issuing.run approvedAgain).exists_grant_of_signsAll Keyring.isReliable_proth.signs rfl rfl rfl
  rcases renews with ⟨renewed, next, renews⟩
  rw [← refresh_eq_grant read subject] at renews
  rcases (approved_run issuing rfl approvedAgain).2.2 _ _ _ _ _ _ renews with
    ⟨stated, trusts, approved, person⟩
  refine ⟨text, renewed, next, stated, renews, trusts.states, approved, person, ?_⟩
  have later := approved_run issuing rfl (approvedAgain ++ [.revokeAll "user" "client"])
  rw [Bool.eq_false_iff, Ne, later.1]
  decide

end TokenAuthority
