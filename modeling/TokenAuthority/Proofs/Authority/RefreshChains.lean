import TokenAuthority.Proofs.Authority.Runs
import TokenAuthority.Proofs.Token.Approvals
import TokenAuthority.Proofs.Token.Scopes

/-!
# Chains of refreshes

A refresh token carries all the authority that a refresh can give.  What it states is turned into a request,
and the request is narrowed again to the roles of the person.  So along a chain, in which each refresh uses
the refresh token of the one before, scopes are only ever dropped, and subject and client stay those of the
first grant.

A chain does not care for what happens between its refreshes.  Each may be made by a service in any state,
with other keys, other settings and other approvals, and for a person with other roles: all that links one
refresh to the next is the text of a token.
-/

namespace TokenAuthority

/-- Requested scopes that are distinct are narrowed by dropping some of them. -/
theorem GrantRequest.scopes_grantedClaims {request : GrantRequest} (distinct : request.scopes.Nodup)
    (settings : Config.TokenSettings) (issuedAt expiry : Time.Instant) (tokenId : String)
    (person : Profile) :
    (request.grantedClaims settings issuedAt expiry tokenId (some person)).scopes =
      request.scopes.filter (isGrantable person.effectiveRoles) := by
  have narrowed : (request.scopes.filter (isGrantable person.effectiveRoles)).Nodup :=
    distinct.filter _
  rw [request.scopes_grantedClaims_some, foldl_addScopeTo_of_nodup [] _ narrowed, List.nil_append]

namespace GrantedTokens

/-- The tokens of a grant are for a subject and a client: they state both, and the scopes that are granted,
each of them once. -/
structure AreFor (granted : GrantedTokens) (subject : Option String) (clientId : String) : Prop where
  distinct : granted.scopes.Nodup
  accessToken : ∃ stated, SignedToken.claimSet? granted.accessToken = some stated ∧
    stated.IsFor subject clientId granted.scopes
  refreshToken : ∀ text, granted.refreshToken = some text →
    ∃ stated, SignedToken.claimSet? text = some stated ∧
      stated.IsFor subject clientId granted.scopes

end GrantedTokens

/-- The tokens of a grant are for the person and the client of the request. -/
theorem Keyring.Issues.areFor {ring : Keyring} {settings : Config.TokenSettings} {now : Time.Instant}
    {ids : FreshIds} {request : GrantRequest} {profile : Option Profile} {expiry : Time.Instant}
    {granted : GrantedTokens} (issues : ring.Issues settings now ids request profile expiry granted) :
    granted.AreFor (profile.map Profile.subject) request.clientId where
  distinct := by
    rw [issues.scopes]
    exact GrantRequest.nodup_scopes_grantedClaims ..
  accessToken := by
    rcases issues.exists_accessClaimSet with ⟨stated, signed, times, _, _, _, _, isFor⟩
    exact ⟨stated, NamedKey.claimSet?_of_sign? signed times, isFor⟩
  refreshToken := by
    intro text given
    rcases issues.exists_refreshClaimSet given with ⟨stated, _, _, signed, times, _, _, _, _, isFor⟩
    exact ⟨stated, NamedKey.claimSet?_of_sign? signed times, isFor⟩

/-- A refresh that succeeds: it presents the refresh token of one grant and leads to another. -/
structure Refresh (previous granted : GrantedTokens) where
  authority : Authority
  now : Time.Instant
  ids : FreshIds
  token : String
  profile : Profile
  next : Authority
  presents : previous.refreshToken = some token
  succeeds : authority.refresh now ids token profile = .ok (granted, next)

/-- The refreshes that follow on a grant, each with the refresh token of the one before. -/
inductive RefreshChain (first : GrantedTokens) : GrantedTokens → Prop where
  | start : RefreshChain first first
  | step {previous granted : GrantedTokens} (chain : RefreshChain first previous)
      (refresh : Refresh previous granted) : RefreshChain first granted

/-! ## One refresh -/

variable {previous granted : GrantedTokens} {subject : Option String} {clientId : String}

/-- A refresh drops the scopes that no role of the person can use, and keeps subject and client.  The user
of the refresh token approves all of its scopes at that moment. -/
theorem Refresh.narrows (refresh : Refresh previous granted) (before : previous.AreFor subject clientId) :
    granted.AreFor subject clientId ∧
      granted.scopes = previous.scopes.filter (isGrantable refresh.profile.effectiveRoles) ∧
      ∃ recorded username, SignedToken.claimSet? refresh.token = some recorded ∧
        recorded.username = some username ∧ recorded.clientId = some clientId ∧
        refresh.authority.approvals.isApproved username clientId previous.scopes = true := by
  rcases Authority.exists_readRefresh_of_refresh refresh.succeeds with ⟨claims, read, person, grants⟩
  rcases Keyring.of_readRefresh read with ⟨⟨recorded, states, taken⟩, username, named, approved⟩
  rcases before.refreshToken refresh.token refresh.presents with ⟨stated, again, isFor⟩
  rw [states] at again
  cases again
  rcases ClaimSet.isKeptBy_of_toClaims taken with
    ⟨sameSubject, sameUsername, sameClient, _, _, _, sameScopes⟩
  rw [isFor.subject] at sameSubject
  rw [isFor.clientId] at sameClient
  rw [isFor.scopes, foldl_addScopeTo_of_nodup [] previous.scopes before.distinct,
    List.nil_append] at sameScopes
  rcases Authority.exists_issues_of_grant grants with ⟨expiry, issues⟩
  have requested : (GrantRequest.ofRefresh claims).scopes = previous.scopes := sameScopes
  have requester : (GrantRequest.ofRefresh claims).clientId = clientId := by
    rw [GrantRequest.ofRefresh, sameClient]
    rfl
  refine ⟨?_, ?_, recorded, username, states, ?_, isFor.clientId, ?_⟩
  · have areFor := issues.areFor
    rw [requester, Option.map_some, ← person, sameSubject] at areFor
    exact areFor
  · rw [issues.scopes, GrantRequest.scopes_grantedClaims, requested]
    rw [requested]
    exact before.distinct
  · rw [← sameUsername]
    exact named
  · rw [sameClient, sameScopes] at approved
    exact approved

/-! ## Chains -/

variable {first last : GrantedTokens}

/-- Along a chain, subject and client stay and scopes are dropped. -/
theorem RefreshChain.narrows (chain : RefreshChain first last) (isFor : first.AreFor subject clientId) :
    last.AreFor subject clientId ∧ last.scopes.Sublist first.scopes := by
  induction chain with
  | start => exact ⟨isFor, List.Sublist.refl first.scopes⟩
  | step chain refresh ih =>
      rcases refresh.narrows ih.1 with ⟨kept, filtered, _⟩
      refine ⟨kept, ?_⟩
      rw [filtered]
      exact List.filter_sublist.trans ih.2

/-- No refresh in a chain regains authority.  Its scopes are those of the tokens before, in their order,
less some; each is held by a role of the person and approved by the user of the refresh token for its
client; subject and client are those of the first grant; and a scope that it drops is in none of the grants
after it. -/
theorem RefreshChain.never_regains (authority : Authority) (now : Time.Instant) (ids : FreshIds)
    (request : GrantRequest) (profile : Option Profile) (first : GrantedTokens) (next : Authority)
    (grants : authority.grant now ids request profile = .ok (first, next))
    (previous current last : GrantedTokens) (before : RefreshChain first previous)
    (refresh : Refresh previous current) (after : RefreshChain current last) :
    current.scopes.Sublist previous.scopes ∧
      (∃ recorded username, SignedToken.claimSet? refresh.token = some recorded ∧
        recorded.username = some username ∧ recorded.clientId = some request.clientId ∧
        ∀ scope ∈ current.scopes,
          (∃ permission, Permission.ofScope scope = .ok permission ∧
            ∃ role ∈ refresh.profile.effectiveRoles, role.holds permission = true) ∧
          scope ∈ refresh.authority.approvals.standing username request.clientId) ∧
      current.AreFor (profile.map Profile.subject) request.clientId ∧
      ∀ scope, scope ∉ current.scopes → scope ∉ last.scopes := by
  rcases Authority.exists_issues_of_grant grants with ⟨expiry, issues⟩
  have previousFor := (before.narrows issues.areFor).1
  rcases refresh.narrows previousFor with
    ⟨currentFor, filtered, recorded, username, states, named, client, approved⟩
  refine ⟨?_, ⟨recorded, username, states, named, client, ?_⟩, currentFor, ?_⟩
  · rw [filtered]
    exact List.filter_sublist
  · intro scope member
    rw [filtered, List.mem_filter] at member
    exact ⟨isGrantable_iff.mp member.2, Approvals.isApproved_iff.mp approved scope member.1⟩
  · intro scope dropped returned
    exact dropped ((after.narrows currentFor).2.subset returned)

/-! ## Refreshes that succeed -/

section

variable {ring : Keyring} {settings : Config.TokenSettings} {issued : Time.Instant} {ids : FreshIds}
  {request : GrantRequest} {person : Profile} {expiry : Time.Instant} {granted : GrantedTokens}
  {text : String} {now : Time.Instant}

/-- A refresh token is read by every ring that holds the pair that signed it, while it is valid and all of
its scopes are approved.  The pair verifies its own signatures. -/
theorem Keyring.readRefresh_of_issues {later : Keyring} {approvals : Approvals}
    (issues : ring.Issues settings issued ids request (some person) expiry granted)
    (given : granted.refreshToken = some text) (own : ring.signing.pair.VerifiesOwn)
    (held : ring.signing.pair ∈ later.keys.map NamedKey.pair)
    (representable : Time.Instant.isRepresentable issued.seconds = true)
    (begun : later.leeway ≤ now.clock)
    (valid : now.clock.toNat ≤
      issued.seconds + settings.refreshValidity.toNat + later.leeway.toNat)
    (approved : approvals.isApproved person.username request.clientId granted.scopes = true) :
    ∃ claims, later.readRefresh now approvals text = .ok claims ∧
      claims.subject = some person.subject ∧ claims.clientId = some request.clientId := by
  rcases issues.exists_refreshClaimSet given with
    ⟨claimSet, ends, computed, signed, times, names, issuedAt, expires, username, isFor⟩
  rcases of_expiryAfter computed with ⟨later_eq, endsRepresentable, _⟩
  have vouches : later.vouchesFor text = true :=
    vouchesFor_of_mem own (ClaimSet.isWritable_toJson times) signed held
  have inTime : now.clock.toNat ≤ claimSet.expiry + later.leeway.toNat := by
    rw [expires, later_eq]
    exact valid
  have decoded := decode_claimSet_of_vouchesFor times signed vouches begun inTime
  rw [if_pos (Or.inl (by rw [names]; rfl))] at decoded
  have issuedRepresentable : ∀ seconds ∈ claimSet.issuedAt,
      Time.Instant.isRepresentable seconds = true := by
    intro seconds member
    rw [issuedAt] at member
    rw [← Option.some.inj member]
    exact representable
  rw [← expires] at endsRepresentable
  rcases ClaimSet.exists_toClaims issuedRepresentable endsRepresentable text with ⟨claims, taken⟩
  rcases ClaimSet.isKeptBy_of_toClaims taken with
    ⟨sameSubject, sameUsername, sameClient, _, _, sameAccess, sameScopes⟩
  have refreshes : claims.isRefresh = true := by
    rw [Claims.isRefresh, sameAccess, names]
    rfl
  have stands : isApproved approvals claims = true := by
    rw [isApproved, sameUsername, username, Option.map_some, sameClient, isFor.clientId, sameScopes,
      isFor.scopes, foldl_addScopeTo_of_nodup [] granted.scopes issues.areFor.distinct]
    exact approved
  refine ⟨claims, ?_, ?_, ?_⟩
  · rw [readRefresh, decoded, taken]
    simp only [refreshes, Bool.not_true, Bool.false_eq_true, if_false, stands, if_true]
  · rw [sameSubject, isFor.subject]
    rfl
  · rw [sameClient, isFor.clientId]

/-- A service whose signing key signs every message refreshes the token for a person with the same subject. -/
theorem Authority.exists_refresh_of_issues (authority : Authority) (now : Time.Instant)
    (newIds : FreshIds) (profile : Profile)
    (issues : ring.Issues settings issued ids request (some person) expiry granted)
    (given : granted.refreshToken = some text) (own : ring.signing.pair.VerifiesOwn)
    (held : ring.signing.pair ∈ authority.keyring.keys.map NamedKey.pair)
    (representable : Time.Instant.isRepresentable issued.seconds = true)
    (begun : authority.keyring.leeway ≤ now.clock)
    (valid : now.clock.toNat ≤
      issued.seconds + settings.refreshValidity.toNat + authority.keyring.leeway.toNat)
    (approved : authority.approvals.isApproved person.username request.clientId granted.scopes = true)
    (signs : authority.keyring.signing.pair.SignsAll)
    (same : person.subject = profile.subject) {accessEnd refreshEnd : Time.Instant}
    (lasts : expiryAfter now.truncate authority.settings.accessValidity = .ok accessEnd)
    (refreshable : expiryAfter now.truncate authority.settings.refreshValidity = .ok refreshEnd) :
    ∃ (renewed : GrantedTokens) (refresh : Refresh granted renewed) (again : GrantRequest)
      (later : Time.Instant),
      refresh.profile = profile ∧ again.clientId = request.clientId ∧
        again.isClientCredentials = false ∧
        authority.keyring.Issues authority.settings now newIds again (some profile) later renewed := by
  rcases Keyring.readRefresh_of_issues issues given own held representable begun valid approved with
    ⟨claims, read, subject, client⟩
  have grants : ∃ renewed next,
      authority.grant now newIds (GrantRequest.ofRefresh claims) (some profile) = .ok (renewed, next) :=
    authority.exists_grant_of_signsAll signs rfl lasts refreshable
  rcases grants with ⟨renewed, next, grants⟩
  rcases exists_issues_of_grant grants with ⟨later, renews⟩
  have succeeds : authority.refresh now newIds text profile = .ok (renewed, next) := by
    rw [refresh_eq_grant read (by rw [subject, same]), grants]
  refine ⟨renewed, ⟨authority, now, newIds, text, profile, next, given, succeeds⟩, _, later, rfl, ?_,
    rfl, renews⟩
  rw [GrantRequest.ofRefresh, client]
  rfl

/-- A grant for a person comes with a refresh token. -/
theorem Keyring.Issues.exists_refreshToken
    (issues : ring.Issues settings issued ids request (some person) expiry granted)
    (isPerson : request.isClientCredentials = false) : ∃ text, granted.refreshToken = some text := by
  have refreshToken := issues.refreshToken
  rw [isPerson, if_neg Bool.false_ne_true] at refreshToken
  rcases refreshToken with ⟨text, given, _⟩
  exact ⟨text, given⟩

end

/-! ## A role that is lost and given back -/

/-- A service with a reliable key, for a user who approves two scopes for a client. -/
def approving : Authority where
  keyring := Keyring.proth
  settings := {}
  approvals := ({} : Approvals).approve "user" "client" ["SUBJECT.CREATE", "SUBJECT.READ"]

/-- A person with one role in a project. -/
def withRole (role : Role) : Profile where
  subject := "S"
  username := "user"
  roles := [⟨role, some "P"⟩]

/-- A scope that was dropped with a role stays dropped when the role is given back. -/
theorem RefreshChain.never_regains_owner :
    ∃ (first second third : GrantedTokens) (lost : Refresh first second)
      (back : Refresh second third),
      lost.profile = withRole .participant ∧ back.profile = withRole .projectOwner ∧
        "SUBJECT.CREATE" ∈ first.scopes ∧ second.scopes.Sublist first.scopes ∧
        second.AreFor (some "S") "client" ∧ "SUBJECT.CREATE" ∉ third.scopes := by
  have opens : ∃ first next, approving.grant ⟨1000, 0⟩ default
      ⟨"client", "password", ["SUBJECT.CREATE", "SUBJECT.READ"]⟩ (some (withRole .projectOwner)) =
        .ok (first, next) :=
    approving.exists_grant_of_signsAll Keyring.isReliable_proth.signs rfl rfl rfl
  rcases opens with ⟨first, next, grants⟩
  rcases Authority.exists_issues_of_grant grants with ⟨firstEnd, issues⟩
  have firstScopes : first.scopes = ["SUBJECT.CREATE", "SUBJECT.READ"] := by
    rw [issues.scopes, GrantRequest.scopes_grantedClaims (by decide)]
    decide +kernel
  rcases issues.exists_refreshToken rfl with ⟨token, given⟩
  rcases approving.exists_refresh_of_issues ⟨2000, 0⟩ default (withRole .participant) issues given
    Keyring.isReliable_proth.verifiesOwn List.mem_cons_self rfl (by decide) (by decide)
    (by rw [firstScopes]; decide) Keyring.isReliable_proth.signs rfl rfl rfl with
    ⟨second, lost, again, secondEnd, participant, client, isPerson, renews⟩
  rcases lost.narrows issues.areFor with ⟨_, secondScopes, _⟩
  rw [firstScopes, participant] at secondScopes
  have narrowed : second.scopes = ["SUBJECT.READ"] := by
    rw [secondScopes]
    decide +kernel
  rcases renews.exists_refreshToken isPerson with ⟨newToken, newGiven⟩
  rcases approving.exists_refresh_of_issues ⟨3000, 0⟩ default (withRole .projectOwner) renews newGiven
    Keyring.isReliable_proth.verifiesOwn List.mem_cons_self rfl (by decide) (by decide)
    (by rw [narrowed, client]; decide) Keyring.isReliable_proth.signs rfl rfl rfl with ⟨third, back, _, _, owner, _⟩
  have regains := RefreshChain.never_regains approving ⟨1000, 0⟩ default _ _ first next grants first
    second third .start lost (.step .start back)
  refine ⟨first, second, third, lost, back, participant, owner, ?_, regains.1, regains.2.2.1,
    regains.2.2.2 "SUBJECT.CREATE" ?_⟩
  · rw [firstScopes]
    decide
  · rw [narrowed]
    decide

end TokenAuthority
