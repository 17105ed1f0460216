import TokenAuthority.Proofs.Failure
import TokenAuthority.Proofs.Token.Audience
import TokenAuthority.Proofs.Token.Scopes
import TokenAuthority.Proofs.Token.Verdicts
import TokenAuthority.Token.Grant

/-!
# What granted tokens state

A grant that succeeds has encoded the claims of its access token, and, for a person, those of the refresh
token that goes with it.  Both texts state these claims, and they state them to every reader: what a text
is decoded to is what its payload says, whichever ring decodes it and with whichever key.

Nothing about profiles or settings is assumed.  The times of the claims are representable enough to be
written because the expiry was computed without leaving the representable years.
-/

namespace TokenAuthority

/-! ## What a text states -/

/-- The claim set that the payload of a token states. -/
def SignedToken.claimSet? (text : String) : Option ClaimSet := do
  let token ← ofText? text
  let payload ← (readPart token.payload).toOption
  ClaimSet.ofJson? payload

/-- What a key hands out for a claim set states this claim set. -/
theorem NamedKey.claimSet?_of_sign? {key : NamedKey} {claimSet : ClaimSet} {text : String}
    (signed : key.sign? claimSet.toJson = some text) (times : claimSet.HasSignedTimes) :
    SignedToken.claimSet? text = some claimSet := by
  rcases exists_isFrom_of_sign? (ClaimSet.isWritable_toJson times) signed with ⟨token, parts, made⟩
  rw [SignedToken.claimSet?, parts]
  simp only [Option.bind_eq_bind, Option.bind_some, made.payload, Except.toOption,
    ClaimSet.ofJson?_toJson times]

/-- A claim set names a subject and a client, and allows scopes. -/
structure ClaimSet.IsFor (claimSet : ClaimSet) (subject : Option String) (clientId : String)
    (scopes : List String) : Prop where
  subject : claimSet.subject = subject
  clientId : claimSet.clientId = some clientId
  scopes : claimSet.scopes = scopes

theorem ClaimSet.instantOf_of_isRepresentable (claim : TimeClaim) {seconds : Int}
    (representable : Time.Instant.isRepresentable seconds = true) :
    instantOf claim seconds = .ok ⟨seconds, 0⟩ := by
  rw [instantOf, Time.Instant.ofSeconds?, if_pos representable]

/-- A claim set with representable times has claims. -/
theorem ClaimSet.exists_toClaims {claimSet : ClaimSet}
    (issued : ∀ seconds ∈ claimSet.issuedAt, Time.Instant.isRepresentable seconds = true)
    (expires : Time.Instant.isRepresentable claimSet.expiry = true) (text : String) :
    ∃ claims, claimSet.toClaims text = .ok claims := by
  have issuedAt : ∃ instant, optionalInstantOf .issuedAt claimSet.issuedAt = .ok instant := by
    cases same : claimSet.issuedAt with
    | none => exact ⟨none, rfl⟩
    | some seconds =>
        refine ⟨some ⟨seconds, 0⟩, ?_⟩
        rw [optionalInstantOf, instantOf_of_isRepresentable .issuedAt (issued seconds same)]
        rfl
  rcases issuedAt with ⟨instant, issuedAt⟩
  unfold toClaims
  rw [instantOf_of_isRepresentable .expiry expires, issuedAt]
  exact ⟨_, rfl⟩

namespace Keyring

variable {ring : Keyring} {now : Time.Instant} {approvals : Approvals} {text : String} {claims : Claims}

/-- A key of the ring has signed what a text states, and its expiry and the leeway have not passed. -/
structure Trusts (ring : Keyring) (now : Time.Instant) (text : String) (stated : ClaimSet) : Prop where
  states : SignedToken.claimSet? text = some stated
  verified : ring.vouchesFor text = true
  unexpired : now.clock.toNat ≤ stated.expiry + ring.leeway.toNat

/-- What a text is decoded to is what it states, and the ring trusts it. -/
theorem exists_trusts_of_decode (decoded : ring.decode now text = .ok claims) :
    ∃ stated, ring.Trusts now text stated ∧ stated.toClaims text = .ok claims := by
  rcases exists_accepted_of_decode decoded with
    ⟨token, payload, refresh, claimSet, verifier, member, parts, read, _, _, judged, taken⟩
  rcases Verifier.judgePayload_eq_accepted_iff.mp judged with ⟨stated, _, positive, begun, current, _⟩
  refine ⟨claimSet, ⟨?_, ?_, ?_⟩, taken⟩
  · rw [SignedToken.claimSet?, parts]
    simp only [Option.bind_eq_bind, Option.bind_some, read, Except.toOption, stated]
  · apply Bool.eq_true_of_not_eq_false
    intro unsigned
    rcases decode_of_not_vouchesFor unsigned now with ⟨error, refused, _⟩
    rw [decoded] at refused
    cases refused
  · rw [← leeway_of_mem_verifiers member]
    exact le_of_isExpired_eq_false positive begun current

theorem isApproved_iff :
    isApproved approvals claims = true ↔ ∃ username, claims.username = some username ∧
      approvals.isApproved username (claims.clientId.getD "") claims.scopes = true := by
  unfold isApproved
  cases claims.username with
  | none => simp only [Bool.false_eq_true, reduceCtorEq, false_and, exists_false]
  | some username => simp only [Option.some.injEq, exists_eq_left']

/-- A text is read for a refresh if it is a refresh token whose user approves all of its scopes. -/
theorem readRefresh_eq_ok_iff :
    ring.readRefresh now approvals text = .ok claims ↔ ring.decode now text = .ok claims ∧
      claims.isRefresh = true ∧ isApproved approvals claims = true := by
  unfold readRefresh
  constructor
  · intro read
    split at read
    · cases read
    next other decoded =>
      split at read
      · cases read
      next refreshes =>
        split at read
        next approved =>
          cases read
          rw [Bool.not_eq_true', Bool.not_eq_false] at refreshes
          exact ⟨decoded, refreshes, approved⟩
        · cases read
  · rintro ⟨decoded, refreshes, approved⟩
    simp only [decoded, refreshes, approved, Bool.not_true, Bool.false_eq_true, if_false, if_true]

/-- A refresh token that is read states what is read, and its user approves all of its scopes. -/
theorem of_readRefresh (read : ring.readRefresh now approvals text = .ok claims) :
    (∃ stated, SignedToken.claimSet? text = some stated ∧ stated.toClaims text = .ok claims) ∧
      ∃ username, claims.username = some username ∧
        approvals.isApproved username (claims.clientId.getD "") claims.scopes = true := by
  rcases readRefresh_eq_ok_iff.mp read with ⟨decoded, _, approved⟩
  rcases exists_trusts_of_decode decoded with ⟨stated, trusts, taken⟩
  exact ⟨⟨stated, trusts.states, taken⟩, isApproved_iff.mp approved⟩

end Keyring

/-! ## The claims of a grant -/

/-- An expiry is as many seconds later as it should be, and both instants fit into 64 bits. -/
theorem of_expiryAfter {now expiry : Time.Instant} {validity : UInt64}
    (computed : expiryAfter now validity = .ok expiry) :
    expiry.seconds = now.seconds + validity.toNat ∧
      Time.Instant.isRepresentable expiry.seconds = true ∧ IsSigned64 now.seconds := by
  unfold expiryAfter Time.Instant.addSeconds? at computed
  split at computed
  next result added =>
    cases computed
    split at added
    next short =>
      split at added
      next representable =>
        cases added
        refine ⟨rfl, representable, ?_⟩
        have bounds := Time.Instant.isRepresentable_iff.mp representable
        unfold Time.Instant.longestDuration at short
        unfold IsSigned64
        omega
      · cases added
    · cases added
  · cases computed

theorem nanoseconds_of_expiryAfter {now expiry : Time.Instant} {validity : UInt64}
    (computed : expiryAfter now validity = .ok expiry) : expiry.nanoseconds = now.nanoseconds := by
  unfold expiryAfter Time.Instant.addSeconds? at computed
  split at computed
  next result added =>
    cases computed
    split at added
    · split at added
      · cases added
        rfl
      · cases added
    · cases added
  · cases computed

/-- The times of a token fit into 64 bits if its expiry could be computed. -/
theorem hasSignedTimes_of_expiryAfter {now expiry : Time.Instant} {validity : UInt64}
    (computed : expiryAfter now validity = .ok expiry) {claims : Claims} {claimSet : ClaimSet}
    (written : ClaimSet.ofClaims claims = .ok claimSet) (issued : claims.issuedAt = some now)
    (expires : claims.expiresAt = some expiry) : claimSet.HasSignedTimes := by
  rcases of_expiryAfter computed with ⟨_, representable, fits⟩
  apply ClaimSet.hasSignedTimes_of_isSigned64 written
  · intro instant present
    rw [issued] at present
    rw [← Option.some.inj present]
    exact fits
  · intro instant present
    rw [expires] at present
    rw [← Option.some.inj present]
    exact Time.Instant.isSigned64_of_isRepresentable representable

namespace GrantRequest

variable (request : GrantRequest) (settings : Config.TokenSettings) (issuedAt expiry : Time.Instant)
  (tokenId : String) (profile : Option Profile)

/-- The claims of the access token of a grant. -/
def grantedClaims : Claims :=
  request.accessClaims (request.requestedClaims settings issuedAt expiry tokenId) profile

theorem subject_grantedClaims :
    (request.grantedClaims settings issuedAt expiry tokenId profile).subject =
      profile.map Profile.subject := by
  cases profile <;> rfl

theorem username_grantedClaims :
    (request.grantedClaims settings issuedAt expiry tokenId profile).username =
      profile.map Profile.username := by
  cases profile <;> rfl

theorem clientId_grantedClaims :
    (request.grantedClaims settings issuedAt expiry tokenId profile).clientId =
      some request.clientId := by
  cases profile <;> rfl

theorem audience_grantedClaims :
    (request.grantedClaims settings issuedAt expiry tokenId profile).audience =
      [settings.resource] := by
  cases profile <;> rfl

theorem accessTokenId_grantedClaims :
    (request.grantedClaims settings issuedAt expiry tokenId profile).accessTokenId = none := by
  cases profile <;> rfl

theorem issuedAt_grantedClaims :
    (request.grantedClaims settings issuedAt expiry tokenId profile).issuedAt = some issuedAt := by
  cases profile <;> rfl

theorem expiresAt_grantedClaims :
    (request.grantedClaims settings issuedAt expiry tokenId profile).expiresAt = some expiry := by
  cases profile <;> rfl

theorem nodup_scopes_grantedClaims :
    (request.grantedClaims settings issuedAt expiry tokenId profile).scopes.Nodup := by
  cases profile with
  | none => exact nodup_foldl_addScopeTo List.nodup_nil _
  | some person => exact nodup_foldl_addScopeTo List.nodup_nil _

theorem grantType_grantedClaims :
    (request.grantedClaims settings issuedAt expiry tokenId profile).grantType =
      some request.grantType := by
  cases profile <;> rfl

theorem issuer_grantedClaims :
    (request.grantedClaims settings issuedAt expiry tokenId profile).issuer =
      some settings.issuer := by
  cases profile <;> rfl

theorem tokenId_grantedClaims :
    (request.grantedClaims settings issuedAt expiry tokenId profile).tokenId = some tokenId := by
  cases profile <;> rfl

end GrantRequest

/-- A scope that is granted when it is requested: it names a permission, and if it is requested for a
person, some role of the person holds this permission. -/
def IsUsable (profile : Option Profile) (scope : String) : Prop :=
  ∃ permission : Permission, permission.scope = scope ∧
    ∀ person ∈ profile, ∃ role ∈ person.effectiveRoles, role.holds permission = true

theorem isUsable_some_iff {person : Profile} {scope : String} :
    IsUsable (some person) scope ↔ isGrantable person.effectiveRoles scope = true := by
  simp only [IsUsable, isGrantable_iff, Permission.ofScope_eq_ok_iff, Option.mem_def,
    Option.some.injEq, forall_eq']

theorem isUsable_none_iff {scope : String} :
    IsUsable none scope ↔ GrantRequest.isCatalogScope scope = true := by
  unfold IsUsable GrantRequest.isCatalogScope
  simp only [Option.not_mem_none, false_implies, implies_true, and_true]
  simp only [← Permission.ofScope_eq_ok_iff]
  cases Permission.ofScope scope with
  | error error => exact iff_of_false (by rintro ⟨_, absurdity⟩; cases absurdity) Bool.false_ne_true
  | ok permission => exact iff_of_true ⟨permission, rfl⟩ rfl

instance (profile : Option Profile) : DecidablePred (IsUsable profile) :=
  match profile with
  | some _ => fun _ => decidable_of_iff _ isUsable_some_iff.symm
  | none => fun _ => decidable_of_iff _ isUsable_none_iff.symm

/-- Scopes that are requested for a person are narrowed to those that some role of the person can use. -/
theorem GrantRequest.scopes_grantedClaims_some (request : GrantRequest)
    (settings : Config.TokenSettings) (issuedAt expiry : Time.Instant) (tokenId : String)
    (person : Profile) :
    (request.grantedClaims settings issuedAt expiry tokenId (some person)).scopes =
      (request.scopes.filter (isGrantable person.effectiveRoles)).foldl addScopeTo [] := by
  have narrowed : (request.grantedClaims settings issuedAt expiry tokenId (some person)).scopes =
      ((request.scopes.foldl addScopeTo []).filter
        (isGrantable person.effectiveRoles)).foldl addScopeTo [] :=
    Claims.scopes_enhance _ person
  rw [narrowed, filter_foldl_addScopeTo, List.filter_nil, foldl_addScopeTo_twice]

/-- What is granted of the requested scopes are the usable ones, each where it was requested first. -/
theorem GrantRequest.scopes_grantedClaims_eq (request : GrantRequest)
    (settings : Config.TokenSettings) (issuedAt expiry : Time.Instant) (tokenId : String)
    (profile : Option Profile) :
    (request.grantedClaims settings issuedAt expiry tokenId profile).scopes =
      (request.scopes.filter fun scope => IsUsable profile scope).eraseDups := by
  rw [← foldl_addScopeTo_eq_eraseDups]
  cases profile with
  | none =>
      have usable : (fun scope => decide (IsUsable none scope)) = isCatalogScope := by
        funext scope
        rw [Bool.eq_iff_iff, decide_eq_true_eq, isUsable_none_iff]
      rw [usable]
      rfl
  | some person =>
      have usable : (fun scope => decide (IsUsable (some person) scope)) =
          isGrantable person.effectiveRoles := by
        funext scope
        rw [Bool.eq_iff_iff, decide_eq_true_eq, isUsable_some_iff]
      rw [usable, scopes_grantedClaims_some]

namespace Keyring

/-- What a grant that succeeds consists of. -/
structure Issues (ring : Keyring) (settings : Config.TokenSettings) (now : Time.Instant) (ids : FreshIds)
    (request : GrantRequest) (profile : Option Profile) (expiry : Time.Instant)
    (granted : GrantedTokens) : Prop where
  admitted : request.refusal? profile = none
  expires : expiryAfter now.truncate settings.accessValidity = .ok expiry
  accessToken : ring.encode (request.grantedClaims settings now.truncate expiry ids.access.text profile) =
    .ok granted.accessToken
  refreshToken : if request.isClientCredentials then granted.refreshToken = none
    else ∃ text, granted.refreshToken = some text ∧ ring.refreshToken settings now.truncate ids
      (request.grantedClaims settings now.truncate expiry ids.access.text profile) = .ok text
  expiresIn : granted.expiresIn = expiry.seconds - now.seconds
  expiresAt : granted.expiresAt = expiry
  scopes : granted.scopes =
    (request.grantedClaims settings now.truncate expiry ids.access.text profile).scopes
  tokenId : granted.tokenId = ids.access.text

variable {ring : Keyring} {settings : Config.TokenSettings} {now : Time.Instant} {ids : FreshIds}
  {request : GrantRequest} {profile : Option Profile} {granted : GrantedTokens}

theorem exists_issues_of_grant {access : Claims}
    (success : ring.grant settings now ids request profile = .ok (granted, access)) :
    ∃ expiry, ring.Issues settings now ids request profile expiry granted ∧
      access = request.grantedClaims settings now.truncate expiry ids.access.text profile := by
  unfold grant at success
  split at success
  · cases success
  next admitted =>
    rcases exists_ok_of_bind success with ⟨expiry, expires, success⟩
    rcases exists_ok_of_bind success with ⟨accessToken, encoded, success⟩
    refine ⟨expiry, ?_⟩
    split at success
    next machine =>
      cases success
      refine ⟨⟨admitted, expires, encoded, ?_, rfl, rfl, rfl, rfl⟩, rfl⟩
      rw [if_pos machine]
    next person =>
      rcases exists_ok_of_bind success with ⟨refreshToken, made, success⟩
      cases success
      refine ⟨⟨admitted, expires, encoded, ?_, rfl, rfl, rfl, rfl⟩, rfl⟩
      rw [if_neg person]
      rcases exists_ok_of_map made with ⟨text, refreshed, rfl⟩
      exact ⟨text, rfl, refreshed⟩

section

variable {expiry : Time.Instant}

/-- The access token is a signed claim set of the granted claims. -/
theorem Issues.exists_ofClaims (issues : ring.Issues settings now ids request profile expiry granted) :
    ∃ claimSet, ClaimSet.ofClaims (request.grantedClaims settings now.truncate expiry ids.access.text
        profile) = .ok claimSet ∧
      ring.signing.sign? claimSet.toJson = some granted.accessToken ∧ claimSet.HasSignedTimes := by
  rcases exists_claimSet_of_encode issues.accessToken with ⟨claimSet, written, signed⟩
  have times := hasSignedTimes_of_expiryAfter issues.expires written
    (GrantRequest.issuedAt_grantedClaims ..) (GrantRequest.expiresAt_grantedClaims ..)
  exact ⟨claimSet, written, signed, times⟩

/-- A refresh token is a signed claim set of the claims that repeat the granted ones. -/
theorem Issues.exists_ofClaims_refresh
    (issues : ring.Issues settings now ids request profile expiry granted) {text : String}
    (given : granted.refreshToken = some text) :
    ∃ later claimSet, expiryAfter now.truncate settings.refreshValidity = .ok later ∧
      ClaimSet.ofClaims (GrantRequest.refreshClaims (request.grantedClaims settings now.truncate expiry
        ids.access.text profile) ids.refresh.text ids.access.text later) = .ok claimSet ∧
      ring.signing.sign? claimSet.toJson = some text ∧ claimSet.HasSignedTimes := by
  have refreshToken := issues.refreshToken
  split at refreshToken
  · rw [given] at refreshToken
    cases refreshToken
  · rcases refreshToken with ⟨other, same, made⟩
    rw [given] at same
    cases same
    rcases exists_ok_of_bind made with ⟨later, computed, encoded⟩
    rcases exists_claimSet_of_encode encoded with ⟨claimSet, written, signed⟩
    have times := hasSignedTimes_of_expiryAfter computed written
      (GrantRequest.issuedAt_grantedClaims ..) rfl
    exact ⟨later, claimSet, computed, written, signed, times⟩

/-- The claim set of the access token, by what verifying and narrowing depend on. -/
theorem Issues.exists_accessClaimSet
    (issues : ring.Issues settings now ids request profile expiry granted) :
    ∃ claimSet : ClaimSet, ring.signing.sign? claimSet.toJson = some granted.accessToken ∧
      claimSet.HasSignedTimes ∧ claimSet.audience = [settings.resource] ∧
      claimSet.accessTokenId = none ∧ claimSet.issuedAt = some now.seconds ∧
      claimSet.expiry = expiry.seconds ∧
      claimSet.IsFor (profile.map Profile.subject) request.clientId granted.scopes := by
  rcases issues.exists_ofClaims with ⟨claimSet, written, signed, times⟩
  refine ⟨claimSet, signed, times, ?_⟩
  rw [ClaimSet.ofClaims, GrantRequest.expiresAt_grantedClaims] at written
  cases written
  refine ⟨?_, ?_, ?_, rfl, ?_, ?_, issues.scopes.symm⟩
  · exact GrantRequest.audience_grantedClaims ..
  · exact GrantRequest.accessTokenId_grantedClaims ..
  · rw [GrantRequest.issuedAt_grantedClaims]
    rfl
  · exact GrantRequest.subject_grantedClaims ..
  · exact GrantRequest.clientId_grantedClaims ..

/-- The claim set of the refresh token, likewise. -/
theorem Issues.exists_refreshClaimSet
    (issues : ring.Issues settings now ids request profile expiry granted) {text : String}
    (given : granted.refreshToken = some text) :
    ∃ (claimSet : ClaimSet) (later : Time.Instant),
      expiryAfter now.truncate settings.refreshValidity = .ok later ∧
      ring.signing.sign? claimSet.toJson = some text ∧ claimSet.HasSignedTimes ∧
      claimSet.accessTokenId = some ids.access.text ∧ claimSet.issuedAt = some now.seconds ∧
      claimSet.expiry = later.seconds ∧ claimSet.username = profile.map Profile.username ∧
      claimSet.IsFor (profile.map Profile.subject) request.clientId granted.scopes := by
  rcases issues.exists_ofClaims_refresh given with ⟨later, claimSet, computed, written, signed, times⟩
  refine ⟨claimSet, later, computed, signed, times, ?_⟩
  rw [ClaimSet.ofClaims, GrantRequest.refreshClaims] at written
  cases written
  refine ⟨rfl, ?_, rfl, ?_, ?_, ?_, issues.scopes.symm⟩
  · rw [GrantRequest.issuedAt_grantedClaims]
    rfl
  · exact GrantRequest.username_grantedClaims ..
  · exact GrantRequest.subject_grantedClaims ..
  · exact GrantRequest.clientId_grantedClaims ..

end

/-- A ring whose signing key signs every message grants every request that is admitted, unless the tokens would
expire beyond the representable years. -/
theorem exists_grant_of_signsAll (signs : ring.signing.pair.SignsAll)
    (admitted : request.refusal? profile = none) {expiry later : Time.Instant}
    (expires : expiryAfter now.truncate settings.accessValidity = .ok expiry)
    (refreshable : expiryAfter now.truncate settings.refreshValidity = .ok later) :
    ∃ granted access, ring.grant settings now ids request profile = .ok (granted, access) := by
  have encodes : ∀ (claims : Claims) (instant : Time.Instant), claims.expiresAt = some instant →
      ∃ text, ring.encode claims = .ok text := by
    intro claims instant expiresAt
    rcases ClaimSet.exists_ofClaims expiresAt with ⟨claimSet, written, _⟩
    rcases exists_encode_of_signsAll signs written with ⟨text, encoded, _⟩
    exact ⟨text, encoded⟩
  rcases encodes _ expiry (request.expiresAt_grantedClaims settings now.truncate expiry ids.access.text
    profile) with ⟨accessToken, encoded⟩
  have refreshed : ∃ text, ring.refreshToken settings now.truncate ids (request.grantedClaims settings
      now.truncate expiry ids.access.text profile) = .ok text := by
    simp only [refreshToken, refreshable, bind, Except.bind]
    exact encodes _ later rfl
  rcases refreshed with ⟨text, refreshed⟩
  rw [GrantRequest.grantedClaims] at encoded refreshed
  unfold grant
  rw [admitted]
  simp only [expires, encoded, refreshed, bind, Except.bind, Except.map]
  split <;> exact ⟨_, _, rfl⟩

end Keyring
end TokenAuthority
