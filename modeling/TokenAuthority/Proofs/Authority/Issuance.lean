import TokenAuthority.Proofs.Authority.Runs
import TokenAuthority.Proofs.Text.Identifiers

/-!
# What a grant hands out

A grant speaks three times: in the access token, in the refresh token, and in the answer that goes with
them.  All three tell the same.  The access token says for whom it is, which is either the person of the
profile, with everything that the profile has, or nobody; for nobody it is exactly when the client asks for
itself, and such a token alone is taken for one of a machine client by those who read it.  The refresh token
repeats what the access token says, but for its own identifier and expiry and the access token that it
names.  The answer reports scopes, expiry and identifier as they are signed.

What is signed is compared, not what was meant to be signed: a claim set is here what the text of a token
states to everyone.
-/

namespace TokenAuthority

namespace ClaimSet

/-- A claim set is about the person of a profile. -/
structure NamesPerson (claimSet : ClaimSet) (person : Profile) : Prop where
  subject : claimSet.subject = some person.subject
  username : claimSet.username = some person.username
  roles : ∃ roles, OrderedSet.IsOrdered Assignment.compare roles ∧
    (∀ assignment, assignment ∈ roles ↔ assignment ∈ person.roles) ∧
      claimSet.roles = roles.map Assignment.claim
  authorities : claimSet.authorities = person.authorities
  sources : claimSet.sources = person.sources

/-- A claim set is about nobody. -/
structure NamesNobody (claimSet : ClaimSet) : Prop where
  subject : claimSet.subject = none
  username : claimSet.username = none
  roles : claimSet.roles = []
  authorities : claimSet.authorities = []
  sources : claimSet.sources = []

end ClaimSet

namespace GrantedTokens

/-- The access token and the answer of a grant agree with the request, the settings and each other. -/
structure Answers (granted : GrantedTokens) (request : GrantRequest) (profile : Option Profile)
    (settings : Config.TokenSettings) (now : Time.Instant) (access : ClaimSet) : Prop where
  nobody : profile = none → access.NamesNobody
  person : ∀ person, profile = some person → access.NamesPerson person
  issuer : access.issuer = some settings.issuer
  audience : access.audience = [settings.resource]
  clientId : access.clientId = some request.clientId
  grantType : access.grantType = some request.grantType
  issuedAt : access.issuedAt = some now.seconds
  expiry : access.expiry = now.seconds + settings.accessValidity.toNat
  expiresAt : granted.expiresAt = ⟨access.expiry, 0⟩
  expiresIn : granted.expiresIn = settings.accessValidity.toNat
  tokenId : access.tokenId = some granted.tokenId
  noAccessTokenId : access.accessTokenId = none
  scopes : access.scopes = granted.scopes
  usable : granted.scopes = (request.scopes.filter fun scope => IsUsable profile scope).eraseDups

/-- A refresh token repeats the access token, with another identifier and expiry, and names it. -/
structure Repeats (granted : GrantedTokens) (settings : Config.TokenSettings) (now : Time.Instant)
    (ids : FreshIds) (access refresh : ClaimSet) : Prop where
  tokenId : refresh.tokenId = some ids.refresh.text
  distinct : ids.refresh ≠ ids.access → refresh.tokenId ≠ access.tokenId
  accessTokenId : refresh.accessTokenId = some granted.tokenId
  expiry : refresh.expiry = now.seconds + settings.refreshValidity.toNat
  others : { refresh with
    tokenId := access.tokenId, accessTokenId := access.accessTokenId, expiry := access.expiry } = access

end GrantedTokens

/-- A request is admitted for nobody exactly when the client asks for itself. -/
theorem GrantRequest.isClientCredentials_iff {request : GrantRequest} {profile : Option Profile}
    (admitted : request.refusal? profile = none) :
    request.isClientCredentials = true ↔ profile = none := by
  unfold refusal? at admitted
  cases machine : request.isClientCredentials <;> cases profile <;> simp_all

namespace Keyring.Issues

variable {ring : Keyring} {settings : Config.TokenSettings} {now : Time.Instant} {ids : FreshIds}
  {request : GrantRequest} {profile : Option Profile} {expiry : Time.Instant} {granted : GrantedTokens}

theorem refreshToken_eq_none_iff
    (issues : ring.Issues settings now ids request profile expiry granted) :
    granted.refreshToken = none ↔ profile = none := by
  have machine := GrantRequest.isClientCredentials_iff issues.admitted
  have refreshToken := issues.refreshToken
  split at refreshToken
  next isMachine => exact iff_of_true refreshToken (machine.mp isMachine)
  next isPerson =>
    rcases refreshToken with ⟨text, given, _⟩
    rw [given]
    exact iff_of_false nofun (mt machine.mpr isPerson)

variable {access : ClaimSet}

theorem namesPerson {person : Profile}
    (written : ClaimSet.ofClaims (request.grantedClaims settings now.truncate expiry ids.access.text
      (some person)) = .ok access) : access.NamesPerson person := by
  rw [ClaimSet.ofClaims, GrantRequest.expiresAt_grantedClaims] at written
  cases written
  constructor
  case subject => rfl
  case username => rfl
  case roles =>
    refine ⟨OrderedSet.insertAll Assignment.compare [] person.roles, ?_, ?_, ?_⟩
    · exact OrderedSet.IsOrdered.insertAll person.roles List.Pairwise.nil
    · intro assignment
      rw [OrderedSet.mem_insertAll]
      exact or_iff_left List.not_mem_nil
    · rfl
  case authorities => rfl
  case sources => rfl

theorem namesNobody
    (written : ClaimSet.ofClaims (request.grantedClaims settings now.truncate expiry ids.access.text
      none) = .ok access) : access.NamesNobody := by
  rw [ClaimSet.ofClaims, GrantRequest.expiresAt_grantedClaims] at written
  cases written
  constructor <;> rfl

theorem answers (issues : ring.Issues settings now ids request profile expiry granted)
    (written : ClaimSet.ofClaims (request.grantedClaims settings now.truncate expiry ids.access.text
      profile) = .ok access) : granted.Answers request profile settings now access := by
  have nobody : profile = none → access.NamesNobody := by
    rintro rfl
    exact namesNobody written
  have person : ∀ person, profile = some person → access.NamesPerson person := by
    rintro person rfl
    exact namesPerson written
  rcases of_expiryAfter issues.expires with ⟨later, _, _⟩
  rw [ClaimSet.ofClaims, GrantRequest.expiresAt_grantedClaims] at written
  cases written
  refine ⟨nobody, person, ?_, ?_, ?_, ?_, ?_, later, ?_, ?_, ?_, ?_, issues.scopes.symm, ?_⟩
  · exact GrantRequest.issuer_grantedClaims ..
  · exact GrantRequest.audience_grantedClaims ..
  · exact GrantRequest.clientId_grantedClaims ..
  · exact GrantRequest.grantType_grantedClaims ..
  · rw [GrantRequest.issuedAt_grantedClaims]
    rfl
  · have whole : expiry.nanoseconds = 0 := nanoseconds_of_expiryAfter issues.expires
    rw [issues.expiresAt]
    exact congrArg (Time.Instant.mk expiry.seconds) whole
  · rw [issues.expiresIn, later]
    exact add_sub_cancel_left _ _
  · rw [issues.tokenId]
    exact GrantRequest.tokenId_grantedClaims ..
  · exact GrantRequest.accessTokenId_grantedClaims ..
  · rw [issues.scopes]
    exact request.scopes_grantedClaims_eq settings now.truncate expiry ids.access.text profile

theorem repeats (issues : ring.Issues settings now ids request profile expiry granted)
    (written : ClaimSet.ofClaims (request.grantedClaims settings now.truncate expiry ids.access.text
      profile) = .ok access) {later : Time.Instant} {refresh : ClaimSet}
    (computed : expiryAfter now.truncate settings.refreshValidity = .ok later)
    (repeated : ClaimSet.ofClaims (GrantRequest.refreshClaims (request.grantedClaims settings
      now.truncate expiry ids.access.text profile) ids.refresh.text ids.access.text later) =
        .ok refresh) : granted.Repeats settings now ids access refresh := by
  rw [ClaimSet.ofClaims, GrantRequest.expiresAt_grantedClaims] at written
  cases written
  rw [ClaimSet.ofClaims, GrantRequest.refreshClaims] at repeated
  cases repeated
  constructor
  case tokenId => rfl
  case distinct =>
    intro fresh same
    rw [GrantRequest.tokenId_grantedClaims] at same
    exact fresh (Uuid.text_injective (Option.some.inj same))
  case accessTokenId => rw [issues.tokenId]
  case expiry => exact (of_expiryAfter computed).1
  case others => rfl

end Keyring.Issues

namespace Authority

/-- The tokens and the answer of a grant agree.  The grant is for nobody exactly when the client asks for
itself; readers of the access token see this, and only then there is no refresh token.  The service verifies both
tokens if its signing pair verifies its own signatures. -/
theorem answers_of_grant (authority : Authority) (now : Time.Instant) (ids : FreshIds)
    (request : GrantRequest) (profile : Option Profile) (granted : GrantedTokens) (next : Authority)
    (success : authority.grant now ids request profile = .ok (granted, next)) :
    (request.isClientCredentials = true ↔ profile = none) ∧
      (granted.refreshToken = none ↔ profile = none) ∧
      ∃ access, SignedToken.claimSet? granted.accessToken = some access ∧
        (authority.keyring.signing.pair.VerifiesOwn →
          authority.keyring.vouchesFor granted.accessToken = true) ∧
        granted.Answers request profile authority.settings now access ∧
        (∀ (reader : Keyring) (instant : Time.Instant) (claims : Claims),
          reader.decode instant granted.accessToken = .ok claims →
            (claims.isClientCredentials = true ↔ profile = none)) ∧
        ∀ text, granted.refreshToken = some text → ∃ refresh,
          SignedToken.claimSet? text = some refresh ∧
            (authority.keyring.signing.pair.VerifiesOwn → authority.keyring.vouchesFor text = true) ∧
            granted.Repeats authority.settings now ids access refresh := by
  rcases exists_issues_of_grant success with ⟨expiry, issues⟩
  have machine := GrantRequest.isClientCredentials_iff issues.admitted
  rcases issues.exists_ofClaims with ⟨access, written, signed, times⟩
  have states := NamedKey.claimSet?_of_sign? signed times
  have vouches (own : authority.keyring.signing.pair.VerifiesOwn) :
      authority.keyring.vouchesFor granted.accessToken = true :=
    Keyring.vouchesFor_of_mem own (ClaimSet.isWritable_toJson times) signed List.mem_cons_self
  have answers := issues.answers written
  refine ⟨machine, issues.refreshToken_eq_none_iff, access, states, vouches, answers, ?_, ?_⟩
  · intro reader instant claims decoded
    rcases Keyring.exists_trusts_of_decode decoded with ⟨stated, trusts, taken⟩
    have again := trusts.states
    rw [states] at again
    cases again
    rw [Claims.isClientCredentials, (ClaimSet.isKeptBy_of_toClaims taken).grantType, answers.grantType]
    exact machine
  · intro text given
    rcases issues.exists_ofClaims_refresh given with
      ⟨later, refresh, computed, repeated, refreshSigned, refreshTimes⟩
    exact ⟨refresh, NamedKey.claimSet?_of_sign? refreshSigned refreshTimes,
      fun own => Keyring.vouchesFor_of_mem own (ClaimSet.isWritable_toJson refreshTimes) refreshSigned
        List.mem_cons_self,
      issues.repeats written computed repeated⟩

/-- A service with a reliable key and the usual settings. -/
def issuing : Authority where
  keyring := Keyring.proth
  settings := {}

def threeIds : FreshIds :=
  ⟨⟨1⟩, ⟨2⟩, ⟨3⟩⟩

/-- A participant of two projects, with one of the assignments given twice. -/
def enrolled : Profile where
  subject := "S"
  username := "user"
  roles := [.within .participant "Q", .within .participant "P", .within .participant "Q"]
  sources := ["device"]

/-- Some of four requested scopes are granted, and both tokens and the answer say so. -/
theorem answers_of_grant_enrolled :
    ∃ granted next access text refresh,
      issuing.grant ⟨1000, 5⟩ threeIds
        ⟨"client", "password", ["SUBJECT.READ", "openid", "PROJECT.DELETE", "SUBJECT.READ"]⟩
        (some enrolled) = .ok (granted, next) ∧
      granted.scopes = ["SUBJECT.READ"] ∧ granted.expiresAt = ⟨1900, 0⟩ ∧
      SignedToken.claimSet? granted.accessToken = some access ∧ access.NamesPerson enrolled ∧
      access.scopes = ["SUBJECT.READ"] ∧ access.expiry = 1900 ∧
      granted.refreshToken = some text ∧ SignedToken.claimSet? text = some refresh ∧
      refresh.accessTokenId = access.tokenId ∧ refresh.tokenId ≠ access.tokenId ∧
      refresh.expiry = 87400 := by
  have made : ∃ granted next, issuing.grant ⟨1000, 5⟩ threeIds
      ⟨"client", "password", ["SUBJECT.READ", "openid", "PROJECT.DELETE", "SUBJECT.READ"]⟩
      (some enrolled) = .ok (granted, next) :=
    issuing.exists_grant_of_signsAll Keyring.isReliable_proth.signs rfl rfl rfl
  rcases made with ⟨granted, next, success⟩
  rcases answers_of_grant issuing ⟨1000, 5⟩ threeIds _ (some enrolled) granted next success with
    ⟨_, machine, access, states, _, answers, _, repeats⟩
  cases given : granted.refreshToken with
  | none => exact absurd (machine.mp given) nofun
  | some text =>
      rcases repeats text given with ⟨refresh, refreshStates, _, same⟩
      have scopes : granted.scopes = ["SUBJECT.READ"] := by
        rw [answers.usable]
        decide +kernel
      refine ⟨granted, next, access, text, refresh, success, scopes, ?_, states,
        answers.person enrolled rfl, ?_, answers.expiry, given, refreshStates, ?_,
        same.distinct (by decide), same.expiry⟩
      · rw [answers.expiresAt, answers.expiry]
        rfl
      · rw [answers.scopes, scopes]
      · rw [same.accessTokenId, answers.tokenId]

end Authority
end TokenAuthority
