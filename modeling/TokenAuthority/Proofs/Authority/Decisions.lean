import TokenAuthority.Proofs.Access.Narrowing
import TokenAuthority.Proofs.Authority.Issuance
import TokenAuthority.Proofs.Token.Kinds

/-!
# What issued tokens decide

A token that was issued for a person is compared with claims that are built directly from the same texts: the
subject, the role claims, the authorities and the sources, with every scope of the catalog.  On the way into
the token and out of it the role claims are parsed, written and parsed again, and the scopes are narrowed.

Apart from the scopes nothing of this matters, because both claims are about the same bearer.  As to the
scopes, the token has lost only those that no role of the person can use, and these are the ones for which the
direct claims are granted nothing either.  So the token grants what the direct claims grant, as far as it was
requested.
-/

namespace TokenAuthority

theorem Permission.mem_all (permission : Permission) : permission ∈ all := by
  rcases permission with ⟨entity, operation⟩
  cases entity <;> cases operation <;> decide

namespace Claims

/-- What claims grant on a target, if the scope of the permission is left aside. -/
def grantsOn (claims : Claims) (permission : Permission) (target : Target) : Bool :=
  (claims.isUnlimited permission || claims.rolesGrant permission target) && claims.reaches target

theorem isGranted_eq_hasScope_and (claims : Claims) (permission : Permission) (target : Target) :
    claims.isGranted permission target =
      (claims.hasScope permission && claims.grantsOn permission target) :=
  Bool.and_assoc ..

/-- Two claims are about the same bearer. -/
structure SameBearer (left right : Claims) : Prop where
  subject : left.subject = right.subject
  roles : left.roles = right.roles
  authorities : left.authorities = right.authorities
  sources : left.sources = right.sources
  machine : left.isClientCredentials = right.isClientCredentials

/-- Only scopes and the bearer enter a decision. -/
theorem SameBearer.grantsOn {left right : Claims} (same : left.SameBearer right) (permission : Permission)
    (target : Target) : left.grantsOn permission target = right.grantsOn permission target := by
  have assignments : left.assignments = right.assignments := by
    rw [Claims.assignments, same.roles, same.authorities, Claims.assignments]
  have inProject : left.rolesInProject = right.rolesInProject := by
    funext project
    rw [rolesInProject, rolesAt, same.roles, rolesInProject, rolesAt]
  have inOrganization : left.rolesInOrganization = right.rolesInOrganization := by
    funext organization
    rw [rolesInOrganization, rolesAt, same.roles, rolesInOrganization, rolesAt]
  have unlimited : left.isUnlimited permission = right.isUnlimited permission := by
    rw [isUnlimited, same.machine, hasGlobalAuthority, globalRoles, assignments]
    rfl
  have onSubject : left.rolesGrantOnSubject permission = right.rolesGrantOnSubject permission := by
    funext project subject
    rw [rolesGrantOnSubject, inProject, same.subject]
    rfl
  have byRoles : left.rolesGrant permission target = right.rolesGrant permission target := by
    cases target <;>
      simp only [rolesGrant, assignments, inProject, inOrganization, onSubject]
  have reached : left.reaches target = right.reaches target := by
    cases target <;> simp only [reaches, same.sources]
  rw [Claims.grantsOn, unlimited, byRoles, reached, Claims.grantsOn]

/-- The claims of a person that texts make, with every scope of the catalog. -/
def ofBearer (subject : String) (roleClaims authorities sources : List String) : Claims :=
  build [.subject subject, .roleClaims roleClaims, .authorities authorities, .sources sources,
    .scopes (Permission.all.map Permission.scope)]

theorem scopes_ofBearer (subject : String) (roleClaims authorities sources : List String) :
    (ofBearer subject roleClaims authorities sources).scopes =
      (Permission.all.map Permission.scope).foldl addScopeTo [] := by
  generalize catalog : Permission.all.map Permission.scope = scopes
  rw [ofBearer, catalog]
  rfl

/-- No scope is missing, so the bearer alone decides. -/
theorem isGranted_ofBearer (subject : String) (roleClaims authorities sources : List String)
    (permission : Permission) (target : Target) :
    (ofBearer subject roleClaims authorities sources).isGranted permission target =
      (ofBearer subject roleClaims authorities sources).grantsOn permission target := by
  have held : (ofBearer subject roleClaims authorities sources).hasScope permission = true := by
    rw [hasScope, scopes_ofBearer, List.contains_iff_mem, mem_foldl_addScopeTo]
    exact List.mem_map_of_mem (Permission.mem_all permission)
  rw [isGranted_eq_hasScope_and, held, Bool.true_and]

end Claims

namespace GrantRequest

variable (request : GrantRequest) (settings : Config.TokenSettings) (issuedAt expiry : Time.Instant)
  (tokenId : String) (person : Profile)

/-- The claims for a person are built, if the roles and the times can be. -/
theorem isBuilt_grantedClaims (normal : ∀ assignment ∈ person.roles, assignment.IsNormal)
    (begins : Time.Instant.isRepresentable issuedAt.seconds = true)
    (ends : Time.Instant.isRepresentable expiry.seconds = true) :
    (request.grantedClaims settings issuedAt expiry tokenId (some person)).IsBuilt :=
  ⟨[.scopes request.scopes, .grantType request.grantType, .audience [settings.resource],
    .issuer settings.issuer, .issuedAt issuedAt begins, .expiresAt expiry ends,
    .clientId request.clientId, .tokenId tokenId,
    .onlyScopes (grantableScopes (request.scopes.foldl addScopeTo []) person.effectiveRoles),
    .subject person.subject, .username person.username, .roles person.roles normal,
    .authorities person.authorities, .sources person.sources], rfl⟩

/-- The claims for a person grant what the person is granted, as far as it was requested. -/
theorem isGranted_grantedClaims (notMachine : request.isClientCredentials = false)
    (permission : Permission) (target : Target) :
    (request.grantedClaims settings issuedAt expiry tokenId (some person)).isGranted permission target =
      (decide (permission.scope ∈ request.scopes) &&
        (request.grantedClaims settings issuedAt expiry tokenId (some person)).grantsOn permission
          target) := by
  rw [Claims.isGranted_eq_hasScope_and]
  cases granted : (request.grantedClaims settings issuedAt expiry tokenId (some person)).grantsOn
      permission target with
  | false => rw [Bool.and_false, Bool.and_false]
  | true =>
      -- what the bearer is granted, some role can use, so its scope was not narrowed away
      have kept : (request.grantedClaims settings issuedAt expiry tokenId (some person)).hasScope
          permission = (request.scopes.foldl addScopeTo []).contains permission.scope :=
        Claims.contains_scopes_enhance rfl rfl notMachine (Bool.and_eq_true_iff.mp granted).1
      rw [Bool.and_true, Bool.and_true, kept]
      apply Bool.eq_iff_iff.mpr
      rw [List.contains_iff_mem, mem_foldl_addScopeTo, decide_eq_true_iff]

end GrantRequest

namespace Keyring.Issues

variable {ring : Keyring} {settings : Config.TokenSettings} {now : Time.Instant} {ids : FreshIds}
  {request : GrantRequest} {person : Profile} {expiry : Time.Instant} {granted : GrantedTokens}

/-- The ring that has issued an access token for its own audience reads it back while it is valid, if its signing
pair verifies its own signatures. -/
theorem readAccess_accessToken
    (issues : ring.Issues settings now ids request (some person) expiry granted)
    (own : ring.signing.pair.VerifiesOwn) (normal : ∀ assignment ∈ person.roles, assignment.IsNormal)
    (begins : Time.Instant.isRepresentable now.seconds = true) (audience : ring.audience = settings.resource)
    {instant : Time.Instant} (begun : ring.leeway ≤ instant.clock)
    (valid : instant.clock.toNat ≤ expiry.seconds + ring.leeway.toNat) :
    ring.readAccess instant granted.accessToken =
      .ok ((request.grantedClaims settings now.truncate expiry ids.access.text
        (some person)).readFrom granted.accessToken) := by
  have built := request.isBuilt_grantedClaims settings now.truncate expiry ids.access.text person normal
    begins (of_expiryAfter issues.expires).2.1
  rcases exists_standsFor_of_encode built issues.accessToken with ⟨claimSet, stands, signed⟩
  have decoded := decode_of_standsFor stands signed (vouchesFor_of_encode own built issues.accessToken)
    (GrantRequest.expiresAt_grantedClaims ..) begun valid
  rw [GrantRequest.audience_grantedClaims, audience, if_pos (Or.inr List.mem_cons_self)] at decoded
  exact readAccess_eq_ok_iff.mpr ⟨decoded, rfl⟩

/-- What is read from an access token grants a person what was requested of it, and what claims are granted
that are built directly from texts for the person. -/
theorem isGranted_readFrom
    (issues : ring.Issues settings now ids request (some person) expiry granted)
    {roleClaims : List String}
    (stated : person.roles = roleClaims.filterMap fun claim => (Assignment.ofClaim claim).toOption)
    (permission : Permission) (target : Target) :
    ((request.grantedClaims settings now.truncate expiry ids.access.text
        (some person)).readFrom granted.accessToken).isGranted permission target =
      (decide (permission.scope ∈ request.scopes) &&
        (Claims.ofBearer person.subject roleClaims person.authorities person.sources).isGranted permission
          target) := by
  have notMachine : request.isClientCredentials = false :=
    Bool.eq_false_iff.mpr (mt (GrantRequest.isClientCredentials_iff issues.admitted).mp nofun)
  have same : (request.grantedClaims settings now.truncate expiry ids.access.text
      (some person)).SameBearer (Claims.ofBearer person.subject roleClaims person.authorities
        person.sources) := by
    constructor
    case roles => exact congrArg (OrderedSet.insertAll Assignment.compare []) stated
    case machine => exact notMachine
    all_goals rfl
  have read : ((request.grantedClaims settings now.truncate expiry ids.access.text
      (some person)).readFrom granted.accessToken).isGranted permission target =
      (request.grantedClaims settings now.truncate expiry ids.access.text
        (some person)).isGranted permission target := by
    cases target <;> rfl
  rw [read, request.isGranted_grantedClaims _ _ _ _ _ notMachine, same.grantsOn,
    Claims.isGranted_ofBearer]

end Keyring.Issues
end TokenAuthority
