import Mathlib.Data.List.Nodup
import TokenAuthority.Proofs.Catalog.AssignmentOrder
import TokenAuthority.Proofs.Catalog.RoleClaims
import TokenAuthority.Token.Claims

/-!
# The construction of claims

Claims are built step by step, from nothing.  Every step either sets a value, adds to a collection or
puts scopes in the place of others, so a construction is a list of steps.

Whatever the steps and their order, the claims are canonical: the roles are a set in the order of
assignments, no scope stands twice, and times lie in representable years.  A step cannot be given an
assignment or an instant that could not be built, so nothing is asked of the steps here.
-/

namespace TokenAuthority

/-- A scope that is there is not added again. -/
theorem nodup_addScopeTo {scopes : List String} (distinct : scopes.Nodup) (scope : String) :
    (addScopeTo scopes scope).Nodup := by
  unfold addScopeTo
  split
  · exact distinct
  next absent =>
    have fresh : scope ∉ scopes := by simpa using absent
    refine List.nodup_append.mpr ⟨distinct, List.nodup_singleton scope, ?_⟩
    intro other member last listed
    rw [List.mem_singleton.mp listed]
    rintro rfl
    exact fresh member

theorem nodup_foldl_addScopeTo {scopes : List String} (distinct : scopes.Nodup)
    (added : List String) : (added.foldl addScopeTo scopes).Nodup := by
  induction added generalizing scopes with
  | nil => exact distinct
  | cons scope added ih => exact ih (nodup_addScopeTo distinct scope)

/-- Scopes that are all new are put at the end, in their order. -/
theorem foldl_addScopeTo_of_nodup (scopes added : List String) (distinct : (scopes ++ added).Nodup) :
    added.foldl addScopeTo scopes = scopes ++ added := by
  induction added generalizing scopes with
  | nil => rw [List.foldl_nil, List.append_nil]
  | cons scope added ih =>
      have fresh : scope ∉ scopes := fun member =>
        (List.nodup_append.mp distinct).2.2 scope member scope List.mem_cons_self rfl
      have step : addScopeTo scopes scope = scopes ++ [scope] := by
        rw [addScopeTo, if_neg (by simpa using fresh)]
      rw [List.foldl_cons, step, ih _ (by rwa [List.append_assoc, List.singleton_append]),
        List.append_assoc, List.singleton_append]

namespace Claims

/-- A step in the construction of claims. -/
inductive Step where
  | subject (name : String)
  | username (name : String)
  | role (assignment : Assignment) (normal : assignment.IsNormal)
  | roles (assignments : List Assignment) (normal : ∀ assignment ∈ assignments, assignment.IsNormal)
  | roleClaims (stated : List String)
  | authorities (names : List String)
  | scope (name : String)
  | scopes (names : List String)
  /-- Takes the scopes in place of all that are there. -/
  | onlyScopes (names : List String)
  | sources (names : List String)
  | grantType (name : String)
  | audience (names : List String)
  | issuer (name : String)
  | issuedAt (instant : Time.Instant)
      (representable : Time.Instant.isRepresentable instant.seconds = true)
  | expiresAt (instant : Time.Instant)
      (representable : Time.Instant.isRepresentable instant.seconds = true)
  | token (text : String)
  | tokenType (name : String)
  | clientId (name : String)
  | tokenId (name : String)
  | accessTokenId (name : String)

/-- The claims after a step. -/
def Step.apply (claims : Claims) : Step → Claims
  | subject name => { claims with subject := some name }
  | username name => { claims with username := some name }
  | role assignment _ => claims.addRole assignment
  | roles assignments _ => claims.addRoles assignments
  | roleClaims stated => claims.addRoleClaims stated
  | authorities names => claims.addAuthorities names
  | scope name => claims.addScope name
  | scopes names => claims.addScopes names
  | onlyScopes names => claims.withScopes names
  | sources names => claims.addSources names
  | grantType name => { claims with grantType := some name }
  | audience names => claims.addAudience names
  | issuer name => { claims with issuer := some name }
  | issuedAt instant _ => { claims with issuedAt := some instant }
  | expiresAt instant _ => { claims with expiresAt := some instant }
  | token text => { claims with token := some text }
  | tokenType name => { claims with tokenType := some name }
  | clientId name => { claims with clientId := some name }
  | tokenId name => { claims with tokenId := some name }
  | accessTokenId name => { claims with accessTokenId := some name }

/-- The claims that steps build from nothing. -/
def build (steps : List Step) : Claims :=
  steps.foldl Step.apply {}

/-- Claims that some steps build. -/
def IsBuilt (claims : Claims) : Prop :=
  ∃ steps, claims = build steps

/-- What holds of all claims that steps build. -/
structure IsCanonical (claims : Claims) : Prop where
  roles_isOrdered : OrderedSet.IsOrdered Assignment.compare claims.roles
  roles_normal : ∀ assignment ∈ claims.roles, assignment.IsNormal
  scopes_nodup : claims.scopes.Nodup
  issuedAt_representable : ∀ instant ∈ claims.issuedAt,
    Time.Instant.isRepresentable instant.seconds = true
  expiresAt_representable : ∀ instant ∈ claims.expiresAt,
    Time.Instant.isRepresentable instant.seconds = true

theorem isCanonical_empty : IsCanonical {} where
  roles_isOrdered := List.Pairwise.nil
  roles_normal := nofun
  scopes_nodup := List.nodup_nil
  issuedAt_representable := nofun
  expiresAt_representable := nofun

theorem IsCanonical.addRoles {claims : Claims} (canonical : claims.IsCanonical)
    {assignments : List Assignment} (normal : ∀ assignment ∈ assignments, assignment.IsNormal) :
    (claims.addRoles assignments).IsCanonical where
  roles_isOrdered := canonical.roles_isOrdered.insertAll assignments
  roles_normal := by
    intro assignment member
    rcases (OrderedSet.mem_insertAll assignments).mp member with added | present
    · exact normal assignment added
    · exact canonical.roles_normal assignment present
  scopes_nodup := canonical.scopes_nodup
  issuedAt_representable := canonical.issuedAt_representable
  expiresAt_representable := canonical.expiresAt_representable

/-- Role claims add only assignments that can be built. -/
theorem isNormal_of_mem_filterMap {roleClaims : List String} {assignment : Assignment}
    (member : assignment ∈ roleClaims.filterMap fun claim => (Assignment.ofClaim claim).toOption) :
    assignment.IsNormal := by
  rcases List.mem_filterMap.mp member with ⟨claim, _, stated⟩
  cases parsed : Assignment.ofClaim claim with
  | error fault =>
      rw [parsed] at stated
      cases stated
  | ok other =>
      rw [parsed] at stated
      rw [← Option.some.inj stated]
      exact Assignment.isNormal_of_ofClaim parsed

/-- A step keeps claims canonical. -/
theorem isCanonical_apply {claims : Claims} (canonical : claims.IsCanonical) (step : Step) :
    (step.apply claims).IsCanonical := by
  cases step with
  | role assignment normal =>
      have single : ∀ other ∈ [assignment], other.IsNormal := by
        intro other member
        rw [List.mem_singleton.mp member]
        exact normal
      exact canonical.addRoles single
  | roles assignments normal => exact canonical.addRoles normal
  | roleClaims stated => exact canonical.addRoles fun _ => isNormal_of_mem_filterMap
  | scope name => exact { canonical with scopes_nodup := nodup_addScopeTo canonical.scopes_nodup name }
  | scopes names =>
      exact { canonical with scopes_nodup := nodup_foldl_addScopeTo canonical.scopes_nodup names }
  | onlyScopes names =>
      exact { canonical with scopes_nodup := nodup_foldl_addScopeTo List.nodup_nil names }
  | issuedAt instant representable =>
      exact { canonical with
        issuedAt_representable := fun other same => Option.some.inj same ▸ representable }
  | expiresAt instant representable =>
      exact { canonical with
        expiresAt_representable := fun other same => Option.some.inj same ▸ representable }
  | _ => exact { canonical with }

/-- Whatever the steps, the claims they build are canonical. -/
theorem IsBuilt.isCanonical {claims : Claims} (built : claims.IsBuilt) : claims.IsCanonical := by
  rcases built with ⟨steps, rfl⟩
  have onwards : ∀ claims : Claims, claims.IsCanonical →
      (steps.foldl Step.apply claims).IsCanonical := by
    induction steps with
    | nil => exact fun _ canonical => canonical
    | cons step steps ih => exact fun claims canonical => ih _ (isCanonical_apply canonical step)
  exact onwards {} isCanonical_empty

end Claims
end TokenAuthority
