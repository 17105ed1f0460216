import TokenAuthority.Catalog.RuleTable
import TokenAuthority.Token.Claims

/-!
# Profiles and the narrowing of scopes

A profile is what is known of the person for whom a token is issued. Folding it into claims narrows
their scopes to those that some role of the person can use. A request for more is trimmed, never
refused.
-/

namespace TokenAuthority

/-- What is known of a person for whom a token is issued. -/
structure Profile where
  subject : String
  username : String
  roles : List Assignment := []
  /-- Roles held as authorities, such as `ROLE_SYS_ADMIN`. -/
  authorities : List String := []
  /-- The sources bound to the devices of the person. -/
  sources : List String := []
deriving DecidableEq, Repr, Inhabited

/-- Some of the roles holds the permission that the scope names. -/
def isGrantable (roles : List Role) (scope : String) : Bool :=
  match Permission.ofScope scope with
  | .ok permission => roles.any fun role => role.holds permission
  | .error _ => false

/-- The requested scopes that some of the roles can use, each once, in the order of the request. -/
def grantableScopes (requested : List String) (roles : List Role) : List String :=
  (requested.filter (isGrantable roles)).foldl addScopeTo []

namespace Profile

/-- The roles of the assignments and of the authorities that name one, in catalog order. -/
def effectiveRoles (profile : Profile) : List Role :=
  Claims.rolesOf (profile.roles ++ (profile.authorities.filterMap Role.ofName?).map Assignment.bare)

end Profile

namespace Claims

/-- Claims with the identity, roles, authorities and sources of a profile. -/
def withProfile (claims : Claims) (profile : Profile) : Claims :=
  ({ claims with subject := some profile.subject, username := some profile.username }.addRoles
    profile.roles).addAuthorities profile.authorities |>.addSources profile.sources

/-- Claims with a profile folded in, and their scopes narrowed to what the profile's roles can use. -/
def enhance (claims : Claims) (profile : Profile) : Claims :=
  (claims.withScopes (grantableScopes claims.scopes profile.effectiveRoles)).withProfile profile

end Claims
end TokenAuthority
