import TokenAuthority.Catalog.Assignment
import TokenAuthority.Time.Instant

/-!
# Claims

What a token says about its bearer and about itself. Claims are a value: adding a role or a scope gives
new claims. Role assignments are kept as a set in the order of assignments, scopes without repetition in
the order in which they were first added; authorities, sources and audience are plain lists that grow at
the end.
-/

namespace TokenAuthority

/-- What a token says. -/
structure Claims where
  subject : Option String := none
  username : Option String := none
  roles : List Assignment := []
  authorities : List String := []
  scopes : List String := []
  sources : List String := []
  grantType : Option String := none
  audience : List String := []
  issuer : Option String := none
  issuedAt : Option Time.Instant := none
  expiresAt : Option Time.Instant := none
  /-- The text of the token, if the claims were taken from one. -/
  token : Option String := none
  tokenType : Option String := none
  clientId : Option String := none
  tokenId : Option String := none
  /-- On a refresh token, the identifier of the access token it was issued with. -/
  accessTokenId : Option String := none
deriving DecidableEq, Inhabited

/-- Adds a scope at the end, unless it is there. -/
def addScopeTo (scopes : List String) (scope : String) : List String :=
  if scopes.contains scope then scopes else scopes ++ [scope]

namespace Claims

/-- The grant type of machine clients that act without a person. -/
def clientCredentials : String := "client_credentials"

def addRole (claims : Claims) (assignment : Assignment) : Claims :=
  { claims with roles := OrderedSet.insert Assignment.compare assignment claims.roles }

def addRoles (claims : Claims) (assignments : List Assignment) : Claims :=
  { claims with roles := OrderedSet.insertAll Assignment.compare claims.roles assignments }

/-- Adds the assignments that role claims state; a claim that states none is dropped. -/
def addRoleClaims (claims : Claims) (roleClaims : List String) : Claims :=
  claims.addRoles (roleClaims.filterMap fun claim => (Assignment.ofClaim claim).toOption)

/-- Adds a scope, unless it is there. -/
def addScope (claims : Claims) (scope : String) : Claims :=
  { claims with scopes := addScopeTo claims.scopes scope }

/-- Adds scopes, each unless it is there. -/
def addScopes (claims : Claims) (scopes : List String) : Claims :=
  { claims with scopes := scopes.foldl addScopeTo claims.scopes }

/-- Puts the given scopes in place of the present ones, without repetition. -/
def withScopes (claims : Claims) (scopes : List String) : Claims :=
  { claims with scopes := scopes.foldl addScopeTo [] }

def addAuthorities (claims : Claims) (authorities : List String) : Claims :=
  { claims with authorities := claims.authorities ++ authorities }

def addSources (claims : Claims) (sources : List String) : Claims :=
  { claims with sources := claims.sources ++ sources }

def addAudience (claims : Claims) (audience : List String) : Claims :=
  { claims with audience := claims.audience ++ audience }

/-- Claims of a refresh token: they name an access token. -/
def isRefresh (claims : Claims) : Bool :=
  claims.accessTokenId.isSome

/-- Claims of a machine client that acts without a person. -/
def isClientCredentials (claims : Claims) : Bool :=
  claims.grantType == some clientCredentials

/-- Claims that are no longer valid at an instant; claims without an expiry always are valid. -/
def isExpiredAt (claims : Claims) (now : Time.Instant) : Bool :=
  match claims.expiresAt with
  | some expiry => expiry.le now
  | none => false

/-- The role assignments, and after them the authorities that name a role, without referent. -/
def assignments (claims : Claims) : List Assignment :=
  claims.roles ++ (claims.authorities.filterMap Role.ofName?).map Assignment.bare

/-- The roles that some assignment in a list names, in catalog order. -/
def rolesOf (assignments : List Assignment) : List Role :=
  Role.all.filter fun role => assignments.any fun assignment => assignment.role == role

/-- The roles of the global tier, whatever their referent. -/
def globalRoles (claims : Claims) : List Role :=
  (rolesOf claims.assignments).filter fun role => role.tier == .global

/-- The roles of a tier that are assigned with the given referent. -/
def rolesAt (claims : Claims) (tier : Tier) (referent : String) : List Role :=
  rolesOf (claims.roles.filter fun assignment =>
    assignment.role.tier == tier && assignment.referent == some referent)

def rolesInProject (claims : Claims) (project : String) : List Role :=
  claims.rolesAt .project project

def rolesInOrganization (claims : Claims) (organization : String) : List Role :=
  claims.rolesAt .organization organization

end Claims
end TokenAuthority
