import TokenAuthority.Audit.Sink
import TokenAuthority.Token.Profile
import TokenAuthority.Token.Verification

/-!
# Granting tokens

A grant turns a request into an access token and, for a person, a refresh token. A person's scopes are
narrowed to what the roles of the person can use. A machine client has no person, keeps every scope of
the catalog, and gets no refresh token. A refresh turns a refresh token into new tokens for the person's
present roles and the scopes it carries, so a scope that is dropped once does not come back.
-/

namespace TokenAuthority

/-- What a client asks for. -/
structure GrantRequest where
  clientId : String
  grantType : String
  scopes : List String := []
deriving DecidableEq, Repr

namespace GrantRequest

def refreshType : String := "refresh_token"

def isClientCredentials (request : GrantRequest) : Bool :=
  request.grantType == Claims.clientCredentials

end GrantRequest

/-- New identifiers for one grant. -/
structure FreshIds where
  access : Uuid
  refresh : Uuid
  event : Uuid
deriving DecidableEq, Repr, Inhabited

/-- What a client gets. -/
structure GrantedTokens where
  accessToken : String
  refreshToken : Option String
  expiresIn : Int
  expiresAt : Time.Instant
  scopes : List String
  tokenId : String
deriving DecidableEq

namespace GrantedTokens

/-- The type of every token. -/
def tokenType : String := "bearer"

def toJson (granted : GrantedTokens) : Json :=
  .object
    ([("access_token", .string granted.accessToken)] ++
      Json.member? "refresh_token" (granted.refreshToken.map .string) ++
      [("token_type", .string tokenType), ("expires_in", .integer granted.expiresIn),
        ("scope", Json.strings granted.scopes), ("jti", .string granted.tokenId)])

end GrantedTokens

/-- The instant at which a token expires that is valid for so many seconds from now. -/
def expiryAfter (now : Time.Instant) (validity : UInt64) : Except TokenError Time.Instant :=
  match now.addSeconds? validity.toNat with
  | some expiry => .ok expiry
  | none => .error (.validityOutOfRange validity)

namespace GrantRequest

/-- A machine client asks for itself, everyone else for a person. -/
def refusal? (request : GrantRequest) (profile : Option Profile) : Option GrantRefusal :=
  match request.isClientCredentials, profile with
  | false, none => some (.subjectRequired request.grantType)
  | true, some _ => some .subjectForbidden
  | _, _ => none

/-- The claims that are asked for, before they are narrowed. -/
def requestedClaims (request : GrantRequest) (settings : Config.TokenSettings) (issuedAt expiry : Time.Instant)
    (tokenId : String) : Claims :=
  { scopes := request.scopes.foldl addScopeTo []
    grantType := some request.grantType
    audience := [settings.resource]
    issuer := some settings.issuer
    issuedAt := some issuedAt
    expiresAt := some expiry
    clientId := some request.clientId
    tokenId := some tokenId }

/-- A scope of the catalog. -/
def isCatalogScope (scope : String) : Bool :=
  (Permission.ofScope scope).toBool

/-- The claims of the access token: those of a person are enhanced by the profile, and those of a
machine client keep the scopes of the catalog. -/
def accessClaims (request : GrantRequest) (requested : Claims) : Option Profile → Claims
  | some profile => requested.enhance profile
  | none => requested.withScopes (request.scopes.filter isCatalogScope)

/-- The claims of the refresh token that goes with an access token. -/
def refreshClaims (access : Claims) (tokenId accessTokenId : String) (expiry : Time.Instant) : Claims :=
  { access with
    tokenId := some tokenId, accessTokenId := some accessTokenId, expiresAt := some expiry }

end GrantRequest

namespace Keyring

/-- The refresh token that goes with an access token. -/
def refreshToken (ring : Keyring) (settings : Config.TokenSettings) (now : Time.Instant) (ids : FreshIds)
    (access : Claims) : Except TokenError String := do
  let expiry ← expiryAfter now settings.refreshValidity
  ring.encode (GrantRequest.refreshClaims access ids.refresh.text ids.access.text expiry)

/-- The tokens for a request, and the claims of the access token. -/
def grant (ring : Keyring) (settings : Config.TokenSettings) (now : Time.Instant) (ids : FreshIds)
    (request : GrantRequest) (profile : Option Profile) : Except TokenError (GrantedTokens × Claims) :=
  match request.refusal? profile with
  | some refusal => .error (.invalidGrant refusal)
  | none => do
    let issuedAt := now.truncate
    let expiry ← expiryAfter issuedAt settings.accessValidity
    let requested := request.requestedClaims settings issuedAt expiry ids.access.text
    let access := request.accessClaims requested profile
    let accessToken ← ring.encode access
    let refreshToken ←
      if request.isClientCredentials then pure none
      else (ring.refreshToken settings issuedAt ids access).map some
    return ({
      accessToken
      refreshToken
      expiresIn := expiry.seconds - issuedAt.seconds
      expiresAt := expiry
      scopes := access.scopes
      tokenId := ids.access.text }, access)

end Keyring

namespace GrantRequest

/-- What a refresh asks for: the scopes of the refresh token, for its client. -/
def ofRefresh (previous : Claims) : GrantRequest :=
  { clientId := previous.clientId.getD "", grantType := refreshType, scopes := previous.scopes }

end GrantRequest

/-- The audit event of a grant. -/
def Audit.Event.ofGrant (now : Time.Instant) (id : Uuid) (granted : GrantedTokens) (access : Claims) :
    Audit.Event :=
  { id
    timestamp := now
    action := Audit.Event.grantAction
    principal := access.username
    tokenType := GrantedTokens.tokenType
    scope := granted.scopes
    expiresAt := granted.expiresAt
    clientId := access.clientId
    grantType := access.grantType }

end TokenAuthority
