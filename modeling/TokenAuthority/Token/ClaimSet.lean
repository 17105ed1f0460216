import TokenAuthority.Json.Record
import TokenAuthority.Text.Blank
import TokenAuthority.Token.Claims
import TokenAuthority.Token.Error

/-!
# Claim sets

The claims as they are signed: a JSON object of fourteen members in a fixed order, of which the optional
ones are left out when they have no value. Times are whole seconds, and roles are role claims.

Reading is more lenient than writing. Scopes may also be one string of words between blanks, the audience
may be one string, and both may be null.
-/

namespace TokenAuthority

/-- The claims as they are signed. -/
structure ClaimSet where
  subject : Option String := none
  username : Option String := none
  scopes : List String := []
  authorities : List String := []
  roles : List String := []
  sources : List String := []
  grantType : Option String := none
  audience : List String := []
  issuer : Option String := none
  issuedAt : Option Int := none
  expiry : Int
  tokenId : Option String := none
  /-- On refresh tokens only, the identifier of the access token. -/
  accessTokenId : Option String := none
  clientId : Option String := none
deriving DecidableEq, Repr, Inhabited

namespace ClaimSet

/-- The members of a claim set, in the order in which they are written. All but the expiry may be left
out. -/
def fields : List Json.Field :=
  [⟨"sub", true⟩, ⟨"user_name", true⟩, ⟨"scope", true⟩, ⟨"authorities", true⟩, ⟨"roles", true⟩,
    ⟨"sources", true⟩, ⟨"grant_type", true⟩, ⟨"aud", true⟩, ⟨"iss", true⟩, ⟨"iat", true⟩,
    ⟨"exp", false⟩, ⟨"jti", true⟩, ⟨"ati", true⟩, ⟨"client_id", true⟩]

/-- Scopes: an array of strings, a string of words, or null for none. -/
def scopesOf? : Json → Option (List String)
  | .string value => some (Text.words value)
  | .null => some []
  | document => document.asStrings?

/-- An audience: an array of strings, one string, or null for none. -/
def audienceOf? : Json → Option (List String)
  | .string value => some [value]
  | .null => some []
  | document => document.asStrings?

def ofJson? (document : Json) : Option ClaimSet := do
  let [subject, username, scopes, authorities, roles, sources, grantType, audience, issuer, issuedAt,
    expiry, tokenId, accessTokenId, clientId] ← document.fields? fields | none
  return {
    subject := ← Json.optional? Json.asString? subject
    username := ← Json.optional? Json.asString? username
    scopes := ← Json.withDefault? [] scopesOf? scopes
    authorities := ← Json.withDefault? [] Json.asStrings? authorities
    roles := ← Json.withDefault? [] Json.asStrings? roles
    sources := ← Json.withDefault? [] Json.asStrings? sources
    grantType := ← Json.optional? Json.asString? grantType
    audience := ← Json.withDefault? [] audienceOf? audience
    issuer := ← Json.optional? Json.asString? issuer
    issuedAt := ← Json.optional? Json.asInt64? issuedAt
    expiry := ← Json.required? Json.asInt64? expiry
    tokenId := ← Json.optional? Json.asString? tokenId
    accessTokenId := ← Json.optional? Json.asString? accessTokenId
    clientId := ← Json.optional? Json.asString? clientId }

def toJson (claimSet : ClaimSet) : Json :=
  .object
    (Json.member? "sub" (claimSet.subject.map .string) ++
      Json.member? "user_name" (claimSet.username.map .string) ++
      [("scope", Json.strings claimSet.scopes), ("authorities", Json.strings claimSet.authorities),
        ("roles", Json.strings claimSet.roles), ("sources", Json.strings claimSet.sources)] ++
      Json.member? "grant_type" (claimSet.grantType.map .string) ++
      [("aud", Json.strings claimSet.audience)] ++
      Json.member? "iss" (claimSet.issuer.map .string) ++
      Json.member? "iat" (claimSet.issuedAt.map .integer) ++
      [("exp", .integer claimSet.expiry)] ++
      Json.member? "jti" (claimSet.tokenId.map .string) ++
      Json.member? "ati" (claimSet.accessTokenId.map .string) ++
      Json.member? "client_id" (claimSet.clientId.map .string))

/-- The claim set of claims, which need an expiry. Times lose their fraction of a second. -/
def ofClaims (claims : Claims) : Except TokenError ClaimSet :=
  match claims.expiresAt with
  | none => .error .missingExpiry
  | some expiry =>
    .ok {
      subject := claims.subject
      username := claims.username
      scopes := claims.scopes
      authorities := claims.authorities
      roles := claims.roles.map Assignment.claim
      sources := claims.sources
      grantType := claims.grantType
      audience := claims.audience
      issuer := claims.issuer
      issuedAt := claims.issuedAt.map Time.Instant.seconds
      expiry := expiry.seconds
      tokenId := claims.tokenId
      accessTokenId := claims.accessTokenId
      clientId := claims.clientId }

/-- The type recorded on claims that were taken from a token. -/
def tokenType : String := "jwt"

def instantOf (claim : TimeClaim) (seconds : Int) : Except TokenError Time.Instant :=
  match Time.Instant.ofSeconds? seconds with
  | some instant => .ok instant
  | none => .error (.timeOutOfRange claim seconds)

def optionalInstantOf (claim : TimeClaim) : Option Int → Except TokenError (Option Time.Instant)
  | none => .ok none
  | some seconds => (instantOf claim seconds).map some

/-- The claims that a claim set states, with the text of the token it came from. Role claims that state
no assignment are dropped, and a repeated scope counts once. -/
def toClaims (claimSet : ClaimSet) (token : String) : Except TokenError Claims := do
  let expiry ← instantOf .expiry claimSet.expiry
  let issuedAt ← optionalInstantOf .issuedAt claimSet.issuedAt
  let claims : Claims :=
    { subject := claimSet.subject
      username := claimSet.username
      authorities := claimSet.authorities
      sources := claimSet.sources
      grantType := claimSet.grantType
      audience := claimSet.audience
      issuer := claimSet.issuer
      issuedAt
      expiresAt := some expiry
      token := some token
      tokenType := some tokenType
      clientId := claimSet.clientId
      tokenId := claimSet.tokenId
      accessTokenId := claimSet.accessTokenId }
  return (claims.addRoleClaims claimSet.roles).addScopes claimSet.scopes

end ClaimSet
end TokenAuthority
