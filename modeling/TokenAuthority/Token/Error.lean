/-!
# Why a token is refused

The causes for which a presented token is refused or a grant fails, each with the sentence that reports
it and the status of an HTTP answer to it.
-/

namespace TokenAuthority

/-- Why a text is not a token at all. -/
inductive Malformation where
  /-- It has not exactly three parts between points. -/
  | segments
  /-- The middle part is not base64url. -/
  | payloadEncoding
  /-- The middle part is not the text of a JSON object. -/
  | payloadShape
  /-- A part is not base64url. -/
  | encoding
  /-- A part is JSON of another shape. -/
  | json
  /-- There is no usable expiry. -/
  | missingExpiry
deriving DecidableEq, Repr

namespace Malformation

def message : Malformation → String
  | segments => "expected three segments"
  | payloadEncoding => "payload is not base64url"
  | payloadShape => "payload is not a JSON object"
  | encoding => "Base64 error"
  | json => "JSON error"
  | missingExpiry => "Missing required claim: exp"

end Malformation

/-- The claims that hold a time. -/
inductive TimeClaim where
  | issuedAt
  | expiry
deriving DecidableEq, Repr

def TimeClaim.name : TimeClaim → String
  | issuedAt => "iat"
  | expiry => "exp"

/-- Why tokens are not granted. -/
inductive GrantRefusal where
  | subjectRequired (grantType : String)
  | subjectForbidden
  | issuedToAnother
deriving DecidableEq, Repr

def GrantRefusal.message : GrantRefusal → String
  | subjectRequired grantType => "grant type " ++ grantType ++ " requires a subject"
  | subjectForbidden => "client credentials grants carry no subject"
  | issuedToAnother => "refresh token was issued to another subject"

/-- Why a token is refused or a grant fails. -/
inductive TokenError where
  | malformed (cause : Malformation)
  | signatureRejected
  | audienceRejected
  | expired
  | approvalRevoked (clientId : String)
  | notRefreshToken
  | refreshTokenPresented
  /-- A time claim lies outside the representable instants. -/
  | timeOutOfRange (claim : TimeClaim) (seconds : Int)
  /-- A token of this validity would expire outside the representable instants. -/
  | validityOutOfRange (seconds : UInt64)
  | missingExpiry
  | invalidGrant (cause : GrantRefusal)
  /-- The signing key gives no signature. -/
  | signingFailed
  /-- The clock cannot be put back by the leeway, which lies beyond it. This is no answer: the program
  breaks off. -/
  | overflow
deriving DecidableEq, Repr

namespace TokenError

def message : TokenError → String
  | malformed cause => "malformed token: " ++ cause.message
  | signatureRejected => "token signature rejected by every verification key"
  | audienceRejected => "token audience rejected"
  | expired => "token expired"
  | approvalRevoked clientId => "approval revoked for client " ++ clientId
  | notRefreshToken => "not a refresh token"
  | refreshTokenPresented => "refresh token presented as an access token"
  | timeOutOfRange claim seconds =>
    "invalid claim " ++ claim.name ++ ": " ++ toString seconds ++ " is out of range"
  | validityOutOfRange seconds =>
    "invalid claim exp: validity of " ++ toString seconds.toNat ++ "s is out of range"
  | missingExpiry => "missing claim: exp"
  | invalidGrant cause => "invalid grant: " ++ cause.message
  | signingFailed => "token signing failed"
  | overflow => "attempt to subtract with overflow"

def status : TokenError → Nat
  | missingExpiry => 500
  | signingFailed => 500
  | overflow => 500
  | invalidGrant _ => 400
  | _ => 401

end TokenError
end TokenAuthority
