import TokenAuthority.Token.Approvals
import TokenAuthority.Token.ClaimSet
import TokenAuthority.Token.Signed

/-!
# Verifying tokens

A presented token is verified with one key after the other. A key that did not sign it is passed over; a
key that did decides, except that a token for another audience may still be taken by a later key. No
claim is used before a signature over it is verified, but for one: a payload that names an access token
is verified as that of a refresh token, for which no audience is required.
-/

namespace TokenAuthority

/-- The seconds of an instant on the clock by which tokens expire. -/
def Time.Instant.clock (instant : Time.Instant) : UInt64 :=
  UInt64.ofNat instant.seconds.toNat

/-- What a key makes of a token. -/
inductive Verdict where
  /-- The key did not sign the token. -/
  | otherKey
  /-- The key signed the token for another audience. -/
  | otherAudience
  | refused (error : TokenError)
  | accepted (claimSet : ClaimSet)
deriving DecidableEq, Repr

namespace Verifier

/-- The audience that a payload states, if it states any. -/
def statedAudience? (payload : Json) : Option (List String) :=
  match payload.get? "aud" with
  | some (.string name) => some [name]
  | some document => document.asStrings?
  | none => none

/-- A payload is for the audience that is required, if one is. A payload that states none is for any. -/
def isForAudience (verifier : Verifier) (payload : Json) : Bool :=
  match verifier.audience, statedAudience? payload with
  | some required, some stated => stated.contains required
  | _, _ => true

/-- A payload whose other time claim can be passed over: the payload is an object, and the claim, if it
is there, stands once and is read to its end by those who want a number. This goes for everything but filled
lists, objects with members, and what cannot be read as a whole. -/
def isRegular (payload : Json) : Bool :=
  match payload with
  | .object members =>
    match Json.onlyMember? members "nbf" with
    | none => false
    | some none => true
    | some (some (.array items)) => items.isEmpty
    | some (some (.object members)) => members.isEmpty
    | some (some (.unreadable kind)) => kind == .whole
    | some (some _) => true
  | _ => false

/-- The token has expired, with a leeway that is not beyond the clock. -/
def isExpired (verifier : Verifier) (now : UInt64) (expiry : Int) : Bool :=
  UInt64.ofNat expiry.toNat < now - verifier.leeway

/-- What a key makes of a payload that it signed. A clock that cannot be put back by the leeway breaks the
program off. -/
def judgePayload (verifier : Verifier) (now : UInt64) (payload : Json) : Verdict :=
  match ClaimSet.ofJson? payload with
  | none => .refused (.malformed .json)
  | some claimSet =>
    if !isRegular payload then .refused (.malformed .json)
    else if claimSet.expiry < 0 then .refused (.malformed .missingExpiry)
    else if now < verifier.leeway then .refused .overflow
    else if verifier.isExpired now claimSet.expiry then .refused .expired
    else if verifier.isForAudience payload then .accepted claimSet
    else .otherAudience

def judge (verifier : Verifier) (now : UInt64) (token : SignedToken) : Verdict :=
  match SignedToken.readPart token.header with
  | .error fault => .refused (.malformed fault)
  | .ok header =>
    match TokenHeader.ofJson? header with
    | none => .refused (.malformed .json)
    | some header =>
      if header.algorithm ≠ verifier.key.algorithm.name then .otherKey
      else
        match Base64.ofUrlText? token.signature with
        | none => .refused (.malformed .encoding)
        | some signature =>
          if verifier.key.verifies token.message signature then
            match SignedToken.readPart token.payload with
            | .error fault => .refused (.malformed fault)
            | .ok payload => verifier.judgePayload now payload
          else .otherKey

/-- The claim set of a token that one of the verifiers accepts. `otherAudience` tells that one before
them would have, but for the audience. -/
def verifyWith (now : UInt64) (token : SignedToken) (otherAudience : Bool) :
    List Verifier → Except TokenError ClaimSet
  | [] => .error (if otherAudience then .audienceRejected else .signatureRejected)
  | verifier :: verifiers =>
    match verifier.judge now token with
    | .otherKey => verifyWith now token otherAudience verifiers
    | .otherAudience => verifyWith now token true verifiers
    | .refused error => .error error
    | .accepted claimSet => .ok claimSet

end Verifier

namespace Keyring

/-- The token of claims, signed with the signing key. -/
def encode (ring : Keyring) (claims : Claims) : Except TokenError String :=
  match ClaimSet.ofClaims claims with
  | .error error => .error error
  | .ok claimSet =>
    match ring.signing.sign? claimSet.toJson with
    | some token => .ok token
    | none => .error .signingFailed

/-- How tokens are verified: refresh tokens for no audience, all others for the one of the ring. -/
def verifiers (ring : Keyring) (refresh : Bool) : List Verifier :=
  if refresh then ring.refreshVerifiers else ring.accessVerifiers

def decode (ring : Keyring) (now : Time.Instant) (text : String) : Except TokenError Claims :=
  match SignedToken.presentsAsRefresh text, SignedToken.ofText? text with
  | .error fault, _ => .error (.malformed fault)
  | .ok _, none => .error (.malformed .segments)
  | .ok refresh, some token =>
    match Verifier.verifyWith now.clock token false (ring.verifiers refresh) with
    | .error error => .error error
    | .ok claimSet => claimSet.toClaims text

def readAccess (ring : Keyring) (now : Time.Instant) (text : String) : Except TokenError Claims :=
  match ring.decode now text with
  | .error error => .error error
  | .ok claims => if claims.isRefresh then .error .refreshTokenPresented else .ok claims

/-- The user of the claims approves all of their scopes for their client. Claims without a user are
never approved. -/
def isApproved (approvals : Approvals) (claims : Claims) : Bool :=
  match claims.username with
  | some username => approvals.isApproved username (claims.clientId.getD "") claims.scopes
  | none => false

/-- The claims of a refresh token whose scopes are still approved. -/
def readRefresh (ring : Keyring) (now : Time.Instant) (approvals : Approvals) (text : String) :
    Except TokenError Claims :=
  match ring.decode now text with
  | .error error => .error error
  | .ok claims =>
    if !claims.isRefresh then .error .notRefreshToken
    else if isApproved approvals claims then .ok claims
    else .error (.approvalRevoked (claims.clientId.getD ""))

end Keyring
end TokenAuthority
