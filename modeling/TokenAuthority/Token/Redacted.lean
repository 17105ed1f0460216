import TokenAuthority.Config.Secret
import TokenAuthority.Token.Grant

/-!
# Redacted tokens

Whoever holds the text of a token can use it. Claims and grants are therefore shown to people, in logs
and reports, only in a redacted form, in which a placeholder stands for each text of a token. Everything
else is kept, so a redacted value still tells what was granted to whom.
-/

namespace TokenAuthority

/-- Claims without the text of the token they were taken from. -/
def Claims.redacted (claims : Claims) : Claims :=
  { claims with token := claims.token.map fun _ => Config.Secret.placeholder }

/-- A grant without the texts of its tokens. -/
def GrantedTokens.redacted (granted : GrantedTokens) : GrantedTokens :=
  { granted with
    accessToken := Config.Secret.placeholder
    refreshToken := granted.refreshToken.map fun _ => Config.Secret.placeholder }

end TokenAuthority
