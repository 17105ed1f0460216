import TokenAuthority.Token.Grant

/-!
# The authority

The service as a value: the keys in use, the token settings it was started with, the approvals and the
audit events so far. Granting and refreshing give tokens and record one event, or fail and change
nothing. New keys are put in place only when all of them are loaded, so a failing reload changes nothing
either; it never changes the token settings.
-/

namespace TokenAuthority

/-- The state of the service. -/
structure Authority where
  keyring : Keyring
  settings : Config.TokenSettings
  approvals : Approvals := {}
  sink : Audit.Sink := .memory []

namespace Authority

def start (files : Files.Tree) (keystore : Config.KeystoreSettings) (settings : Config.TokenSettings)
    (sink : Audit.Sink) : Except KeyError Authority :=
  (Keyring.load files keystore settings.resource settings.leeway).map fun keyring =>
    { keyring, settings, sink }

/-- Puts other keys in place. -/
def replace (authority : Authority) (keyring : Keyring) : Authority :=
  { authority with keyring }

/-- Loads keys anew, and puts them in place if that succeeds. -/
def reload (authority : Authority) (files : Files.Tree) (keystore : Config.KeystoreSettings)
    (settings : Config.TokenSettings) : Except KeyError Authority :=
  (Keyring.load files keystore settings.resource settings.leeway).map authority.replace

/-- Grants tokens, and records that. -/
def grant (authority : Authority) (now : Time.Instant) (ids : FreshIds) (request : GrantRequest)
    (profile : Option Profile) : Except TokenError (GrantedTokens × Authority) :=
  match authority.keyring.grant authority.settings now ids request profile with
  | .error error => .error error
  | .ok (granted, access) =>
    let event := Audit.Event.ofGrant now ids.event granted access
    .ok (granted, { authority with sink := authority.sink.offer event })

/-- Grants tokens for a refresh token of the same person, and records that. -/
def refresh (authority : Authority) (now : Time.Instant) (ids : FreshIds) (token : String)
    (profile : Profile) : Except TokenError (GrantedTokens × Authority) :=
  match authority.keyring.readRefresh now authority.approvals token with
  | .error error => .error error
  | .ok previous =>
    if previous.subject = some profile.subject then
      authority.grant now ids (GrantRequest.ofRefresh previous) (some profile)
    else .error (.invalidGrant .issuedToAnother)

end Authority
end TokenAuthority
