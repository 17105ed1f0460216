import TokenAuthority.Config.Layer
import TokenAuthority.Text.Blank

/-!
# Resolved settings

The configuration as the program uses it: every setting of a layer that is missing has its default, and
the whole has been checked. The key store is checked before the tokens.
-/

namespace TokenAuthority
namespace Config

/-- Where the keys are and which of them are used. -/
structure KeystoreSettings where
  locations : List String
  password : Secret
  signingAlias : String
  checkingAliases : List String
deriving DecidableEq, Inhabited

/-- What tokens say and for how long. -/
structure TokenSettings where
  issuer : String := "radar-auth"
  resource : String := "res_ManagementPortal"
  accessValidity : UInt64 := 900
  refreshValidity : UInt64 := 86400
  leeway : UInt64 := 60
deriving DecidableEq, Inhabited

/-- What is logged. -/
structure LoggingSettings where
  level : String := "info"
deriving DecidableEq, Inhabited

/-- The configuration. -/
structure Settings where
  keystore : KeystoreSettings
  token : TokenSettings
  logging : LoggingSettings
deriving DecidableEq, Inhabited

/-- Where a store is looked for by default. -/
def defaultLocations : List String := ["config/keystore", "/etc/radar/keystore"]

/-- The alias that signs by default. -/
def defaultSigningAlias : String := "selfsigned"

/-- The key store settings of a layer. The password must not be empty, the signing alias not blank, and
there must be a location. Checking aliases are trimmed, and blank ones dropped. -/
def KeystoreLayer.resolve (layer : KeystoreLayer) : Except ConfigError KeystoreSettings :=
  match layer.password with
  | none => .error (.invalid .passwordMissing)
  | some password =>
    if password.expose.isEmpty then .error (.invalid .passwordMissing)
    else
      let signingAlias := layer.signingAlias.getD defaultSigningAlias
      if Text.isAllBlank signingAlias then .error (.invalid .signingAliasBlank)
      else
        let locations := layer.locations.getD defaultLocations
        if locations.isEmpty then .error (.invalid .locationsMissing)
        else
          .ok {
            locations
            password
            signingAlias
            checkingAliases :=
              ((layer.checkingAliases.getD []).map Text.trim).filter fun name => !name.isEmpty }

/-- What is wrong with token settings, if anything is. -/
def TokenSettings.fault? (settings : TokenSettings) : Option Fault :=
  if settings.resource.isEmpty then some .resourceMissing
  else if settings.accessValidity = 0 ∨ settings.refreshValidity = 0 then some .validityZero
  else if settings.refreshValidity < settings.accessValidity then
    some (.refreshShorterThanAccess settings.refreshValidity settings.accessValidity)
  else none

/-- The token settings of a layer. There must be a resource, validities must not be zero, and refresh
tokens must be valid for at least as long as access tokens. -/
def TokenLayer.resolve (layer : TokenLayer) : Except ConfigError TokenSettings :=
  let usual : TokenSettings := {}
  let settings : TokenSettings :=
    { issuer := layer.issuer.getD usual.issuer
      resource := layer.resource.getD usual.resource
      accessValidity := layer.accessValidity.getD usual.accessValidity
      refreshValidity := layer.refreshValidity.getD usual.refreshValidity
      leeway := layer.leeway.getD usual.leeway }
  match settings.fault? with
  | some fault => .error (.invalid fault)
  | none => .ok settings

/-- The log settings of a layer. -/
def LoggingLayer.resolve (layer : LoggingLayer) : LoggingSettings :=
  let usual : LoggingSettings := {}
  { level := layer.level.getD usual.level }

/-- The settings of a layer. -/
def Layer.resolve (layer : Layer) : Except ConfigError Settings := do
  let keystore ← (layer.keystore.getD {}).resolve
  let token ← (layer.token.getD {}).resolve
  return { keystore, token, logging := (layer.logging.getD {}).resolve }

end Config
end TokenAuthority
