import TokenAuthority.Config.Error
import TokenAuthority.Config.Secret
import TokenAuthority.Toml.Document

/-!
# Configuration layers

What one source says about the configuration. Every setting may be missing, and so may every section.
Laying one layer over another takes each setting from the upper layer where it has one, and from the
lower layer otherwise.
-/

namespace TokenAuthority
namespace Config

/-- The settings of the key store. -/
structure KeystoreLayer where
  /-- Where to look for the store, in order. -/
  locations : Option (List String) := none
  password : Option Secret := none
  signingAlias : Option String := none
  /-- The keys that verify but do not sign. -/
  checkingAliases : Option (List String) := none
deriving DecidableEq, Inhabited

/-- The settings of tokens. -/
structure TokenLayer where
  issuer : Option String := none
  /-- The audience of access tokens. -/
  resource : Option String := none
  accessValidity : Option UInt64 := none
  refreshValidity : Option UInt64 := none
  leeway : Option UInt64 := none
deriving DecidableEq, Inhabited

/-- The settings of the log. -/
structure LoggingLayer where
  level : Option String := none
deriving DecidableEq, Inhabited

/-- What one source says about the configuration. -/
structure Layer where
  keystore : Option KeystoreLayer := none
  token : Option TokenLayer := none
  logging : Option LoggingLayer := none
deriving DecidableEq, Inhabited

/-- Lays key store settings over others. -/
def KeystoreLayer.over (upper lower : KeystoreLayer) : KeystoreLayer :=
  { locations := upper.locations <|> lower.locations
    password := upper.password <|> lower.password
    signingAlias := upper.signingAlias <|> lower.signingAlias
    checkingAliases := upper.checkingAliases <|> lower.checkingAliases }

/-- Lays token settings over others. -/
def TokenLayer.over (upper lower : TokenLayer) : TokenLayer :=
  { issuer := upper.issuer <|> lower.issuer
    resource := upper.resource <|> lower.resource
    accessValidity := upper.accessValidity <|> lower.accessValidity
    refreshValidity := upper.refreshValidity <|> lower.refreshValidity
    leeway := upper.leeway <|> lower.leeway }

/-- Lays log settings over others. -/
def LoggingLayer.over (upper lower : LoggingLayer) : LoggingLayer :=
  { level := upper.level <|> lower.level }

/-- Lays a section over another, either of which may be missing. -/
def sectionOver {α : Type} (lay : α → α → α) : (upper lower : Option α) → Option α
  | some upper, some lower => some (lay upper lower)
  | some upper, none => some upper
  | none, lower => lower

/-- Lays a layer over another. -/
def Layer.over (upper lower : Layer) : Layer :=
  { keystore := sectionOver KeystoreLayer.over upper.keystore lower.keystore
    token := sectionOver TokenLayer.over upper.token lower.token
    logging := sectionOver LoggingLayer.over upper.logging lower.logging }

/-! ## Documents -/

def KeystoreLayer.fields : List Json.Field :=
  [⟨"locations", false⟩, ⟨"password", false⟩, ⟨"signing_key_alias", false⟩,
    ⟨"checking_key_aliases", false⟩]

def KeystoreLayer.ofJson? (document : Json) : Option KeystoreLayer := do
  let [locations, password, signingAlias, checkingAliases] ← document.fields? fields | none
  return {
    locations := ← Json.optional? Json.asStrings? locations
    password := ← Json.optional? Secret.ofJson? password
    signingAlias := ← Json.optional? Json.asString? signingAlias
    checkingAliases := ← Json.optional? Json.asStrings? checkingAliases }

/-- The document of the key store section, without the password. -/
def KeystoreLayer.toJson (layer : KeystoreLayer) : Json :=
  let listOrNull := fun (values : Option (List String)) => (values.map Json.strings).getD .null
  .object [("locations", listOrNull layer.locations),
    ("signing_key_alias", Json.stringOrNull layer.signingAlias),
    ("checking_key_aliases", listOrNull layer.checkingAliases)]

def TokenLayer.fields : List Json.Field :=
  [⟨"issuer", false⟩, ⟨"resource_id", false⟩, ⟨"access_token_validity_secs", false⟩,
    ⟨"refresh_token_validity_secs", false⟩, ⟨"leeway_secs", false⟩]

def TokenLayer.ofJson? (document : Json) : Option TokenLayer := do
  let [issuer, resource, accessValidity, refreshValidity, leeway] ← document.fields? fields | none
  return {
    issuer := ← Json.optional? Json.asString? issuer
    resource := ← Json.optional? Json.asString? resource
    accessValidity := ← Json.optional? Json.asUInt64? accessValidity
    refreshValidity := ← Json.optional? Json.asUInt64? refreshValidity
    leeway := ← Json.optional? Json.asUInt64? leeway }

def LoggingLayer.fields : List Json.Field :=
  [⟨"level", false⟩]

def LoggingLayer.ofJson? (document : Json) : Option LoggingLayer := do
  let [level] ← document.fields? fields | none
  return { level := ← Json.optional? Json.asString? level }

def Layer.fields : List Json.Field :=
  [⟨"keystore", true⟩, ⟨"token", true⟩, ⟨"logging", true⟩]

def Layer.ofJson? (document : Json) : Option Layer := do
  let [keystore, token, logging] ← document.fields? fields | none
  return {
    keystore := ← Json.optional? KeystoreLayer.ofJson? keystore
    token := ← Json.optional? TokenLayer.ofJson? token
    logging := ← Json.optional? LoggingLayer.ofJson? logging }

/-- A section given as an array, cut to its fields. -/
def cutSection (fields : List Json.Field) : Json → Json
  | .array items => .array (items.take fields.length)
  | document => document

/-- The layer that the text of a file states. A section may be an array of its settings in order, and
what follows the last one is ignored. -/
def Layer.ofToml? (text : String) : Option Layer := do
  let document ← Toml.ofText? text
  let [keystore, token, logging] ← document.fields? fields | none
  return {
    keystore := ← Json.optional?
      (fun document => KeystoreLayer.ofJson? (cutSection KeystoreLayer.fields document)) keystore
    token := ← Json.optional?
      (fun document => TokenLayer.ofJson? (cutSection TokenLayer.fields document)) token
    logging := ← Json.optional?
      (fun document => LoggingLayer.ofJson? (cutSection LoggingLayer.fields document)) logging }

end Config
end TokenAuthority
