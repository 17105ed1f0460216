import TokenAuthority.Config.Settings
import TokenAuthority.Keys.Jwk
import TokenAuthority.Keys.Store

/-!
# Keyrings

The key pairs in use: one that signs, and others that only check, so that tokens of a key that no longer
signs stay valid until they expire. Every key of the ring verifies, the signing one first. Access tokens
are verified for an audience, refresh tokens for none.
-/

namespace TokenAuthority

/-- A key pair under the name by which tokens refer to it. -/
structure NamedKey where
  name : String
  pair : KeyPair
deriving DecidableEq

/-- How tokens are verified with one key. -/
structure Verifier where
  name : String
  key : VerifyingKey
  /-- The audience that a token may not leave out of the one it states. -/
  audience : Option String
  /-- For how many seconds after its expiry a token is still accepted. -/
  leeway : UInt64
deriving DecidableEq, Repr

/-- The key pairs in use, and how tokens are verified with them. -/
structure Keyring where
  signing : NamedKey
  checking : List NamedKey := []
  audience : String
  leeway : UInt64
deriving DecidableEq

namespace Keyring

/-- All key pairs, the signing one first. -/
def keys (ring : Keyring) : List NamedKey :=
  ring.signing :: ring.checking

/-- The names of the key pairs that only check. -/
def checkingNames (ring : Keyring) : List String :=
  ring.checking.map NamedKey.name

/-- How tokens for an audience, or for any, are verified with each key. -/
def verifiersFor (ring : Keyring) (audience : Option String) : List Verifier :=
  ring.keys.map fun key =>
    { name := key.name, key := key.pair.verifying, audience, leeway := ring.leeway }

/-- How access tokens are verified. -/
def accessVerifiers (ring : Keyring) : List Verifier :=
  ring.verifiersFor (some ring.audience)

/-- How refresh tokens are verified. -/
def refreshVerifiers (ring : Keyring) : List Verifier :=
  ring.verifiersFor none

/-- The public keys, for those who verify tokens elsewhere. -/
def published (ring : Keyring) : JwkSet :=
  ⟨ring.keys.map fun key => Jwk.ofKey key.name key.pair.verifying⟩

/-- Loads the key pair with a name, for checking. There is none when the store has no such name. -/
def loadChecking (lookup : PairLookup) (name : String) : Except KeyError (Option NamedKey) :=
  match lookup name with
  | .error (.nameNotFound _) => .ok none
  | .error error => .error (.store error)
  | .ok encoded => (KeyPair.ofEncoded name encoded).map fun pair => some ⟨name, pair⟩

/-- Adds the key pairs with the given names, in order, to those that are loaded. A name that is loaded,
or that the store does not have, is passed over. -/
def loadAll (lookup : PairLookup) (loaded : List NamedKey) :
    List String → Except KeyError (List NamedKey)
  | [] => .ok loaded
  | name :: names =>
    if loaded.any fun key => key.name == name then loadAll lookup loaded names
    else
      match loadChecking lookup name with
      | .error error => .error error
      | .ok none => loadAll lookup loaded names
      | .ok (some key) => loadAll lookup (loaded ++ [key]) names

/-- Loads the signing key pair. -/
def loadSigning (lookup : PairLookup) (name : String) : Except KeyError NamedKey :=
  match lookup name with
  | .error error => .error (.signingKeyMissing name error)
  | .ok encoded => (KeyPair.ofEncoded name encoded).map fun pair => ⟨name, pair⟩

/-- Loads the ring from the first location that opens. -/
def loadWith (opener : StoreOpener) (settings : Config.KeystoreSettings) (audience : String)
    (leeway : UInt64) : Except KeyError Keyring :=
  match opener.first? settings.password settings.locations with
  | none => .error (.storeUnavailable settings.locations)
  | some lookup => do
    let signing ← loadSigning lookup settings.signingAlias
    let loaded ← loadAll lookup [signing] settings.checkingAliases
    return { signing, checking := loaded.drop 1, audience, leeway }

/-- Loads the ring from the first location that opens as a directory. -/
def load (files : Files.Tree) (settings : Config.KeystoreSettings) (audience : String)
    (leeway : UInt64) : Except KeyError Keyring :=
  loadWith (KeyStore.opener files) settings audience leeway

end Keyring
end TokenAuthority
