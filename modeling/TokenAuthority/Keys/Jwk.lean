import TokenAuthority.Bytes.Base64
import TokenAuthority.Json.Record
import TokenAuthority.Keys.KeyPair

/-!
# Published keys

Public keys as JSON documents, and sets of them. An RSA key has the modulus and the exponent, a curve
key the name of the curve and two coordinates, all in base64 for URLs. A reader of a set takes any key
that names its type, itself, its algorithm and its use.
-/

namespace TokenAuthority

/-- A published key. -/
structure Jwk where
  keyType : String
  keyId : String
  algorithm : String
  usage : String
  modulus : Option String := none
  exponent : Option String := none
  curve : Option String := none
  x : Option String := none
  y : Option String := none
deriving DecidableEq, Repr, Inhabited

namespace Jwk

/-- The published form of a key, under a name. -/
def ofKey (name : String) (key : VerifyingKey) : Jwk :=
  match key with
  | .rsa rsaKey =>
    { keyType := "RSA"
      keyId := name
      algorithm := key.algorithm.name
      usage := "sig"
      modulus := some (Base64.urlText (BigEndian.minimal rsaKey.modulus))
      exponent := some (Base64.urlText (BigEndian.minimal rsaKey.exponent)) }
  | .p256 point =>
    { keyType := "EC"
      keyId := name
      algorithm := key.algorithm.name
      usage := "sig"
      curve := some "P-256"
      x := some (Base64.urlText (BigEndian.fixed 32 point.x))
      y := some (Base64.urlText (BigEndian.fixed 32 point.y)) }

/-- The members of a published key, in the order in which they are written. -/
def fields : List Json.Field :=
  [⟨"kty", false⟩, ⟨"kid", false⟩, ⟨"alg", false⟩, ⟨"use", false⟩, ⟨"n", true⟩, ⟨"e", true⟩,
    ⟨"crv", true⟩, ⟨"x", true⟩, ⟨"y", true⟩]

def toJson (key : Jwk) : Json :=
  .object
    ([("kty", .string key.keyType), ("kid", .string key.keyId), ("alg", .string key.algorithm),
        ("use", .string key.usage)] ++
      Json.member? "n" (key.modulus.map .string) ++ Json.member? "e" (key.exponent.map .string) ++
      Json.member? "crv" (key.curve.map .string) ++ Json.member? "x" (key.x.map .string) ++
      Json.member? "y" (key.y.map .string))

def ofJson? (document : Json) : Option Jwk := do
  let [keyType, keyId, algorithm, usage, modulus, exponent, curve, x, y] ← document.fields? fields
    | none
  return {
    keyType := ← Json.required? Json.asString? keyType
    keyId := ← Json.required? Json.asString? keyId
    algorithm := ← Json.required? Json.asString? algorithm
    usage := ← Json.required? Json.asString? usage
    modulus := ← Json.optional? Json.asString? modulus
    exponent := ← Json.optional? Json.asString? exponent
    curve := ← Json.optional? Json.asString? curve
    x := ← Json.optional? Json.asString? x
    y := ← Json.optional? Json.asString? y }

end Jwk

/-- A set of published keys. -/
structure JwkSet where
  keys : List Jwk
deriving DecidableEq, Repr, Inhabited

namespace JwkSet

/-- The first key with a name. -/
def find? (set : JwkSet) (name : String) : Option Jwk :=
  set.keys.find? fun key => key.keyId == name

def toJson (set : JwkSet) : Json :=
  .object [("keys", .array (set.keys.map Jwk.toJson))]

def ofJson? (document : Json) : Option JwkSet := do
  match ← document.fields? [⟨"keys", false⟩] with
  | [some (.array keys)] => return ⟨← keys.mapM Jwk.ofJson?⟩
  | _ => none

end JwkSet
end TokenAuthority
