import TokenAuthority.Json.Record
import TokenAuthority.Json.Writer
import TokenAuthority.Keys.Keyring

/-!
# Token headers

The header of a token names the algorithm of its signature and the key. Nothing but the algorithm is
used of a header that is read, but all of its members have to be well formed: a header may hold a whole
key, which is checked for its form and then ignored.
-/

namespace TokenAuthority

/-- What is used of the header of a token: the name of the algorithm. -/
structure TokenHeader where
  algorithm : String
deriving DecidableEq, Repr

namespace TokenHeader

def algorithms : List String :=
  ["HS256", "HS384", "HS512", "ES256", "ES384", "RS256", "RS384", "RS512", "PS256", "PS384", "PS512",
    "EdDSA"]

def keyAlgorithms : List String :=
  algorithms ++ ["RSA1_5", "RSA-OAEP", "RSA-OAEP-256"]

/-- One of the given choices without content. -/
def choiceAmong? (choices : List String) (document : Json) : Option String := do
  let name ← document.asChoice?
  if choices.contains name then some name else none

/-- The members that every key in a header may have. -/
def sharedFields : List Json.Field :=
  [⟨"use", true⟩, ⟨"key_ops", true⟩, ⟨"alg", true⟩, ⟨"kid", true⟩, ⟨"x5u", true⟩, ⟨"x5c", true⟩,
    ⟨"x5t", true⟩, ⟨"x5t#S256", true⟩]

/-- The kinds of keys in a header: the name of the kind, the curves it has, and the names of its parts,
which are strings. -/
def keyKinds : List (String × List String × List String) :=
  [("EC", ["P-256", "P-384", "P-521", "Ed25519"], ["x", "y"]), ("RSA", [], ["n", "e"]), ("oct", [], ["k"]),
    ("OKP", ["P-256", "P-384", "P-521", "Ed25519"], ["x"])]

/-- A document has the parts of a kind of keys. -/
def hasKind (document : Json) (kind : String × List String × List String) : Bool :=
  let (name, curves, parts) := kind
  let state := document.fields? ([⟨"kty", false⟩, ⟨"crv", false⟩] ++ parts.map fun part => ⟨part, false⟩)
  match state with
  | some (some keyType :: curve :: values) =>
    choiceAmong? [name] keyType == some name &&
      (curves.isEmpty || (curve.bind (choiceAmong? curves)).isSome) &&
      values.all fun value => (value.bind Json.asString?).isSome
  | _ => false

/-- A document is a well-formed key. -/
def isKey (document : Json) : Bool :=
  match document with
  | .object _ =>
    let shared := do
      let [usage, operations, algorithm, keyId, url, chain, thumbprint, thumbprint256] ←
        document.fields? sharedFields | none
      let _ ← Json.optional? Json.asString? usage
      let _ ← Json.optional? Json.asStrings? operations
      let _ ← Json.optional? (choiceAmong? keyAlgorithms) algorithm
      let _ ← [keyId, url, thumbprint, thumbprint256].mapM (Json.optional? Json.asString?)
      Json.optional? Json.asStrings? chain
    shared.isSome && document.isReadable && keyKinds.any (hasKind document)
  | _ => false

def fields : List Json.Field :=
  [⟨"typ", false⟩, ⟨"alg", false⟩, ⟨"cty", false⟩, ⟨"jku", false⟩, ⟨"jwk", false⟩, ⟨"kid", false⟩,
    ⟨"x5u", false⟩, ⟨"x5c", false⟩, ⟨"x5t", false⟩, ⟨"x5t#S256", false⟩]

def ofJson? (document : Json) : Option TokenHeader := do
  let [type, algorithm, contentType, keySet, key, keyId, url, chain, thumbprint, thumbprint256] ←
    document.fields? fields | none
  let algorithm ← Json.required? (choiceAmong? algorithms) algorithm
  let _ ← [type, contentType, keySet, keyId, url, thumbprint, thumbprint256].mapM
    (Json.optional? Json.asString?)
  let _ ← Json.optional? (fun key => if isKey key then some () else none) key
  let _ ← Json.optional? Json.asStrings? chain
  return ⟨algorithm⟩

end TokenHeader

/-- The document of the header of the tokens that a key signs. -/
def NamedKey.header (key : NamedKey) : Json :=
  .object [("typ", .string "JWT"), ("alg", .string key.pair.algorithm.name), ("kid", .string key.name)]

/-- The text of the header of the tokens that a key signs. -/
def NamedKey.headerText (key : NamedKey) : String :=
  key.header.compact

end TokenAuthority
