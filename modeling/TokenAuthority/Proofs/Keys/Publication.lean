import TokenAuthority.Proofs.Json.Records
import TokenAuthority.Proofs.Keys.Formation
import TokenAuthority.Proofs.Keys.Loading
import TokenAuthority.Proofs.Keys.Stores
import TokenAuthority.Proofs.Token.Signing

/-!
# Published keys, seen from outside

Those who verify tokens elsewhere have nothing but the text of the published keys.  They read the set that
was published, find each key under the name by which tokens refer to it, and compute from its parts the key
that the ring itself verifies with.

The parts are bytes in base64.  The coordinates of a point have 32 bytes each, with the zeros that they start
with; together they are the point of the public half, byte for byte.  The modulus and the exponent of an RSA
key are the numbers of the public half, and do not start with a zero.
-/

namespace TokenAuthority

namespace Jwk

/-! ## Reading what was published -/

/-- What is written for each member, in order. -/
def slots (key : Jwk) : List (String × Option Json) :=
  [("kty", some (.string key.keyType)), ("kid", some (.string key.keyId)),
    ("alg", some (.string key.algorithm)), ("use", some (.string key.usage)),
    ("n", key.modulus.map .string), ("e", key.exponent.map .string), ("crv", key.curve.map .string),
    ("x", key.x.map .string), ("y", key.y.map .string)]

theorem toJson_eq_sparse (key : Jwk) : key.toJson = .object (Json.sparse key.slots) := by
  simp only [toJson, slots, Json.sparse, List.flatMap_cons, List.flatMap_nil, Json.member?,
    List.append_assoc, List.append_nil, List.cons_append, List.nil_append]

theorem fields?_toJson (key : Jwk) : key.toJson.fields? fields = some (key.slots.map Prod.snd) := by
  have names : key.slots.map Prod.fst = fields.map Json.Field.name := rfl
  have distinct : (key.slots.map Prod.fst).Nodup := by
    rw [names]
    decide
  rw [toJson_eq_sparse]
  exact Json.fields?_sparse names.symm distinct

/-- A key is what its document states. -/
theorem ofJson?_toJson (key : Jwk) : ofJson? key.toJson = some key := by
  have string : ∀ value : String, Json.required? Json.asString? (some (.string value)) = some value :=
    fun _ => rfl
  rw [ofJson?, fields?_toJson]
  simp only [slots, List.map_cons, List.map_nil, Option.bind_eq_bind, Option.bind_some, string,
    Json.optional?_string]
  rfl

theorem isWritable_toJson (key : Jwk) : key.toJson.isWritable = true := by
  rw [toJson_eq_sparse]
  apply Json.isWritable_sparse
  intro slot listed value member
  have isString : ∃ text, value = .string text := by
    simp only [slots, List.mem_cons, List.not_mem_nil, or_false] at listed
    rcases listed with rfl | rfl | rfl | rfl | rfl | rfl | rfl | rfl | rfl
    all_goals first
      | exact ⟨_, (Option.some.inj member).symm⟩
      | exact (Option.map_eq_some_iff.mp member).imp fun _ given => given.2.symm
  rcases isString with ⟨text, rfl⟩
  rfl

end Jwk

namespace JwkSet

/-- The set that a text states. -/
def ofText? (text : String) : Option JwkSet :=
  (Json.ofText? text).bind ofJson?

theorem ofJson?_toJson (set : JwkSet) : ofJson? set.toJson = some set := by
  have keys : (set.keys.map Jwk.toJson).mapM Jwk.ofJson? = some set.keys :=
    mapM_map_of_read fun key _ => key.ofJson?_toJson
  have given : set.toJson.fields? [⟨"keys", false⟩] = some [some (.array (set.keys.map Jwk.toJson))] := rfl
  rw [ofJson?, given]
  simp only [Option.bind_eq_bind, Option.bind_some, keys]
  rfl

theorem isWritable_toJson (set : JwkSet) : set.toJson.isWritable = true := by
  have keys : (Json.array (set.keys.map Jwk.toJson)).isWritable = true := by
    apply Json.isWritable_array
    intro item member
    rcases List.mem_map.mp member with ⟨key, _, rfl⟩
    exact key.isWritable_toJson
  rw [toJson, Json.isWritable, Json.areMembersWritable, keys]
  rfl

/-- A set is what its text states. -/
theorem ofText?_compact (set : JwkSet) : ofText? set.toJson.compact = some set := by
  rw [ofText?, Json.ofText?_compact _ set.isWritable_toJson]
  exact set.ofJson?_toJson

end JwkSet

/-! ## What a published key says -/

@[simp] theorem Jwk.keyId_ofKey (name : String) (key : VerifyingKey) : (ofKey name key).keyId = name := by
  cases key <;> rfl

@[simp] theorem Jwk.algorithm_ofKey (name : String) (key : VerifyingKey) :
    (ofKey name key).algorithm = key.algorithm.name := by
  cases key <;> rfl

/-- The point that bytes encode is made of two coordinates of 32 bytes. -/
theorem P256.PublicKey.exists_coordinates_of_ofBytes? {bytes : List UInt8} {key : P256.PublicKey}
    (read : ofBytes? bytes = some key) :
    ∃ x y : List UInt8, x.length = 32 ∧ y.length = 32 ∧ bytes = 0x04 :: x ++ y ∧
      key = ⟨BigEndian.toNat x, BigEndian.toNat y⟩ := by
  unfold ofBytes? at read
  split_ifs at read with shape
  rcases shape with ⟨length, first⟩
  cases bytes with
  | nil => cases first
  | cons head rest =>
      rw [List.length_cons] at length
      refine ⟨rest.take 32, rest.drop 32, ?_, ?_, ?_, ?_⟩
      · rw [List.length_take]
        omega
      · rw [List.length_drop]
        omega
      · rw [List.cons_append, List.take_append_drop, Option.some.inj first]
      · exact (Option.some.inj read).symm

namespace Jwk

/-- The bytes of a part of a published key. -/
def part? (slot : Option String) : Option (List UInt8) :=
  slot.bind Base64.ofUrlText?

theorem part?_urlText (bytes : List UInt8) : part? (some (Base64.urlText bytes)) = some bytes :=
  Base64.ofUrlText?_urlText bytes

/-- A published key says what the public half of a pair says: the point, byte for byte, or the two numbers, in
as few bytes as possible.  Its type, its algorithm and its curve are those of the kind of keys that the half
names, and it has no parts of the other kind. -/
inductive Restates (published : Jwk) (known : PublicKeyInfo) : Prop
  | curve (kind : known.algorithm.name = KeyPair.curveKeyName) (keyType : published.keyType = "EC")
      (algorithm : published.algorithm = "ES256") (curve : published.curve = some "P-256")
      {x y : List UInt8} (xPart : part? published.x = some x) (yPart : part? published.y = some y)
      (xLength : x.length = 32) (yLength : y.length = 32) (point : known.key = 0x04 :: x ++ y)
      (others : published.modulus = none ∧ published.exponent = none)
  | rsa (kind : known.algorithm.name = KeyPair.rsaName) (keyType : published.keyType = "RSA")
      (algorithm : published.algorithm = "RS256") {key : Rsa.PublicKey}
      (numbers : Rsa.PublicKey.ofDer? known.key = some key)
      {modulus exponent : List UInt8} (modulusPart : part? published.modulus = some modulus)
      (exponentPart : part? published.exponent = some exponent)
      (modulusValue : BigEndian.toNat modulus = key.modulus) (modulusStart : modulus.head? ≠ some 0)
      (exponentValue : BigEndian.toNat exponent = key.exponent) (exponentStart : exponent.head? ≠ some 0)
      (others : published.curve = none ∧ published.x = none ∧ published.y = none)

/-- The key that a published key determines, for those who have nothing else. -/
def key? (published : Jwk) : Option VerifyingKey :=
  if published.keyType = "RSA" ∧ published.algorithm = "RS256" then do
    let modulus ← part? published.modulus
    let exponent ← part? published.exponent
    return .rsa ⟨BigEndian.toNat modulus, BigEndian.toNat exponent⟩
  else if published.keyType = "EC" ∧ published.algorithm = "ES256" ∧
      published.curve = some "P-256" then do
    let x ← part? published.x
    let y ← part? published.y
    if x.length = 32 ∧ y.length = 32 then some (.p256 ⟨BigEndian.toNat x, BigEndian.toNat y⟩) else none
  else none

theorem head?_minimal_ne (value : Nat) : (BigEndian.minimal value).head? ≠ some 0 := by
  intro starts
  rcases List.head?_eq_some_iff.mp starts with ⟨rest, bytes⟩
  exact BigEndian.first_ne_zero bytes rfl

/-- The published form of the key that a public half has says what the half says, and determines the key. -/
theorem restates_ofKey (name : String) {known : PublicKeyInfo} {key : VerifyingKey}
    (stated : known.verifyingKey? = some key) :
    (ofKey name key).Restates known ∧ (ofKey name key).key? = some key := by
  unfold PublicKeyInfo.verifyingKey? at stated
  split_ifs at stated with isRsa isCurve
  · rcases Option.map_eq_some_iff.mp stated with ⟨rsaKey, read, rfl⟩
    unfold KeyPair.rsaPublicKey? at read
    split_ifs at read
    constructor
    · exact .rsa isRsa rfl rfl read (part?_urlText _) (part?_urlText _) (BigEndian.toNat_minimal _)
        (head?_minimal_ne _) (BigEndian.toNat_minimal _) (head?_minimal_ne _) ⟨rfl, rfl, rfl⟩
    · rw [key?, if_pos ⟨rfl, rfl⟩]
      simp only [ofKey, part?_urlText, Option.bind_eq_bind, Option.bind_some, BigEndian.toNat_minimal]
      rfl
  · rcases Option.map_eq_some_iff.mp stated with ⟨point, read, rfl⟩
    rcases P256.PublicKey.exists_coordinates_of_ofBytes? read with ⟨x, y, xLength, yLength, bytes, rfl⟩
    have fixedX : BigEndian.fixed 32 (BigEndian.toNat x) = x := xLength ▸ BigEndian.fixed_toNat x
    have fixedY : BigEndian.fixed 32 (BigEndian.toNat y) = y := yLength ▸ BigEndian.fixed_toNat y
    have xPart : part? (ofKey name (.p256 ⟨BigEndian.toNat x, BigEndian.toNat y⟩)).x = some x := by
      rw [ofKey, fixedX, part?_urlText]
    have yPart : part? (ofKey name (.p256 ⟨BigEndian.toNat x, BigEndian.toNat y⟩)).y = some y := by
      rw [ofKey, fixedY, part?_urlText]
    constructor
    · exact .curve isCurve rfl rfl rfl xPart yPart xLength yLength bytes ⟨rfl, rfl⟩
    · have notRsa : ("EC" : String) ≠ "RSA" := by decide
      rw [key?, if_neg fun isRsa => notRsa isRsa.1, if_pos ⟨rfl, rfl, rfl⟩, xPart, yPart]
      simp only [Option.bind_eq_bind, Option.bind_some, xLength, yLength, and_self, if_true]

/-- The zeros that a coordinate starts with are written, those of an exponent are not. -/
example : (ofKey "a" (.p256 ⟨1, 2⟩)).x = some "AAAAAAAAAAAAAAAAAAAAAAAAAAAAAAAAAAAAAAAAAAE" ∧
    (ofKey "a" (.rsa ⟨3, 65537⟩)).exponent = some "AQAB" := by
  decide +kernel

end Jwk

/-! ## Rings that are loaded -/

/-- A key of the set verifies the signature, for those who have nothing but the set. -/
def JwkSet.verifies (set : JwkSet) (message signature : List UInt8) : Bool :=
  set.keys.any fun published => published.key?.any fun key => key.verifies message signature

/-- The header of a token that a key signs names the key and its algorithm. -/
theorem NamedKey.exists_header_of_sign? {key : NamedKey} {payload : Json} {text : String}
    (signed : key.sign? payload = some text) :
    ∃ token header, SignedToken.ofText? text = some token ∧
      SignedToken.readPart token.header = .ok header ∧ header.get? "kid" = some (.string key.name) ∧
      header.get? "alg" = some (.string key.pair.algorithm.name) := by
  rcases exists_signature_of_sign? signed with ⟨signature, parts, _⟩
  exact ⟨_, key.header, parts, SignedToken.readPart_compact key.isWritable_header, rfl, rfl⟩

/-- A key that is looked up verifies with the key that its public half has. -/
theorem NamedKey.IsIn.exists_known {key : NamedKey} {lookup : PairLookup} (isIn : key.IsIn lookup) :
    ∃ encoded known, lookup key.name = .ok encoded ∧
      PublicKeyInfo.ofDer? encoded.publicKey = some known ∧
      known.verifyingKey? = some key.pair.verifying := by
  rcases isIn with ⟨encoded, stored, formed⟩
  rcases KeyPair.ofEncoded_eq_ok_iff.mp formed with ⟨_, known, _, read, isOf⟩
  exact ⟨encoded, known, stored, read, isOf.verifying⟩

namespace Keyring

section

variable (ring : Keyring)

theorem map_keyId_published :
    ring.published.keys.map Jwk.keyId = ring.keys.map NamedKey.name := by
  rw [published, List.map_map]
  apply List.map_congr_left
  intro key _
  exact Jwk.keyId_ofKey key.name key.pair.verifying

theorem map_name_verifiersFor (audience : Option String) :
    (ring.verifiersFor audience).map Verifier.name = ring.keys.map NamedKey.name := by
  rw [verifiersFor, List.map_map]
  rfl

theorem map_key_verifiersFor (audience : Option String) :
    (ring.verifiersFor audience).map (fun verifier => some verifier.key) =
      ring.keys.map fun key => some key.pair.verifying := by
  rw [verifiersFor, List.map_map]
  rfl

end

/-- The published keys of a ring from a store determine the keys of the ring, in their order. -/
theorem map_key?_published {ring : Keyring} {lookup : PairLookup} (areIn : AreIn ring.keys lookup) :
    ring.published.keys.map Jwk.key? = ring.keys.map fun key => some key.pair.verifying := by
  rw [published, List.map_map]
  apply List.map_congr_left
  intro key member
  rcases (areIn.each key member).exists_known with ⟨_, known, _, _, stated⟩
  exact (Jwk.restates_ofKey key.name stated).2

/-- Whoever has the published keys of a ring from a store verifies what the ring verifies. -/
theorem verifies_published_iff {ring : Keyring} {lookup : PairLookup} (areIn : AreIn ring.keys lookup)
    (audience : Option String) (message signature : List UInt8) :
    ring.published.verifies message signature = true ↔
      ∃ verifier ∈ ring.verifiersFor audience, verifier.key.verifies message signature = true := by
  have determined : ring.published.verifies message signature =
      (ring.published.keys.map Jwk.key?).any fun key =>
        key.any fun key => key.verifies message signature := by
    rw [List.any_map]
    rfl
  rw [determined, map_key?_published areIn, List.any_map, List.any_eq_true]
  constructor
  · rintro ⟨key, member, verified⟩
    exact ⟨_, List.mem_map_of_mem member, verified⟩
  · rintro ⟨verifier, member, verified⟩
    rcases List.mem_map.mp member with ⟨key, present, rfl⟩
    exact ⟨key, present, verified⟩

/-- What is published of a ring that is loaded, from whatever store, is what the ring verifies with.  The
published keys and both lists of verifiers have the same names in the same order, without repetition and the
signing key first.  The tokens that the ring signs name the first published key and its algorithm.  Each
published key restates the public half that the store has for its name, and determines the key of the verifier
in its place.  So the text of the published keys is enough to verify the signatures that the ring verifies,
and no others. -/
theorem published_of_loadWith {opener : StoreOpener} {settings : Config.KeystoreSettings}
    {audience : String} {leeway : UInt64} {ring : Keyring}
    (success : loadWith opener settings audience leeway = .ok ring) :
    ((∃ others, ring.published.keys.map Jwk.keyId = settings.signingAlias :: others) ∧
      (ring.published.keys.map Jwk.keyId).Nodup ∧
      ring.accessVerifiers.map Verifier.name = ring.published.keys.map Jwk.keyId ∧
      ring.refreshVerifiers.map Verifier.name = ring.published.keys.map Jwk.keyId) ∧
    (∀ payload text, ring.signing.sign? payload = some text →
      ∃ first token header, ring.published.keys.head? = some first ∧
        SignedToken.ofText? text = some token ∧ SignedToken.readPart token.header = .ok header ∧
        header.get? "kid" = some (.string first.keyId) ∧
        header.get? "alg" = some (.string first.algorithm)) ∧
    (∃ lookup, opener.first? settings.password settings.locations = some lookup ∧
      ∀ published ∈ ring.published.keys, ∃ encoded known,
        lookup published.keyId = .ok encoded ∧
        PublicKeyInfo.ofDer? encoded.publicKey = some known ∧ published.Restates known) ∧
    (ring.published.keys.map Jwk.key? = ring.accessVerifiers.map (fun verifier => some verifier.key) ∧
      ring.published.keys.map Jwk.key? = ring.refreshVerifiers.map fun verifier => some verifier.key) ∧
    ∃ received, JwkSet.ofText? ring.published.toJson.compact = some received ∧
      ∀ message signature,
        (received.verifies message signature = true ↔
          ∃ verifier ∈ ring.accessVerifiers, verifier.key.verifies message signature = true) ∧
        (received.verifies message signature = true ↔
          ∃ verifier ∈ ring.refreshVerifiers, verifier.key.verifies message signature = true) := by
  rcases exists_lookup_of_loadWith success with ⟨lookup, opened, signingName, areIn⟩
  refine ⟨⟨?_, ?_, ?_, ?_⟩, ?_, ⟨lookup, opened, ?_⟩, ⟨?_, ?_⟩,
    ring.published, ring.published.ofText?_compact, ?_⟩
  · rw [map_keyId_published, ← signingName]
    exact ⟨ring.checkingNames, rfl⟩
  · rw [map_keyId_published]
    exact areIn.distinct
  · rw [map_keyId_published]
    exact ring.map_name_verifiersFor (some ring.audience)
  · rw [map_keyId_published]
    exact ring.map_name_verifiersFor none
  · intro payload text signed
    rcases NamedKey.exists_header_of_sign? signed with ⟨token, header, parts, read, keyId, algorithm⟩
    refine ⟨Jwk.ofKey ring.signing.name ring.signing.pair.verifying, token, header, rfl, parts, read, ?_, ?_⟩
    · rw [Jwk.keyId_ofKey]
      exact keyId
    · rw [Jwk.algorithm_ofKey]
      exact algorithm
  · intro published member
    rcases List.mem_map.mp member with ⟨key, present, rfl⟩
    rcases (areIn.each key present).exists_known with ⟨encoded, known, stored, read, stated⟩
    refine ⟨encoded, known, ?_, read, (Jwk.restates_ofKey key.name stated).1⟩
    rw [Jwk.keyId_ofKey]
    exact stored
  · rw [map_key?_published areIn]
    exact (ring.map_key_verifiersFor (some ring.audience)).symm
  · rw [map_key?_published areIn]
    exact (ring.map_key_verifiersFor none).symm
  · intro message signature
    exact ⟨verifies_published_iff areIn (some ring.audience) message signature,
      verifies_published_iff areIn none message signature⟩

end Keyring

/-- The second of two pairs signs.  The first one is listed twice, around a name that the store does not have. -/
def Config.KeystoreSettings.listedTwice : KeystoreSettings where
  locations := ["keys"]
  password := ⟨"secret"⟩
  signingAlias := "next"
  checkingAliases := ["main", "lost", "main"]

namespace Keyring

theorem loadWith_listedTwice (audience : String) (leeway : UInt64) :
    loadWith (.ofTwo "main") .listedTwice audience leeway =
      .ok { signing := ⟨"next", KeyPair.generator⟩, checking := [⟨"main", KeyPair.proth⟩], audience, leeway } := by
  have opened : (StoreOpener.ofTwo "main").first? Config.KeystoreSettings.listedTwice.password
      Config.KeystoreSettings.listedTwice.locations = some (.ofTwo "main") := rfl
  have different : "next" ≠ "main" := by decide
  have lost : loadChecking (.ofTwo "main") "lost" = .ok none := rfl
  have checking : loadAll (.ofTwo "main") [⟨"next", KeyPair.generator⟩] ["main", "lost", "main"] =
      .ok [⟨"next", KeyPair.generator⟩, ⟨"main", KeyPair.proth⟩] := by
    rw [loadAll, if_neg (by decide), loadChecking_ofTwo]
    dsimp only
    rw [loadAll, if_neg (by decide), lost]
    dsimp only
    rw [loadAll, if_pos (by decide), loadAll]
    rfl
  exact loadWith_of_loadAll opened (loadSigning_ofTwo_next different) checking audience leeway

/-- Of two loaded pairs both keys are published once, the one on the curve first, since it signs. -/
theorem published_of_loadWith_listedTwice :
    ∃ ring, loadWith (.ofTwo "main") .listedTwice "res_ManagementPortal" 10 = .ok ring ∧
      ring.published.keys.map Jwk.keyId = ["next", "main"] ∧
      ring.published.keys.map Jwk.key? =
        [some (.p256 P256.generatorKey.publicKey), some (.rsa Rsa.prothKey.publicKey)] ∧
      (∀ payload text, ring.signing.sign? payload = some text →
        ∃ token header, SignedToken.ofText? text = some token ∧ SignedToken.readPart token.header = .ok header ∧
          header.get? "kid" = some (.string "next") ∧ header.get? "alg" = some (.string "ES256")) ∧
      ∃ received, JwkSet.ofText? ring.published.toJson.compact = some received ∧
        ∀ message signature, received.verifies message signature = true ↔
          ∃ verifier ∈ ring.accessVerifiers, verifier.key.verifies message signature = true := by
  have success := loadWith_listedTwice "res_ManagementPortal" 10
  rcases published_of_loadWith success with
    ⟨⟨_, _, accessNames, _⟩, headers, _, ⟨accessKeys, _⟩, received, read, verifies⟩
  refine ⟨_, success, accessNames.symm, accessKeys, ?_, received, read, fun message signature =>
    (verifies message signature).1⟩
  intro payload text signed
  rcases headers payload text signed with ⟨first, token, header, isFirst, parts, readHeader, keyId, algorithm⟩
  cases isFirst
  exact ⟨token, header, parts, readHeader, keyId, algorithm⟩

end Keyring
end TokenAuthority
