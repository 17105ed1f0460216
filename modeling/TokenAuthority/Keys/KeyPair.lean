import TokenAuthority.Crypto.P256
import TokenAuthority.Crypto.Rsa
import TokenAuthority.Keys.Error
import TokenAuthority.Keys.KeyInfo

/-!
# Key pairs

A key pair signs and verifies under one of two algorithms, which follows from the key and is never
chosen: RSA keys sign under RS256, and keys on the curve P-256 under ES256. A pair is made of its two
encoded halves, and only if a first message that the private half signs is verified by the public half.
-/

namespace TokenAuthority

/-- An algorithm of signatures. -/
inductive SigningAlgorithm where
  | es256
  | rs256
deriving DecidableEq, Repr

def SigningAlgorithm.name : SigningAlgorithm → String
  | es256 => "ES256"
  | rs256 => "RS256"

/-- What verifies signatures. -/
inductive VerifyingKey where
  | rsa (key : Rsa.PublicKey)
  | p256 (key : P256.PublicKey)
deriving DecidableEq, Repr

namespace VerifyingKey

def algorithm : VerifyingKey → SigningAlgorithm
  | rsa _ => .rs256
  | p256 _ => .es256

def verifies (key : VerifyingKey) (message signature : List UInt8) : Bool :=
  match key with
  | rsa key => key.verifies message signature
  | p256 key => key.verifies message signature

end VerifyingKey

/-- What signs. It has no printed form, so that no report can show it. -/
inductive SigningKey where
  | rsa (key : Rsa.PrivateKey)
  | p256 (key : P256.PrivateKey)
deriving DecidableEq

/-- The signature of a message, if the key can sign it. -/
def SigningKey.sign? (key : SigningKey) (message : List UInt8) : Option (List UInt8) :=
  match key with
  | rsa key => key.sign? message
  | p256 key => key.sign? message

/-- The two halves of a key pair, as they are stored. -/
structure EncodedPair where
  privateKey : List UInt8
  publicKey : List UInt8
deriving DecidableEq

/-- What signs, and what verifies the signatures. -/
structure KeyPair where
  signing : SigningKey
  verifying : VerifyingKey
deriving DecidableEq

namespace KeyPair

def algorithm (pair : KeyPair) : SigningAlgorithm :=
  pair.verifying.algorithm

/-- The signature of a message, by the private half. The public half does not check it. -/
def sign? (pair : KeyPair) (message : List UInt8) : Option (List UInt8) :=
  pair.signing.sign? message

/-- What a new pair has to sign and verify. -/
def probe : List UInt8 := "radar-auth key pair self-test".toUTF8.data.toList

/-- RSA keys. -/
def rsaName : ObjectId := ObjectId.ofArcs [1, 2, 840, 113549, 1, 1, 1]

/-- Keys on a curve, which the parameters name. -/
def curveKeyName : ObjectId := ObjectId.ofArcs [1, 2, 840, 10045, 2, 1]

/-- The curve P-256. -/
def p256Name : ObjectId := ObjectId.ofArcs [1, 2, 840, 10045, 3, 1, 7]

/-- What a curve is called in a message. -/
def curveText (curve : ObjectId) : String :=
  if curve = ObjectId.ofArcs [1, 3, 132, 0, 34] then "EC/P-384"
  else if curve = ObjectId.ofArcs [1, 3, 132, 0, 35] then "EC/P-521"
  else "EC/" ++ curve.text

/-- What a kind of keys is called in a message. -/
def keyTypeText (name : ObjectId) : String :=
  if name = ObjectId.ofArcs [1, 3, 101, 112] then "Ed25519"
  else if name = ObjectId.ofArcs [1, 3, 101, 113] then "Ed448"
  else name.text

/-- The RSA key of a public half. Its algorithm has null parameters. -/
def rsaPublicKey? (info : PublicKeyInfo) : Option Rsa.PublicKey :=
  if info.algorithm.hasNullParameters ∧ info.unusedBits = 0 then Rsa.PublicKey.ofDer? info.key else none

/-- The curve key of a private half. The factor has 32 bytes; the curve, if it is named again, is P-256;
and the public key, which has to be there, is the one that belongs to the factor. -/
def p256PrivateKey? (info : PrivateKeyInfo) : Option P256.PrivateKey := do
  if info.version = 0 ∧ (info.extensions.map Der.Element.tag ∈ [[], [Der.partTag true 0]]) then
    let version :: factor :: parts ← (← Der.element? info.key).parts? | none
    let factor ← factor.octets?
    let curve : Der.Element := ⟨Der.partTag true 0, 0x06 :: 0x08 :: p256Name.content⟩
    let publicPart ← match parts with
      | [publicPart] => some publicPart
      | [named, publicPart] => if named = curve then some publicPart else none
      | _ => none
    let publicKey ← (← Der.element? (← publicPart.contentOf? (Der.partTag true 1))).wholeBits?
      Der.bitStringTag
    let key ← P256.PrivateKey.ofFactor? (BigEndian.toNat factor)
    if version.natural? = some 1 ∧ factor.length = 32 ∧ publicKey = key.publicKey.bytes then some key
    else none
  else none

/-- The pair of two halves, if the private one signs the first message and the public one verifies this. -/
def ofHalves (name : String) (signing : Option SigningKey) (verifying : VerifyingKey) :
    Except KeyError KeyPair :=
  match signing with
  | none => .error (.invalid name .cannotSign)
  | some signing =>
    match signing.sign? probe with
    | none => .error (.invalid name .cannotSign)
    | some signature =>
      if verifying.verifies probe signature then .ok ⟨signing, verifying⟩
      else .error (.pairMismatch name)

/-- The pair of RSA halves. -/
def ofRsaHalves (name : String) (secret : PrivateKeyInfo) (known : PublicKeyInfo) :
    Except KeyError KeyPair :=
  match rsaPublicKey? known with
  | none => .error (.invalid name .rsaPublicKey)
  | some verifying =>
    ofHalves name ((Rsa.PrivateKey.ofDer? secret.key).map .rsa) (.rsa verifying)

/-- The pair of halves on a curve, which has to be P-256. -/
def ofCurveHalves (name : String) (secret : PrivateKeyInfo) (known : PublicKeyInfo) :
    Except KeyError KeyPair :=
  match secret.algorithm.parameters.bind ObjectId.ofElement? with
  | none => .error (.invalid name .curveMissing)
  | some curve =>
    if curve = p256Name then
      match P256.PublicKey.ofBytes? known.key with
      | none => .error (.invalid name .pointEncoding)
      | some verifying => ofHalves name ((p256PrivateKey? secret).map .p256) (.p256 verifying)
    else .error (.unsupportedType name (curveText curve))

/-- The pair that two encoded halves denote. They have to name the same kind of keys. -/
def ofEncoded (name : String) (encoded : EncodedPair) : Except KeyError KeyPair :=
  match PrivateKeyInfo.ofDer? encoded.privateKey with
  | none => .error (.invalid name .privateEncoding)
  | some secret =>
    match PublicKeyInfo.ofDer? encoded.publicKey with
    | none => .error (.invalid name .publicEncoding)
    | some known =>
      if known.algorithm.name ≠ secret.algorithm.name then .error (.pairMismatch name)
      else if secret.algorithm.name = rsaName then ofRsaHalves name secret known
      else if secret.algorithm.name = curveKeyName then ofCurveHalves name secret known
      else .error (.unsupportedType name (keyTypeText secret.algorithm.name))

end KeyPair
end TokenAuthority
