import TokenAuthority.Bytes.Der
import TokenAuthority.Crypto.Hash
import TokenAuthority.Crypto.Modular

/-!
# RSA signatures

A signature is a power, modulo the product of two primes, of the hash of the message in a fixed
frame. Keys have their own limits: a key that is published has a modulus of at most 4096 bits, and one
that signs or verifies has at least 2048.
-/

namespace TokenAuthority
namespace Rsa

/-- What verifies: the modulus and the public exponent. -/
structure PublicKey where
  modulus : Nat
  exponent : Nat
deriving DecidableEq, Repr, Inhabited

/-- What signs: the public key, the private exponent, the two primes with the exponents that belong to
them, and the inverse of the second prime modulo the first. -/
structure PrivateKey where
  publicKey : PublicKey
  exponent : Nat
  firstPrime : Nat
  secondPrime : Nat
  firstExponent : Nat
  secondExponent : Nat
  inverse : Nat
deriving DecidableEq, Inhabited

/-- The greatest public exponent, of 33 bits. -/
def greatestExponent : Nat := 0x1ffffffff

/-- A public key from its encoding: the sequence of the modulus and the exponent. Both are odd, the
modulus has at most 4096 bits, and the exponent is less than it. -/
def PublicKey.ofDer? (bytes : List UInt8) : Option PublicKey := do
  let [modulus, exponent] ← (← Der.element? bytes).parts? | none
  let modulus ← modulus.natural?
  let exponent ← exponent.natural?
  if BigEndian.bitLength modulus ≤ 4096 ∧ exponent < modulus ∧ modulus % 2 = 1 ∧ exponent % 2 = 1 ∧
      2 ≤ exponent ∧ exponent ≤ greatestExponent then
    some ⟨modulus, exponent⟩
  else none

/-- The hash of a message in its frame, as long as the modulus: two bytes that start it, as many bytes
of ones as needed, and the hash after the name of its function. -/
def frame (length : Nat) (message : List UInt8) : List UInt8 :=
  let name : List UInt8 :=
    [0x30, 0x31, 0x30, 0x0d, 0x06, 0x09, 0x60, 0x86, 0x48, 0x01, 0x65, 0x03, 0x04, 0x02, 0x01, 0x05,
      0x00, 0x04, 0x20]
  let hash := name ++ Hash.sha256.digest message
  [0x00, 0x01] ++ List.replicate (length - hash.length - 3) 0xff ++ 0x00 :: hash

/-- The signature is that of the message. It is as long as the modulus, which has 2048 to 8192 bits. -/
def PublicKey.verifies (key : PublicKey) (message signature : List UInt8) : Bool :=
  let length := BigEndian.byteLength key.modulus
  let bits := BigEndian.bitLength key.modulus
  let value := BigEndian.toNat signature
  2041 ≤ bits && bits ≤ 8192 && signature.length == length && value < key.modulus &&
    BigEndian.fixed length (Modular.power value key.exponent key.modulus) == frame length message

/-- The parts of a private key belong together: the primes are of equal length, a multiple of 512 bits, and
have the modulus as their product, the exponents are odd and not too small, and the inverse is one. -/
def PrivateKey.isConsistent (key : PrivateKey) : Bool :=
  let modulus := key.publicKey.modulus
  let bits := BigEndian.bitLength modulus
  let half := (bits + 1) / 2
  let exponent := key.publicKey.exponent
  2041 ≤ bits && bits ≤ 4096 && exponent % 2 == 1 && 65537 ≤ exponent &&
    exponent ≤ greatestExponent && key.firstPrime * key.secondPrime == modulus &&
    BigEndian.bitLength key.firstPrime == half && BigEndian.bitLength key.secondPrime == half &&
    half % 512 == 0 &&
    key.exponent % 2 == 1 && 1 <<< half < key.exponent && key.exponent < modulus &&
    key.firstExponent % 2 == 1 && key.firstExponent < key.firstPrime &&
    key.secondExponent % 2 == 1 && key.secondExponent < key.secondPrime &&
    key.secondPrime * key.inverse % key.firstPrime == 1

/-- A private key from its encoding: the sequence of a zero and the eight numbers. -/
def PrivateKey.ofDer? (bytes : List UInt8) : Option PrivateKey := do
  let parts ← (← Der.element? bytes).parts?
  let [version, modulus, publicExponent, exponent, firstPrime, secondPrime, firstExponent,
    secondExponent, inverse] ← parts.mapM Der.Element.natural? | none
  let key : PrivateKey :=
    { publicKey := ⟨modulus, publicExponent⟩
      exponent, firstPrime, secondPrime, firstExponent, secondExponent, inverse }
  if version = 0 ∧ key.isConsistent then some key else none

/-- The private power of a value: its powers modulo the two primes, put together. -/
def PrivateKey.power (key : PrivateKey) (value : Nat) : Nat :=
  let first := Modular.power value key.firstExponent key.firstPrime
  let second := Modular.power value key.secondExponent key.secondPrime
  let difference := (first + key.firstPrime - second % key.firstPrime) * key.inverse % key.firstPrime
  second + key.secondPrime * difference

/-- The signature of a message, unless it fails to verify with the public key that the private key
holds. -/
def PrivateKey.sign? (key : PrivateKey) (message : List UInt8) : Option (List UInt8) :=
  let length := BigEndian.byteLength key.publicKey.modulus
  let signature := BigEndian.fixed length (key.power (BigEndian.toNat (frame length message)))
  if key.publicKey.verifies message signature then some signature else none

end Rsa
end TokenAuthority
