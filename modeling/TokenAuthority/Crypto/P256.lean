import TokenAuthority.Crypto.Hash
import TokenAuthority.Crypto.Modular

/-!
# Signatures on the curve P-256

The curve `y² = x³ - 3x + b` over a prime field, with a generator of prime order. Points are computed
with in coordinates that need no division: a point is `(x / z², y / z³)`, and it is the neutral one when
`z` is zero. A signature is a pair of numbers below the order, 32 bytes each. The nonce of a signature
is derived from the key and the message, so that signing needs no randomness.
-/

namespace TokenAuthority
namespace P256

/-- The number of field elements, 2^256 - 2^224 + 2^192 + 2^96 - 1. -/
def prime : Nat :=
  0xffffffff00000001000000000000000000000000ffffffffffffffffffffffff

/-- The number of points. -/
def order : Nat :=
  0xffffffff00000000ffffffffffffffffbce6faada7179e84f3b9cac2fc632551

/-- The constant term of the curve. -/
def constant : Nat :=
  0x5ac635d8aa3a93e7b3ebbd55769886bc651d06b0cc53b0f63bce3c3e27d2604b

/-- The difference of two field elements. -/
def minus (left right : Nat) : Nat :=
  (left + prime - right) % prime

/-- A point in coordinates that need no division. -/
structure Point where
  x : Nat
  y : Nat
  z : Nat
deriving Repr, Inhabited

/-- The neutral point. -/
def Point.zero : Point := ⟨1, 1, 0⟩

/-- The point that generates all others. -/
def generator : Point where
  x := 0x6b17d1f2e12c4247f8bce6e563a440f277037d812deb33a0f4a13945d898c296
  y := 0x4fe342e2fe1a7f9b8ee7eb4a7c0f9e162bce33576b315ececbb6406837bf51f5
  z := 1

/-- Twice a point. -/
def Point.double (point : Point) : Point :=
  let zz := point.z * point.z % prime
  let yy := point.y * point.y % prime
  let chord := 4 * point.x * yy % prime
  let slope := 3 * (minus point.x zz) * (point.x + zz) % prime
  let x := minus (slope * slope % prime) (2 * chord % prime)
  { x
    y := minus (slope * minus chord x % prime) (8 * yy * yy % prime)
    z := 2 * point.y * point.z % prime }

/-- The sum of two points. -/
def Point.add (left right : Point) : Point :=
  if left.z = 0 then right
  else if right.z = 0 then left
  else
    let leftZZ := left.z * left.z % prime
    let rightZZ := right.z * right.z % prime
    let leftX := left.x * rightZZ % prime
    let rightX := right.x * leftZZ % prime
    let leftY := left.y * rightZZ * right.z % prime
    let rightY := right.y * leftZZ * left.z % prime
    let run := minus rightX leftX
    let rise := minus rightY leftY
    if run = 0 then
      if rise = 0 then left.double else Point.zero
    else
      let run2 := run * run % prime
      let run3 := run2 * run % prime
      let middle := leftX * run2 % prime
      let x := minus (minus (rise * rise % prime) run3) (2 * middle % prime)
      { x
        y := minus (rise * minus middle x % prime) (leftY * run3 % prime)
        z := left.z * right.z * run % prime }

/-- A point added to itself as often as a factor says. The factor's bits are taken from the highest to
the lowest. -/
def Point.times (point : Point) (factor : Nat) : Point :=
  (List.range (factor.log2 + 1)).foldr (fun position sum =>
    let twice := sum.double
    if factor.testBit position then twice.add point else twice) Point.zero

/-- The coordinates of a point, of which the neutral one has none. -/
def Point.coordinates? (point : Point) : Option (Nat × Nat) :=
  if point.z = 0 then none
  else
    let inverse := Modular.inverse point.z prime
    let square := inverse * inverse % prime
    some (point.x * square % prime, point.y * square * inverse % prime)

/-- What verifies: the coordinates of a point. -/
structure PublicKey where
  x : Nat
  y : Nat
deriving DecidableEq, Repr, Inhabited

/-- What signs: a factor, and the multiple of the generator by it. -/
structure PrivateKey where
  factor : Nat
  publicKey : PublicKey
deriving DecidableEq, Inhabited

/-- The coordinates of a public key are those of a point on the curve. -/
def PublicKey.isOnCurve (key : PublicKey) : Bool :=
  key.x < prime && key.y < prime &&
    key.y * key.y % prime == (minus (key.x * key.x * key.x % prime) (3 * key.x % prime) + constant) % prime

/-- The encoding of a point: a byte that tells that both coordinates follow, and the coordinates. -/
def PublicKey.bytes (key : PublicKey) : List UInt8 :=
  0x04 :: BigEndian.fixed 32 key.x ++ BigEndian.fixed 32 key.y

/-- The point of an encoding, which need not lie on the curve. -/
def PublicKey.ofBytes? (bytes : List UInt8) : Option PublicKey :=
  if bytes.length = 65 ∧ bytes.head? = some 0x04 then
    some ⟨BigEndian.toNat ((bytes.drop 1).take 32), BigEndian.toNat (bytes.drop 33)⟩
  else none

/-- The private key of a factor between zero and the order. -/
def PrivateKey.ofFactor? (factor : Nat) : Option PrivateKey := do
  if 0 < factor ∧ factor < order then
    let (x, y) ← (generator.times factor).coordinates?
    some ⟨factor, ⟨x, y⟩⟩
  else none

/-- The number that is signed in place of a message. -/
def digest (message : List UInt8) : Nat :=
  BigEndian.toNat (Hash.sha256.digest message) % order

def PublicKey.verifies (key : PublicKey) (message signature : List UInt8) : Bool :=
  let r := BigEndian.toNat (signature.take 32)
  let s := BigEndian.toNat (signature.drop 32)
  if signature.length = 64 ∧ 0 < r ∧ r < order ∧ 0 < s ∧ s < order ∧ key.isOnCurve then
    let inverse := Modular.inverse s order
    let sum := (generator.times (digest message * inverse % order)).add
      ((Point.mk key.x key.y 1).times (r * inverse % order))
    match sum.coordinates? with
    | some (x, _) => x % order == r
    | none => false
  else false

/-- The signature with a nonce, unless one of its numbers is zero. -/
def PrivateKey.signWith? (key : PrivateKey) (message : List UInt8) (nonce : Nat) :
    Option (List UInt8) := do
  let (x, _) ← (generator.times nonce).coordinates?
  let r := x % order
  let s := (digest message + r * key.factor) * Modular.inverse nonce order % order
  if 0 < nonce ∧ nonce < order ∧ r ≠ 0 ∧ s ≠ 0 then
    some (BigEndian.fixed 32 r ++ BigEndian.fixed 32 s)
  else none

/-- Tries the nonces that follow from a chain of authentication codes until one gives a signature. -/
def PrivateKey.signFrom? (key : PrivateKey) (message : List UInt8) :
    (fuel : Nat) → (chainKey value : List UInt8) → Option (List UInt8)
  | 0, _, _ => none
  | fuel + 1, chainKey, value =>
    let value := Hash.sha256.code chainKey value
    match key.signWith? message (BigEndian.toNat value) with
    | some signature => some signature
    | none =>
      let chainKey := Hash.sha256.code chainKey (value ++ [0x00])
      key.signFrom? message fuel chainKey (Hash.sha256.code chainKey value)

/-- The signature of a message. The chain of codes starts from the key and the hash of the message; that
sixteen nonces in a row are refused does not occur. -/
def PrivateKey.sign? (key : PrivateKey) (message : List UInt8) : Option (List UInt8) :=
  let seed := BigEndian.fixed 32 key.factor ++ BigEndian.fixed 32 (digest message)
  let value := List.replicate 32 0x01
  let chainKey := Hash.sha256.code (List.replicate 32 0x00) (value ++ 0x00 :: seed)
  let value := Hash.sha256.code chainKey value
  let chainKey := Hash.sha256.code chainKey (value ++ 0x01 :: seed)
  key.signFrom? message 16 chainKey (Hash.sha256.code chainKey value)

end P256
end TokenAuthority
