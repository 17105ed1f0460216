import TokenAuthority.Crypto.Aes
import TokenAuthority.Crypto.Scrypt
import TokenAuthority.Keys.KeyInfo

/-!
# Encrypted private keys

A private key under a password. The encoding says how a key is made of the password and with which
cipher the private key is encrypted under it. One scheme is known, with two ways of making keys and three
lengths of cipher keys. A wrong password shows by what comes out, which then is no sequence.
-/

namespace TokenAuthority

/-- How a key is made of a password. -/
inductive KeyMaking where
  /-- By repeated codes. -/
  | repeated (hash : Hash) (salt : List UInt8) (iterations : Nat)
  /-- By walks through tables. -/
  | walking (salt : List UInt8) (cost size lanes : Nat)
deriving DecidableEq, Repr

/-- The key of the given length that a password gives. -/
def KeyMaking.key (password : List UInt8) (length : Nat) : KeyMaking → List UInt8
  | .repeated hash salt iterations => hash.passwordKey password salt iterations length
  | .walking salt cost size lanes => Scrypt.passwordKey password salt cost size lanes length

/-- How a private key is encrypted, and the encrypted key. -/
structure EncryptedKey where
  making : KeyMaking
  /-- How many bytes the key of the cipher has. -/
  keyLength : Nat
  /-- What the first block is added to. -/
  start : List UInt8
  message : List UInt8
deriving DecidableEq, Repr

namespace EncryptedKey

/-- The scheme that names how the key is made and which cipher is used. -/
def schemeName : ObjectId := ObjectId.ofArcs [1, 2, 840, 113549, 1, 5, 13]

/-- The making of a key from a password by repeated codes. -/
def repeatedName : ObjectId := ObjectId.ofArcs [1, 2, 840, 113549, 1, 5, 12]

/-- The making of a key from a password by walks through tables. -/
def walkingName : ObjectId := ObjectId.ofArcs [1, 3, 6, 1, 4, 1, 11591, 4, 11]

/-- The hash function that the name of a code stands for. -/
def hashOf? (name : ObjectId) : Option Hash :=
  if name = ObjectId.ofArcs [1, 2, 840, 113549, 2, 8] then some .sha224
  else if name = ObjectId.ofArcs [1, 2, 840, 113549, 2, 9] then some .sha256
  else if name = ObjectId.ofArcs [1, 2, 840, 113549, 2, 10] then some .sha384
  else if name = ObjectId.ofArcs [1, 2, 840, 113549, 2, 11] then some .sha512
  else none

/-- The length of the key of the cipher that a name stands for. -/
def keyLengthOf? (name : ObjectId) : Option Nat :=
  if name = ObjectId.ofArcs [2, 16, 840, 1, 101, 3, 4, 1, 2] then some 16
  else if name = ObjectId.ofArcs [2, 16, 840, 1, 101, 3, 4, 1, 22] then some 24
  else if name = ObjectId.ofArcs [2, 16, 840, 1, 101, 3, 4, 1, 42] then some 32
  else none

/-- The length that is stated for a key, if one is, and the elements after it. -/
def statedLength? : List Der.Element → Option (Option Nat × List Der.Element)
  | [] => some (none, [])
  | element :: rest =>
    if element.tag = Der.integerTag then do
      let length ← element.natural?
      if length < UInt16.size then some (some length, rest) else none
    else some (none, element :: rest)

/-- The making by repeated codes that elements describe, and the stated length of the key. The code has to
be named, because the one meant otherwise is not known here. -/
def repeatedOf? : List Der.Element → Option (KeyMaking × Option Nat)
  | salt :: iterations :: rest => do
    let salt ← salt.octets?
    let iterations ← iterations.natural?
    let (length, rest) ← statedLength? rest
    let [code] ← some rest | none
    let code ← AlgorithmId.ofElement? code
    let hash ← hashOf? code.name
    if iterations < UInt32.size ∧ code.hasNullParameters then some (.repeated hash salt iterations, length)
    else none
  | _ => none

/-- Numbers with which a key can be made by walks: the cost is a power of two that the size of a block can
point into, and neither the blocks nor the table are too large. -/
def areWalkable (cost size lanes : Nat) : Bool :=
  cost == Nat.pow 2 cost.log2 && 0 < size && 0 < lanes && cost.log2 < 16 * size &&
    size * 128 * cost < UInt64.size && size * lanes < 0x40000000

/-- The making by walks that elements describe, and the stated length of the key. -/
def walkingOf? : List Der.Element → Option (KeyMaking × Option Nat)
  | salt :: cost :: size :: lanes :: rest => do
    let salt ← salt.octets?
    let cost ← cost.natural?
    let size ← size.natural?
    let lanes ← lanes.natural?
    let (length, []) ← statedLength? rest | none
    if size < UInt16.size ∧ lanes < UInt16.size ∧ areWalkable cost size lanes then
      some (.walking salt cost size lanes, length)
    else none
  | _ => none

/-- How a key is made, and the length that is stated for it. -/
def makingOf? (algorithm : AlgorithmId) : Option (KeyMaking × Option Nat) := do
  let parts ← (← algorithm.parameters).parts?
  if algorithm.name = repeatedName then repeatedOf? parts
  else if algorithm.name = walkingName then walkingOf? parts
  else none

/-- The encrypted key that bytes denote. -/
def ofDer? (bytes : List UInt8) : Option EncryptedKey := do
  let [scheme, message] ← (← Der.element? bytes).parts? | none
  let scheme ← AlgorithmId.ofElement? scheme
  let message ← message.octets?
  if scheme.name = schemeName then
    let [making, cipher] ← (← scheme.parameters).parts? | none
    let (making, statedLength) ← makingOf? (← AlgorithmId.ofElement? making)
    let cipher ← AlgorithmId.ofElement? cipher
    let keyLength ← keyLengthOf? cipher.name
    let start ← (← cipher.parameters).octets?
    if start.length = 16 ∧ statedLength.getD keyLength = keyLength then
      some { making, keyLength, start, message }
    else none
  else none

/-- The private half that the password decrypts. -/
def open? (encrypted : EncryptedKey) (password : List UInt8) : Option (List UInt8) := do
  let key := encrypted.making.key password encrypted.keyLength
  let bytes ← Aes.decrypt? key encrypted.start encrypted.message
  let _ ← (← Der.element? bytes).contentOf? Der.sequenceTag
  return bytes

end EncryptedKey
end TokenAuthority
