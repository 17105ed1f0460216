import TokenAuthority.Bytes.ObjectId

/-!
# Halves of a key pair

The encodings in which the private and the public half of a key pair are exchanged: each names its
algorithm, with parameters that depend on it, before the key itself.
-/

namespace TokenAuthority

/-- An algorithm with its parameters. -/
structure AlgorithmId where
  name : ObjectId
  parameters : Option Der.Element := none
deriving DecidableEq, Repr

namespace AlgorithmId

/-- The algorithm that an element denotes. -/
def ofElement? (element : Der.Element) : Option AlgorithmId := do
  match ← element.parts? with
  | [name] => return { name := ← ObjectId.ofElement? name }
  | [name, parameters] => return { name := ← ObjectId.ofElement? name, parameters := some parameters }
  | _ => none

/-- The parameters are present and null. -/
def hasNullParameters (algorithm : AlgorithmId) : Bool :=
  algorithm.parameters == some ⟨Der.nullTag, []⟩

end AlgorithmId

/-- The private half of a key pair. -/
structure PrivateKeyInfo where
  version : Nat
  algorithm : AlgorithmId
  key : List UInt8
  /-- What follows the key. -/
  extensions : List Der.Element
deriving DecidableEq

namespace PrivateKeyInfo

/-- A tag that is told by its number, and does not stand for a primitive value. -/
def isNumbered (tag : UInt8) : Bool :=
  0xa0 ≤ tag && tag < 0xc0

/-- What follows a key is well formed, and holds a public key or not: attributes, which are not looked
at, then the public key, and then parts that each hold one element. -/
def holdsPublicKey? (extensions : List Der.Element) : Option Bool := do
  let isAttribute := fun (element : Der.Element) =>
    element.tag == Der.partTag false 0 || element.tag == Der.partTag true 0
  let rest := extensions.dropWhile isAttribute
  let areParts := fun (elements : List Der.Element) =>
    elements.all fun element => isNumbered element.tag && (Der.element? element.content).isSome
  match rest with
  | [] => some false
  | first :: others =>
    if first.tag % 32 = 1 ∧ 0x80 ≤ first.tag ∧ first.tag < 0xc0 then
      let _ ← first.wholeBits? (Der.partTag false 1)
      if areParts others then some true else none
    else if areParts rest then some false
    else none

/-- The private half that bytes denote. Version 1 holds a public key, and version 0 does not. -/
def ofDer? (bytes : List UInt8) : Option PrivateKeyInfo := do
  match ← (← Der.element? bytes).parts? with
  | version :: algorithm :: key :: extensions =>
    let version ← version.natural?
    let algorithm ← AlgorithmId.ofElement? algorithm
    let key ← key.octets?
    let holdsPublicKey ← holdsPublicKey? extensions
    if version = 0 ∧ !holdsPublicKey ∨ version = 1 ∧ holdsPublicKey then
      some { version, algorithm, key, extensions }
    else none
  | _ => none

end PrivateKeyInfo

/-- The public half of a key pair. -/
structure PublicKeyInfo where
  algorithm : AlgorithmId
  /-- How many bits of the last byte of the key are unused. -/
  unusedBits : Nat
  key : List UInt8
deriving DecidableEq, Repr

/-- The public half that bytes denote. -/
def PublicKeyInfo.ofDer? (bytes : List UInt8) : Option PublicKeyInfo := do
  match ← (← Der.element? bytes).parts? with
  | [algorithm, key] =>
    let algorithm ← AlgorithmId.ofElement? algorithm
    let (unusedBits, key) ← key.bits? Der.bitStringTag
    return { algorithm, unusedBits, key }
  | _ => none

end TokenAuthority
