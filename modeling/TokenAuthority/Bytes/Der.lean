import TokenAuthority.Bytes.BigEndian

/-!
# Distinguished encoding

The binary form of nested values in which keys are exchanged. Every element has a tag of one byte, a
length in as few bytes as possible, and a content. A value has one encoding only, and a sequence is the
encodings of its parts with nothing left over.
-/

namespace TokenAuthority
namespace Der

/-- An element: a tag and a content. -/
structure Element where
  tag : UInt8
  content : List UInt8
deriving DecidableEq, Repr, Inhabited

def integerTag : UInt8 := 0x02
def bitStringTag : UInt8 := 0x03
def octetStringTag : UInt8 := 0x04
def nullTag : UInt8 := 0x05
def objectIdTag : UInt8 := 0x06
def sequenceTag : UInt8 := 0x30

/-- The tag of a part that is told by its number. -/
def partTag (constructed : Bool) (number : UInt8) : UInt8 :=
  (if constructed then 0xa0 else 0x80) + number

/-- A tag of one byte: a known universal type, or any number below 31 in the other classes. -/
def isTag (tag : UInt8) : Bool :=
  if tag < 0x40 then
    [0x01, 0x02, 0x03, 0x04, 0x05, 0x06, 0x09, 0x0a, 0x0c, 0x12, 0x13, 0x14, 0x15, 0x16, 0x17, 0x18,
      0x1a, 0x1b, 0x1e, 0x30, 0x31].contains tag
  else tag % 32 != 31

/-- A length in as few bytes as possible, and what follows it. -/
def readLength? : List UInt8 → Option (Nat × List UInt8)
  | [] => none
  | first :: rest =>
    if first < 0x80 then some (first.toNat, rest)
    else
      let count := first.toNat - 0x80
      let length := BigEndian.toNat (rest.take count)
      if 1 ≤ count ∧ count ≤ 4 ∧ count ≤ rest.length ∧ 128 ≤ length ∧
          BigEndian.byteLength length = count then
        some (length, rest.drop count)
      else none

/-- The first element, and what follows it. -/
def readElement? : List UInt8 → Option (Element × List UInt8)
  | [] => none
  | tag :: rest => do
    let (length, rest) ← readLength? rest
    if isTag tag ∧ length ≤ rest.length then some (⟨tag, rest.take length⟩, rest.drop length) else none

/-- The elements that bytes consist of, at most `fuel` of them. -/
def readElements? : (fuel : Nat) → List UInt8 → Option (List Element)
  | _, [] => some []
  | 0, _ :: _ => none
  | fuel + 1, bytes => do
    let (element, rest) ← readElement? bytes
    let elements ← readElements? fuel rest
    return element :: elements

/-- The elements that bytes consist of. Every element takes at least two bytes. -/
def elements? (bytes : List UInt8) : Option (List Element) :=
  readElements? bytes.length bytes

/-- The only element that bytes consist of. -/
def element? (bytes : List UInt8) : Option Element :=
  match readElement? bytes with
  | some (element, []) => some element
  | _ => none

namespace Element

/-- The content of an element with the given tag. -/
def contentOf? (element : Element) (tag : UInt8) : Option (List UInt8) :=
  if element.tag = tag then some element.content else none

def parts? (element : Element) : Option (List Element) :=
  (element.contentOf? sequenceTag).bind elements?

def natural? (element : Element) : Option Nat := do
  match ← element.contentOf? integerTag with
  | [] => none
  | [byte] => if byte < 0x80 then some byte.toNat else none
  | first :: second :: rest =>
    if first < 0x80 ∧ (first ≠ 0 ∨ 0x80 ≤ second) then
      some (BigEndian.toNat (first :: second :: rest))
    else none

def octets? (element : Element) : Option (List UInt8) :=
  element.contentOf? octetStringTag

/-- The bits of a string of bits: how many bits of the last byte are unused, and the bytes. -/
def bits? (element : Element) (tag : UInt8) : Option (Nat × List UInt8) := do
  match ← element.contentOf? tag with
  | [] => none
  | unused :: bytes =>
    if unused ≤ 7 ∧ (unused = 0 ∨ bytes ≠ []) then some (unused.toNat, bytes) else none

/-- The bytes of a string of bits in which no bit is unused. -/
def wholeBits? (element : Element) (tag : UInt8) : Option (List UInt8) := do
  match ← element.bits? tag with
  | (0, bytes) => some bytes
  | _ => none

end Element
end Der
end TokenAuthority
