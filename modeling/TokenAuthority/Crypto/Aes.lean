import TokenAuthority.Bytes.BigEndian

/-!
# Decryption under AES

A block of sixteen bytes is decrypted round by round with the keys of the rounds in reverse, and a
message block by block, where each block is also added to the one before it. Bytes are elements of the
field with 256 elements; the substitution is inversion in that field followed by an affine map. The last
block says by its last byte how many bytes fill it up.
-/

namespace TokenAuthority
namespace Aes

/-- A field element times the indeterminate. -/
def timesX (element : UInt8) : UInt8 :=
  (element <<< 1) ^^^ (if element < 0x80 then 0 else 0x1b)

/-- The product of two field elements. -/
def times (left right : UInt8) : UInt8 :=
  ((List.range 8).foldl (fun (product, power) position =>
    let product := if right.toNat.testBit position then product ^^^ power else product
    (product, timesX power)) ((0 : UInt8), left)).1

/-- Every byte, from zero on. -/
def allBytes : List UInt8 :=
  (List.range 256).map UInt8.ofNat

/-- The inverse of a field element; that of zero is zero. -/
def inverse (element : UInt8) : UInt8 :=
  (allBytes.find? fun other => times element other == 1).getD 0

/-- A byte turned to the left. -/
def turn (byte amount : UInt8) : UInt8 :=
  (byte <<< amount) ||| (byte >>> (8 - amount))

/-- What the affine map makes of an inverse. -/
def affine (byte : UInt8) : UInt8 :=
  byte ^^^ turn byte 1 ^^^ turn byte 2 ^^^ turn byte 3 ^^^ turn byte 4 ^^^ 0x63

/-- The substitution, byte by byte. -/
def substitutes : Array UInt8 :=
  (allBytes.map fun byte => affine (inverse byte)).toArray

/-- What the substitution makes of a byte. -/
def substitute (byte : UInt8) : UInt8 :=
  substitutes.getD byte.toNat 0

/-- The inverse of the substitution, byte by byte. -/
def originals : Array UInt8 :=
  (List.range 256).foldl (fun originals value =>
    originals.setIfInBounds (substitute (UInt8.ofNat value)).toNat (UInt8.ofNat value))
    (Array.replicate 256 0)

/-- The multiples of a field element, byte by byte. -/
def multiples (factor : UInt8) : Array UInt8 :=
  (allBytes.map fun byte => times byte factor).toArray

/-- The multiples that mixing columns backwards takes. -/
def multiples9 : Array UInt8 := multiples 9
@[inherit_doc multiples9] def multiples11 : Array UInt8 := multiples 11
@[inherit_doc multiples9] def multiples13 : Array UInt8 := multiples 13
@[inherit_doc multiples9] def multiples14 : Array UInt8 := multiples 14

/-- The sum of bytes, place by place. -/
def sum (left right : List UInt8) : List UInt8 :=
  List.zipWith (· ^^^ ·) left right

/-- The words of the round keys, the latest first: those of the key, and then sums of the word one key
length back and of the latest word, which is substituted at every multiple of the key length. -/
def expand (keyWords : Nat) (words : List (List UInt8)) (index : Nat) (constant : UInt8) :
    List (List UInt8) :=
  let latest := words.headD []
  let mixed :=
    if index % keyWords = 0 then
      sum ((latest.drop 1 ++ latest.take 1).map substitute) [constant, 0, 0, 0]
    else if 6 < keyWords ∧ index % keyWords = 4 then latest.map substitute
    else latest
  sum (words.getD (keyWords - 1) []) mixed :: words

/-- The keys of the rounds, from the last to the first. -/
def roundKeys (key : List UInt8) : List (List UInt8) :=
  let words := BigEndian.pieces 4 key
  let keyWords := words.length
  let total := 4 * (keyWords + 7)
  let expanded := ((List.range (total - keyWords)).foldl (fun (words, constant) step =>
    let index := keyWords + step
    let next := expand keyWords words index constant
    (next, if index % keyWords = 0 then timesX constant else constant)) (words.reverse, (1 : UInt8))).1
  (BigEndian.pieces 4 expanded).map fun words => words.reverse.flatten

/-- The places from which turning the rows back takes the bytes of a block. -/
def rowPlaces : List Nat :=
  [0, 13, 10, 7, 4, 1, 14, 11, 8, 5, 2, 15, 12, 9, 6, 3]

/-- Turns the rows back and substitutes backwards. -/
def restoreRows (block : List UInt8) : List UInt8 :=
  let bytes := block.toArray
  rowPlaces.map fun place => originals.getD (bytes.getD place 0).toNat 0

/-- Mixes the columns backwards. -/
def restoreColumns : List UInt8 → List UInt8
  | a :: b :: c :: d :: rest =>
    let by9 := fun (byte : UInt8) => multiples9.getD byte.toNat 0
    let by11 := fun (byte : UInt8) => multiples11.getD byte.toNat 0
    let by13 := fun (byte : UInt8) => multiples13.getD byte.toNat 0
    let by14 := fun (byte : UInt8) => multiples14.getD byte.toNat 0
    (by14 a ^^^ by11 b ^^^ by13 c ^^^ by9 d) :: (by9 a ^^^ by14 b ^^^ by11 c ^^^ by13 d) ::
      (by13 a ^^^ by9 b ^^^ by14 c ^^^ by11 d) :: (by11 a ^^^ by13 b ^^^ by9 c ^^^ by14 d) ::
      restoreColumns rest
  | _ => []

/-- Undoes the rounds before the last one, and the addition of the first key. -/
def undoRounds : (keys : List (List UInt8)) → (block : List UInt8) → List UInt8
  | [], block => block
  | [first], block => sum (restoreRows block) first
  | key :: keys, block => undoRounds keys (restoreColumns (sum (restoreRows block) key))

/-- Decrypts one block with the keys of the rounds, from the last to the first. -/
def decryptBlock (keys : List (List UInt8)) (block : List UInt8) : List UInt8 :=
  match keys with
  | [] => block
  | last :: keys => undoRounds keys (sum block last)

/-- Decrypts blocks, each of which was added to the one before it. -/
def decryptChain (keys : List (List UInt8)) : (before : List UInt8) → List (List UInt8) → List UInt8
  | _, [] => []
  | before, block :: blocks =>
    sum (decryptBlock keys block) before ++ decryptChain keys block blocks

/-- Takes away what fills up the last block: as many bytes as the last byte says, all equal to it. -/
def unfill? (bytes : List UInt8) : Option (List UInt8) :=
  match bytes.getLast? with
  | none => none
  | some last =>
    let count := last.toNat
    let kept := bytes.length - count
    if 1 ≤ count ∧ count ≤ 16 ∧ (bytes.drop kept).all (· == last) then some (bytes.take kept) else none

/-- Decrypts a chained message of whole blocks that is filled up. -/
def decrypt? (key start message : List UInt8) : Option (List UInt8) :=
  if message ≠ [] ∧ message.length % 16 = 0 then
    unfill? (decryptChain (roundKeys key) start (BigEndian.pieces 16 message))
  else none

end Aes
end TokenAuthority
