import TokenAuthority.Bytes.BigEndian

/-!
# The SHA-2 family

Four hash functions on two sizes of words. A message is filled up to whole blocks, and the blocks are
absorbed one after the other into a state of eight words. The constants are not a table: they are the
leading fraction bits of square and cube roots of the first primes.
-/

namespace TokenAuthority
namespace Sha2

/-- The primes whose roots give the constants: the first eighty. A composite number below 410 has a divisor
up to 20. -/
def primes : List Nat :=
  (List.range 410).filter fun candidate =>
    2 ≤ candidate && (List.range 21).all fun divisor =>
      divisor < 2 || candidate ≤ divisor || candidate % divisor != 0

/-- The greatest number below 2^72 whose power does not exceed the value. -/
def root (degree value : Nat) : Nat :=
  (List.range 72).foldr (fun position found =>
    let larger := found + (1 <<< position)
    if Nat.pow larger degree ≤ value then larger else found) 0

/-- The first 64 bits after the point of a root. -/
def rootFraction (degree radicand : Nat) : Nat :=
  root degree (radicand <<< (degree * 64)) % UInt64.size

/-- A size of words, with the mixing functions on it. -/
class Word (α : Type) extends Add α, XorOp α, AndOp α, Complement α, Inhabited α where
  /-- How many bytes a word has. -/
  bytes : Nat
  ofNat : Nat → α
  toNat : α → Nat
  /-- The constants of the rounds. -/
  constants : List α
  /-- The mixing of the first word of a state. -/
  mixFirst : α → α
  /-- The mixing of the fifth word of a state. -/
  mixFifth : α → α
  /-- The mixing of the words fifteen back in a schedule. -/
  mixFar : α → α
  /-- The mixing of the words two back in a schedule. -/
  mixNear : α → α

/-- A word of 32 bits turned to the right. -/
@[inline] def turn32 (word amount : UInt32) : UInt32 :=
  (word >>> amount) ||| (word <<< (32 - amount))

/-- A word of 64 bits turned to the right. -/
@[inline] def turn64 (word amount : UInt64) : UInt64 :=
  (word >>> amount) ||| (word <<< (64 - amount))

/-- The constants of the rounds on words of 32 bits. -/
def constants32 : List UInt32 :=
  (primes.take 64).map fun prime => UInt32.ofNat (rootFraction 3 prime / UInt32.size)

/-- The constants of the rounds on words of 64 bits. -/
def constants64 : List UInt64 :=
  primes.map fun prime => UInt64.ofNat (rootFraction 3 prime)

instance : Word UInt32 where
  bytes := 4
  ofNat := UInt32.ofNat
  toNat := UInt32.toNat
  constants := constants32
  mixFirst word := turn32 word 2 ^^^ turn32 word 13 ^^^ turn32 word 22
  mixFifth word := turn32 word 6 ^^^ turn32 word 11 ^^^ turn32 word 25
  mixFar word := turn32 word 7 ^^^ turn32 word 18 ^^^ (word >>> 3)
  mixNear word := turn32 word 17 ^^^ turn32 word 19 ^^^ (word >>> 10)

instance : Word UInt64 where
  bytes := 8
  ofNat := UInt64.ofNat
  toNat := UInt64.toNat
  constants := constants64
  mixFirst word := turn64 word 28 ^^^ turn64 word 34 ^^^ turn64 word 39
  mixFifth word := turn64 word 14 ^^^ turn64 word 18 ^^^ turn64 word 41
  mixFar word := turn64 word 1 ^^^ turn64 word 8 ^^^ (word >>> 7)
  mixNear word := turn64 word 19 ^^^ turn64 word 61 ^^^ (word >>> 6)

/-- Eight words. -/
structure State (α : Type) where
  first : α
  second : α
  third : α
  fourth : α
  fifth : α
  sixth : α
  seventh : α
  eighth : α
deriving Inhabited

section

variable {α : Type} [Word α]

/-- The words of a state, from left to right. -/
def State.words (state : State α) : List α :=
  [state.first, state.second, state.third, state.fourth, state.fifth, state.sixth, state.seventh,
    state.eighth]

/-- The state with the given words. -/
def State.ofWords : List α → State α
  | [first, second, third, fourth, fifth, sixth, seventh, eighth] =>
    ⟨first, second, third, fourth, fifth, sixth, seventh, eighth⟩
  | _ => default

/-- One word for each round: those of the block, and then mixtures of earlier ones. They are collected with
the latest in front. -/
@[specialize] def schedule (block : List α) : List α :=
  ((List.range ((Word.constants : List α).length - 16)).foldl (fun words _ =>
    (Word.mixNear (words.getD 1 default) + words.getD 6 default + Word.mixFar (words.getD 14 default) +
      words.getD 15 default) :: words) block.reverse).reverse

/-- One round, with the sum of its constant and its scheduled word. -/
@[specialize] def round (state : State α) (addend : α) : State α :=
  let choice := (state.fifth &&& state.sixth) ^^^ (~~~state.fifth &&& state.seventh)
  let majority := (state.first &&& state.second) ^^^ (state.first &&& state.third) ^^^
    (state.second &&& state.third)
  let push := state.eighth + Word.mixFifth state.fifth + choice + addend
  { first := push + Word.mixFirst state.first + majority
    second := state.first
    third := state.second
    fourth := state.third
    fifth := state.fourth + push
    sixth := state.fifth
    seventh := state.sixth
    eighth := state.seventh }

/-- Absorbs one block. -/
@[specialize] def absorb (state : State α) (block : List UInt8) : State α :=
  let words := (BigEndian.pieces (Word.bytes α) block).map fun piece =>
    (Word.ofNat (BigEndian.toNat piece) : α)
  let addends := List.zipWith (· + ·) (Word.constants : List α) (schedule words)
  let mixed := addends.foldl round state
  { first := state.first + mixed.first
    second := state.second + mixed.second
    third := state.third + mixed.third
    fourth := state.fourth + mixed.fourth
    fifth := state.fifth + mixed.fifth
    sixth := state.sixth + mixed.sixth
    seventh := state.seventh + mixed.seventh
    eighth := state.eighth + mixed.eighth }

/-- Absorbs whole blocks. -/
@[specialize] def absorbAll (state : State α) (bytes : List UInt8) : State α :=
  (BigEndian.pieces (16 * Word.bytes α) bytes).foldl absorb state

/-- What fills a message of the given length up to whole blocks: a single bit, zeros, and the length in
bits in two words. -/
def filling (wordBytes length : Nat) : List UInt8 :=
  let block := 16 * wordBytes
  let zeros := (block - (length + 1 + 2 * wordBytes) % block) % block
  0x80 :: List.replicate zeros 0 ++ BigEndian.fixed (2 * wordBytes) (8 * length)

/-- The bytes of the state after the rest of a message, of which whole blocks of `absorbed` bytes are
absorbed. -/
@[specialize] def finish (state : State α) (absorbed : Nat) (message : List UInt8) : List UInt8 :=
  let last := absorbAll state (message ++ filling (Word.bytes α) (absorbed + message.length))
  last.words.flatMap fun word => BigEndian.fixed (Word.bytes α) (Word.toNat word)

end

/-- The state before the first block, from the square roots of eight primes. -/
def start384 : State UInt64 :=
  State.ofWords (((primes.drop 8).take 8).map fun prime => UInt64.ofNat (rootFraction 2 prime))

/-- The state before the first block, from the square roots of eight primes. -/
def start512 : State UInt64 :=
  State.ofWords ((primes.take 8).map fun prime => UInt64.ofNat (rootFraction 2 prime))

/-- The state before the first block, from the later bits of the square roots of eight primes. -/
def start224 : State UInt32 :=
  State.ofWords (((primes.drop 8).take 8).map fun prime => UInt32.ofNat (rootFraction 2 prime))

/-- The state before the first block, from the square roots of eight primes. -/
def start256 : State UInt32 :=
  State.ofWords ((primes.take 8).map fun prime => UInt32.ofNat (rootFraction 2 prime / UInt32.size))

end Sha2
end TokenAuthority
