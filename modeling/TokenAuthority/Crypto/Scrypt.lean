import TokenAuthority.Crypto.Hash

/-!
# Password keys that cost memory

A key is made of a password in three steps. Codes under the password give blocks; each block is mixed on a
walk through the table that it fills first; and codes under the password over the mixed blocks give the
key. A block is mixed by eight rounds of Salsa20, one square of words after the other.
-/

namespace TokenAuthority
namespace Scrypt

/-- Four words. -/
structure Row where
  first : UInt32
  second : UInt32
  third : UInt32
  fourth : UInt32
deriving DecidableEq, Repr, Inhabited

/-- Four rows of words. -/
structure Square where
  first : Row
  second : Row
  third : Row
  fourth : Row
deriving DecidableEq, Repr, Inhabited

/-- A word turned to the left. -/
@[inline] def turn (word amount : UInt32) : UInt32 :=
  (word <<< amount) ||| (word >>> (32 - amount))

/-- The word at a place among bytes, the least significant byte first. -/
def wordAt (bytes : List UInt8) (place : Nat) : UInt32 :=
  UInt32.ofNat (BigEndian.toNat ((bytes.drop (4 * place)).take 4).reverse)

namespace Row

/-- Each word is changed by the sum of two others, as those are by then. -/
def mix (row : Row) : Row :=
  let second := row.second ^^^ turn (row.first + row.fourth) 7
  let third := row.third ^^^ turn (second + row.first) 9
  let fourth := row.fourth ^^^ turn (third + second) 13
  let first := row.first ^^^ turn (fourth + third) 18
  ⟨first, second, third, fourth⟩

/-- The row that starts with the second word. -/
def rotate (row : Row) : Row :=
  ⟨row.second, row.third, row.fourth, row.first⟩

def xor (left right : Row) : Row :=
  ⟨left.first ^^^ right.first, left.second ^^^ right.second, left.third ^^^ right.third,
    left.fourth ^^^ right.fourth⟩

def add (left right : Row) : Row :=
  ⟨left.first + right.first, left.second + right.second, left.third + right.third,
    left.fourth + right.fourth⟩

def ofBytes (bytes : List UInt8) : Row :=
  ⟨wordAt bytes 0, wordAt bytes 1, wordAt bytes 2, wordAt bytes 3⟩

def toBytes (row : Row) : List UInt8 :=
  [row.first, row.second, row.third, row.fourth].flatMap fun word =>
    (BigEndian.fixed 4 word.toNat).reverse

end Row

namespace Square

def xor (left right : Square) : Square :=
  ⟨left.first.xor right.first, left.second.xor right.second, left.third.xor right.third,
    left.fourth.xor right.fourth⟩

def add (left right : Square) : Square :=
  ⟨left.first.add right.first, left.second.add right.second, left.third.add right.third,
    left.fourth.add right.fourth⟩

/-- Rows become columns. -/
def transpose (square : Square) : Square :=
  ⟨⟨square.first.first, square.second.first, square.third.first, square.fourth.first⟩,
    ⟨square.first.second, square.second.second, square.third.second, square.fourth.second⟩,
    ⟨square.first.third, square.second.third, square.third.third, square.fourth.third⟩,
    ⟨square.first.fourth, square.second.fourth, square.third.fourth, square.fourth.fourth⟩⟩

/-- Each row is mixed, starting with its word on the diagonal. -/
def mixRows (square : Square) : Square :=
  ⟨square.first.mix, square.second.rotate.mix.rotate.rotate.rotate,
    square.third.rotate.rotate.mix.rotate.rotate, square.fourth.rotate.rotate.rotate.mix.rotate⟩

/-- Eight rounds, on columns and rows by turns, and the addition of what was there before. -/
def hash (square : Square) : Square :=
  let mixed := (List.range 8).foldl (fun square _ => square.mixRows.transpose) square.transpose
  mixed.transpose.add square

def ofBytes (bytes : List UInt8) : Square :=
  ⟨Row.ofBytes bytes, Row.ofBytes (bytes.drop 16), Row.ofBytes (bytes.drop 32),
    Row.ofBytes (bytes.drop 48)⟩

def toBytes (square : Square) : List UInt8 :=
  square.first.toBytes ++ square.second.toBytes ++ square.third.toBytes ++ square.fourth.toBytes

end Square

/-- A block is mixed square by square, each with the one before it and the first with the last. The squares
at even places then go before the others. -/
def mixBlock (block : List Square) : List Square :=
  let (_, evens, odds) := block.foldl (fun (last, these, others) square =>
    let next := (last.xor square).hash
    (next, others, next :: these)) (block.getLastD default, [], [])
  evens.reverse ++ odds.reverse

/-- The number that the last square of a block starts with. -/
def index (block : List Square) : Nat :=
  let row := (block.getLastD default).first
  row.second.toNat * UInt32.size + row.first.toNat

/-- Fills a table with a block and what it becomes, then mixes what it became last with the entry to which
it points, as often as there are entries. -/
def walk (cost : Nat) (block : List Square) : List Square :=
  let (table, block) := (List.range cost).foldl (fun (table, block) _ =>
    (table.push block, mixBlock block)) ((#[] : Array (List Square)), block)
  (List.range cost).foldl (fun block _ =>
    mixBlock (List.zipWith Square.xor block (table.getD (index block % cost) []))) block

/-- The key of the given length that a password and a salt give with tables of `cost` entries, blocks of
`size` pairs of squares, and so many `lanes` of blocks. -/
def passwordKey (password salt : List UInt8) (cost size lanes length : Nat) : List UInt8 :=
  let bytes := Hash.sha256.passwordKey password salt 1 (lanes * (128 * size))
  let mixed := (BigEndian.pieces (128 * size) bytes).flatMap fun block =>
    (walk cost ((BigEndian.pieces 64 block).map Square.ofBytes)).flatMap Square.toBytes
  Hash.sha256.passwordKey password mixed 1 length

end Scrypt
end TokenAuthority
