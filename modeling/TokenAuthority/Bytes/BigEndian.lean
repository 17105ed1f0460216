/-!
# Numbers as bytes

Natural numbers written in base 256 with the most significant byte first, either in a fixed number of
bytes or in as few as possible, and lists of bytes cut into pieces of one size.
-/

namespace TokenAuthority
namespace BigEndian

/-- The number that bytes denote. -/
def toNat (bytes : List UInt8) : Nat :=
  bytes.foldl (fun value byte => 256 * value + byte.toNat) 0

/-- The last `width` bytes of a number. -/
def fixed : (width value : Nat) → List UInt8
  | 0, _ => []
  | width + 1, value => fixed width (value / 256) ++ [UInt8.ofNat (value % 256)]

/-- How many bits a number has: none for zero. -/
def bitLength (value : Nat) : Nat :=
  if value = 0 then 0 else value.log2 + 1

/-- How many bytes a number has: none for zero. -/
def byteLength (value : Nat) : Nat :=
  (bitLength value + 7) / 8

/-- A number in as few bytes as possible. -/
def minimal (value : Nat) : List UInt8 :=
  fixed (byteLength value) value

/-- The whole pieces of `size` items, from left to right. -/
def pieces {α : Type} (size : Nat) (items : List α) : List (List α) :=
  (List.range (items.length / size)).map fun index => (items.drop (index * size)).take size

end BigEndian
end TokenAuthority
