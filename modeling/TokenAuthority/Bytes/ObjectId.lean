import TokenAuthority.Bytes.Der

/-!
# Registered names

Algorithms and curves are named by a path of numbers from the root of a registry. The first two numbers
share one byte; every other number is written in base 128, where all bytes but the last of a number have
their high bit set. Two names are the same when their bytes are.
-/

namespace TokenAuthority

/-- A registered name, by its bytes. -/
structure ObjectId where
  content : List UInt8
deriving DecidableEq, Repr, Inhabited

namespace ObjectId

/-- The digits of a number in base 128, the high bit set on all of them, in front of `after`. -/
def highDigits : (fuel value : Nat) → (after : List UInt8) → List UInt8
  | 0, _, after => after
  | fuel + 1, value, after =>
    if value = 0 then after
    else highDigits fuel (value / 128) (UInt8.ofNat (128 + value % 128) :: after)

/-- The name at the end of a path of numbers. -/
def ofArcs : List Nat → ObjectId
  | first :: second :: arcs =>
    ⟨UInt8.ofNat (first * 40 + second) :: arcs.flatMap fun arc =>
      highDigits 4 (arc / 128) [UInt8.ofNat (arc % 128)]⟩
  | _ => ⟨[]⟩

/-- The numbers that bytes denote, where `pending` holds the count and the value of the digits read of an
unfinished number. A number has at most five digits, of which a fifth is below 16, and counts modulo
2^32. -/
def readArcs? : (pending : Nat × Nat) → List UInt8 → Option (List Nat)
  | (count, _), [] => if count = 0 then some [] else none
  | (count, value), digit :: rest =>
    if count = 4 ∧ 16 ≤ digit then none
    else
      let value := (value * 128 + digit.toNat % 128) % UInt32.size
      if digit < 128 then (readArcs? (0, 0) rest).map (value :: ·)
      else readArcs? (count + 1, value) rest

/-- The path of numbers that leads to the name. -/
def arcs? (name : ObjectId) : Option (List Nat) :=
  match name.content with
  | [] => none
  | first :: rest =>
    if first < 120 then
      (readArcs? (0, 0) rest).map fun arcs => first.toNat / 40 :: first.toNat % 40 :: arcs
    else none

/-- The name that an element holds. It takes 3 to 39 bytes. -/
def ofElement? (element : Der.Element) : Option ObjectId := do
  let name : ObjectId := ⟨← element.contentOf? Der.objectIdTag⟩
  let _ ← name.arcs?
  if 3 ≤ name.content.length ∧ name.content.length ≤ 39 then some name else none

def text (name : ObjectId) : String :=
  ".".intercalate ((name.arcs?.getD []).map fun arc => toString arc)

end ObjectId
end TokenAuthority
