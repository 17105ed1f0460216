/-!
# Arithmetic modulo a number

Powers by repeated squaring, and inverses by the extended algorithm of Euclid.
-/

namespace TokenAuthority
namespace Modular

/-- A power modulo a number. The exponent's bits are taken from the highest to the lowest. -/
def power (base exponent modulus : Nat) : Nat :=
  (List.range (exponent.log2 + 1)).foldr (fun position result =>
    let square := result * result % modulus
    if exponent.testBit position then square * base % modulus else square) (1 % modulus)

/-- The coefficient that belongs to the greatest common divisor, where `value` is congruent to
`coefficient` and `next` to `nextCoefficient` times one number, given the divisor. -/
def euclid : (fuel : Nat) → (value next : Nat) → (coefficient nextCoefficient : Int) → Nat × Int
  | 0, value, _, coefficient, _ => (value, coefficient)
  | fuel + 1, value, next, coefficient, nextCoefficient =>
    if next = 0 then (value, coefficient)
    else
      euclid fuel next (value % next) nextCoefficient
        (coefficient - (value / next : Nat) * nextCoefficient)

/-- The inverse of a value modulo a number, or zero if there is none. Every second step halves the
remainders, so twice the number of bits is enough of them. -/
def inverse (value modulus : Nat) : Nat :=
  let (divisor, coefficient) := euclid (2 * (modulus.log2 + 2)) modulus (value % modulus) 0 1
  if divisor = 1 then (coefficient % modulus).toNat else 0

end Modular
end TokenAuthority
