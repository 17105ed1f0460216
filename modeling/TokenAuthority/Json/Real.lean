/-!
# Numbers that are not integers

A number with a fraction or an exponent denotes a binary64 value, kept as its bits. Reading takes the
decimal significand and exponent apart, and rounds the significand and the scaled result; writing gives
the fewest significant digits that still round to the value, the nearest such decimal if there are two.
-/

namespace TokenAuthority
namespace Json
namespace Real

/-- The power of ten with the given exponent, rounded to binary64. -/
def powerOfTen (exponent : Nat) : Float :=
  Float.ofScientific 1 false exponent

/-- Scales by a power of ten, dividing in steps where the exponent is too low for one division. The
result is infinite when the value is too large. -/
def scaleByTen (value : Float) (exponent : Int) : Nat → Float
  | 0 => 0
  | fuel + 1 =>
    if 0 ≤ exponent then
      if value == 0 then value
      else if exponent ≤ 308 then value * powerOfTen exponent.toNat
      else 1 / 0
    else if -308 ≤ exponent then value / powerOfTen exponent.natAbs
    else if value == 0 then value
    else scaleByTen (value / powerOfTen 308) (exponent + 308) fuel

/-- The bits of `significand * 10 ^ exponent`, unless that is beyond the finite range. A significand
below 2^64 is rounded once and the scaled value once more. -/
def ofDecimal? (negative : Bool) (significand : Nat) (exponent : Int) : Option UInt64 :=
  let magnitude := scaleByTen (UInt64.ofNat significand).toFloat exponent
    (exponent.natAbs / 308 + 2)
  if magnitude.isFinite then
    some (if negative then (-magnitude).toBits else magnitude.toBits)
  else none

/-- A positive rational number. -/
structure Ratio where
  numerator : Nat
  denominator : Nat

namespace Ratio

def lt (left right : Ratio) : Bool :=
  left.numerator * right.denominator < right.numerator * left.denominator

def le (left right : Ratio) : Bool :=
  !right.lt left

/-- `factor * 2 ^ exponent`. -/
def binary (factor : Nat) (exponent : Int) : Ratio :=
  if 0 ≤ exponent then ⟨factor <<< exponent.toNat, 1⟩ else ⟨factor, 1 <<< exponent.natAbs⟩

/-- `factor * 10 ^ exponent`. -/
def decimal (factor : Nat) (exponent : Int) : Ratio :=
  if 0 ≤ exponent then ⟨factor * Nat.pow 10 exponent.toNat, 1⟩
  else ⟨factor, Nat.pow 10 exponent.natAbs⟩

/-- The largest exponent, at least `start - fuel`, whose power of ten does not exceed the value. -/
def exponentOfTen (value : Ratio) (start : Int) : Nat → Int
  | 0 => start
  | fuel + 1 =>
    if (decimal 1 start).le value then start else exponentOfTen value (start - 1) fuel

end Ratio

/-- The value of a magnitude's bits and the two ends of the interval that rounds to it. -/
structure Rounding where
  value : Ratio
  lower : Ratio
  upper : Ratio
  closed : Bool

/-- The weight of the leading bit of a significand, two to the 52nd. -/
def leadingBit : Nat := 0x10000000000000

/-- The weight of the bit for the sign, two to the 63rd. -/
def signBit : Nat := 0x8000000000000000

/-- The interval of the positive finite value with the given bits. -/
def rounding (magnitude : Nat) : Rounding :=
  let fraction : Nat := magnitude % leadingBit
  let biased : Nat := magnitude / leadingBit
  let significand := if biased = 0 then fraction else fraction + leadingBit
  let exponent : Int := (if biased = 0 then 1 else (biased : Int)) - 1075 - 2
  let below := if fraction = 0 ∧ 1 < biased then 1 else 2
  { value := .binary (4 * significand) exponent
    lower := .binary (4 * significand - below) exponent
    upper := .binary (4 * significand + 2) exponent
    closed := significand % 2 == 0 }

namespace Rounding

/-- The decimal lies in the interval. -/
def contains (interval : Rounding) (candidate : Ratio) : Bool :=
  if interval.closed then interval.lower.le candidate && candidate.le interval.upper
  else interval.lower.lt candidate && candidate.lt interval.upper

/-- The multiple of a power of ten in the interval that is nearest to its value, if there is one: of
two at the same distance, the even one. -/
def onGrid? (interval : Rounding) (exponent : Int) : Option Nat :=
  let unit := Ratio.decimal 1 exponent
  let scaled := interval.value.numerator * unit.denominator
  let step := interval.value.denominator * unit.numerator
  let low := scaled / step
  let remainder := scaled % step
  let lowFits := interval.contains (.decimal low exponent)
  let highFits := interval.contains (.decimal (low + 1) exponent)
  if lowFits && highFits then
    some (if 2 * remainder < step || (2 * remainder == step && low % 2 == 0) then low else low + 1)
  else if lowFits then some low
  else if highFits then some (low + 1)
  else none

/-- The significand and exponent with the fewest digits in the interval, tried from `digits` on. -/
def shortestFrom (interval : Rounding) (leading : Int) (digits : Nat) : Nat → Nat × Int
  | 0 => (0, 0)
  | fuel + 1 =>
    match interval.onGrid? (leading - digits + 1) with
    | some significand => (significand, leading - digits + 1)
    | none => shortestFrom interval leading (digits + 1) fuel

end Rounding

/-- The shortest decimal of a positive finite value. -/
def shortest (magnitude : Nat) : Nat × Int :=
  let interval := rounding magnitude
  interval.shortestFrom (interval.value.exponentOfTen 309 700) 1 18

/-- Takes the zeros off the end of a significand. -/
def withoutTrailingZeros (significand : Nat) (exponent : Int) : Nat → Nat × Int
  | 0 => (significand, exponent)
  | fuel + 1 =>
    if significand % 10 = 0 ∧ significand ≠ 0 then
      withoutTrailingZeros (significand / 10) (exponent + 1) fuel
    else (significand, exponent)

/-- Digits with a point: positional while the point stands at most 16 digits after the first one and at
most 5 before it, in scientific form otherwise. -/
def place (digits : List Char) (exponent : Int) : List Char :=
  let point : Int := digits.length + exponent
  if 0 ≤ exponent ∧ point ≤ 16 then
    digits ++ List.replicate exponent.toNat '0' ++ ['.', '0']
  else if 0 < point ∧ point ≤ 16 then
    digits.take point.toNat ++ '.' :: digits.drop point.toNat
  else if -5 < point ∧ point ≤ 0 then
    ['0', '.'] ++ List.replicate point.natAbs '0' ++ digits
  else
    let scale := (toString (point - 1)).toList
    match digits with
    | [digit] => digit :: 'e' :: scale
    | digit :: rest => digit :: '.' :: rest ++ 'e' :: scale
    | [] => []

/-- The text of the value with the given bits; `null` where the value is not finite. -/
def text (bits : UInt64) : List Char :=
  let negative := signBit ≤ bits.toNat
  let magnitude := bits.toNat % signBit
  if 2047 ≤ magnitude / leadingBit then "null".toList
  else
    let positional :=
      if magnitude = 0 then "0.0".toList
      else
        let (significand, exponent) := shortest magnitude
        let (significand, exponent) := withoutTrailingZeros significand exponent 20
        place (toString significand).toList exponent
    if negative then '-' :: positional else positional

end Real
end Json
end TokenAuthority
