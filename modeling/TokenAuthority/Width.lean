/-!
# Integers of 64 bits

Which integers a signed or an unsigned word of 64 bits can hold. Texts may state any integer, so each
reader says with one of the two which of them it accepts.
-/

namespace TokenAuthority

/-- An integer that 64 bits with a sign can hold. -/
def IsSigned64 (value : Int) : Prop :=
  -9223372036854775808 ≤ value ∧ value < 9223372036854775808

instance : DecidablePred IsSigned64 :=
  fun value => inferInstanceAs (Decidable (-9223372036854775808 ≤ value ∧ value < 9223372036854775808))

/-- An integer that 64 bits without a sign can hold. -/
def IsUnsigned64 (value : Int) : Prop :=
  0 ≤ value ∧ value < 18446744073709551616

instance : DecidablePred IsUnsigned64 :=
  fun value => inferInstanceAs (Decidable (0 ≤ value ∧ value < 18446744073709551616))

end TokenAuthority
