/-!
# Binary64 numbers

Finite numbers of the IEEE 754 format with 53 significant bits, as exact
fractions: `mantissa * 2 ^ exponent` and a sign. Every operation is exact
arithmetic followed by one rounding to the nearest number, ties to the even
mantissa.
-/
namespace SnpTestbed

/-- A finite magnitude and its sign. The mantissa has 53 bits, or fewer at the least exponent. -/
structure Binary64 where
  negative : Bool
  mantissa : Nat
  exponent : Int
  deriving DecidableEq, Repr

namespace Binary64

/-- The exponent of the numbers closest to zero. -/
def leastExponent : Int := -1074

/-- The exponent of the largest numbers. -/
def greatestExponent : Int := 971

/-- Bits in a full mantissa. -/
def mantissaBits : Nat := 53

/-- A quotient rounded to the nearest whole number, ties to the even one. -/
def roundQuotient (numerator denominator : Nat) : Nat :=
  let quotient := numerator / denominator
  let doubled := 2 * (numerator % denominator)
  if doubled < denominator then quotient
  else if denominator < doubled then quotient + 1
  else if quotient % 2 = 0 then quotient else quotient + 1

/-- `value * 2 ^ exponent` as a fraction. -/
def scaled (value : Nat) (exponent : Int) : Nat × Nat :=
  if 0 ≤ exponent then (value * Nat.pow 2 exponent.toNat, 1)
  else (value, Nat.pow 2 (-exponent).toNat)

/-- The exponent at which a positive fraction has a full mantissa, or the least one. -/
def exponentFor (numerator denominator : Nat) : Int :=
  let guess : Int := (numerator.log2 : Int) - denominator.log2 - (mantissaBits : Int)
  let (up, down) := scaled denominator guess
  let exponent := if up * Nat.pow 2 mantissaBits ≤ numerator * down then guess + 1 else guess
  max exponent leastExponent

/-- The number closest to a fraction; none if it is too large. -/
def ofFraction? (negative : Bool) (numerator denominator : Nat) : Option Binary64 :=
  if numerator = 0 then some ⟨negative, 0, leastExponent⟩
  else
    let exponent := exponentFor numerator denominator
    let (up, down) := scaled denominator exponent
    let rounded := roundQuotient (numerator * down) up
    let result : Binary64 :=
      if rounded = Nat.pow 2 mantissaBits then
        ⟨negative, Nat.pow 2 (mantissaBits - 1), exponent + 1⟩
      else ⟨negative, rounded, exponent⟩
    if greatestExponent < result.exponent then none else some result

/-- The magnitude as a fraction. -/
def fraction (number : Binary64) : Nat × Nat := scaled number.mantissa number.exponent

/-- The product of a number with a fraction, rounded once. -/
def scaleBy? (number : Binary64) (numerator denominator : Nat) : Option Binary64 :=
  let (up, down) := number.fraction
  ofFraction? number.negative (up * numerator) (down * denominator)

/-- The number with the other sign, if so wanted. -/
def withSign (number : Binary64) (negative : Bool) : Binary64 := { number with negative }

end Binary64

end SnpTestbed
