import SnpTestbed.Number.Binary64

/-!
# Shortest decimal text

The decimal text of a number has as few digits as still read back as the same
number, and of the candidates with that many digits the closest. A number reads
back from every decimal in its rounding interval, whose ends belong to it
exactly if its mantissa is even.
-/
namespace SnpTestbed.Binary64

/-- Digits and the power of ten of the last one. -/
structure Decimal where
  digits : Nat
  power : Int
  deriving DecidableEq, Repr

/-- `value * 10 ^ power` as a fraction. -/
def powered (value : Nat) (power : Int) : Nat × Nat :=
  if 0 ≤ power then (value * Nat.pow 10 power.toNat, 1)
  else (value, Nat.pow 10 (-power).toNat)

/-- How many quarters of a unit of the last place the interval reaches below the number. -/
def quartersBelow (number : Binary64) : Nat :=
  if number.mantissa = Nat.pow 2 (mantissaBits - 1) ∧ leastExponent < number.exponent then 1 else 2

/-- Whether a decimal lies in the rounding interval of a positive number. -/
def readsBack (number : Binary64) (decimal : Decimal) : Bool :=
  let (up, down) := powered decimal.digits decimal.power
  let (unitUp, unitDown) := scaled 1 number.exponent
  let value := 4 * up * unitDown
  let unit := unitUp * down
  let low := (4 * number.mantissa - quartersBelow number) * unit
  let high := (4 * number.mantissa + 2) * unit
  if number.mantissa % 2 = 0 then low ≤ value && value ≤ high else low < value && value < high

/-- The greatest power of ten not above a positive fraction, searched for downwards. -/
def magnitude (numerator denominator : Nat) : (fuel : Nat) → (power : Int) → Int
  | 0, power => power
  | fuel + 1, power =>
    let (up, down) := powered 1 power
    if up * denominator ≤ numerator * down then power
    else magnitude numerator denominator fuel (power - 1)

/-- The power of ten of the first digit of a positive number. -/
def leadingPower (number : Binary64) : Int :=
  let (up, down) := number.fraction
  magnitude up down 640 309

/-- The decimal of a positive number on the grid of one power of ten, if one reads back: of its two
neighbours the closer one, the even one if neither is closer. -/
def onGrid? (number : Binary64) (power : Int) : Option Decimal :=
  let (up, down) := number.fraction
  let (gridUp, gridDown) := powered 1 power
  let numerator := up * gridDown
  let denominator := down * gridUp
  let below : Decimal := ⟨numerator / denominator, power⟩
  let above : Decimal := ⟨numerator / denominator + 1, power⟩
  let nearest : Decimal := ⟨roundQuotient numerator denominator, power⟩
  if readsBack number nearest then some nearest
  else if readsBack number below then some below
  else if readsBack number above then some above
  else none

/-- The first decimal that reads back among those of `count`, `count + 1`, … digits. -/
def shortestFrom (number : Binary64) (leading : Int) : (fuel : Nat) → (count : Nat) → Decimal
  | 0, _ => ⟨number.mantissa, 0⟩
  | fuel + 1, count =>
    (onGrid? number (leading + 1 - count)).getD (shortestFrom number leading fuel (count + 1))

/-- A decimal without zeros at its end. -/
def Decimal.trim : (fuel : Nat) → Decimal → Decimal
  | 0, decimal => decimal
  | fuel + 1, decimal =>
    if decimal.digits ≠ 0 ∧ decimal.digits % 10 = 0 then
      trim fuel ⟨decimal.digits / 10, decimal.power + 1⟩
    else decimal

/-- The shortest decimal of a positive number; seventeen digits always suffice. -/
def shortest (number : Binary64) : Decimal :=
  (shortestFrom number number.leadingPower 17 1).trim 18

/-- How decimals are written: the powers of ten of a first digit that are written positionally. All
others get an exponent with its sign. -/
structure Style where
  leastPositional : Int
  greatestPositional : Int

/-- Digits with a point behind the first `count` of them, at least one digit on either side. -/
def pointed (digits : List Char) (count : Nat) : List Char :=
  let whole := digits.take count ++ List.replicate (count - digits.length) '0'
  let rest := digits.drop count
  whole ++ '.' :: (if rest = [] then ['0'] else rest)

/-- A decimal in a style. -/
def Decimal.text (style : Style) (decimal : Decimal) : List Char :=
  let digits := Nat.toDigits 10 decimal.digits
  let leading := decimal.power + (digits.length : Int) - 1
  if style.leastPositional ≤ leading ∧ leading ≤ style.greatestPositional then
    if 0 ≤ leading then pointed digits (leading.toNat + 1)
    else '0' :: '.' :: (List.replicate ((-leading).toNat - 1) '0' ++ digits)
  else
    let fraction := digits.drop 1
    digits.take 1 ++ (if fraction = [] then [] else '.' :: fraction) ++
      'e' :: (if leading < 0 then '-' else '+') :: Nat.toDigits 10 leading.natAbs

/-- The shortest text of a number in a style. -/
def text (style : Style) (number : Binary64) : String :=
  let magnitude := if number.mantissa = 0 then "0.0".toList else (shortest number).text style
  String.ofList (if number.negative then '-' :: magnitude else magnitude)

end SnpTestbed.Binary64
