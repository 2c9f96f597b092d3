import SnpTestbed.Number.Shortest

/-!
# Numerals

A numeral is a number as it is written: a sign, whole digits without a leading
zero, digits after a point, and a power of ten. A numeral without point and
exponent is a whole number if 64 bits hold it; every other numeral stands for a
binary64 number.

Only as many digits count as 64 bits hold. A whole digit that does not fit
stands for a factor of ten, and later digits after the point may fit again.
-/
namespace SnpTestbed.Json

/-- A number as written. -/
structure Numeral where
  negative : Bool
  whole : List Nat
  fraction : Option (List Nat)
  exponent : Option Int
  deriving DecidableEq, Repr

/-- What a numeral stands for; a negative whole number is given by its magnitude. -/
inductive NumberValue
  | natural (value : Nat)
  | negative (magnitude : Nat)
  | floating (value : Binary64)
  deriving DecidableEq, Repr

/-- The largest number of 64 bits. -/
def wordLimit : Nat := UInt64.size - 1

/-- Appends digits to a number until one does not fit, and counts those that did. -/
def appendDigits (value : Nat) : List Nat → Nat × Nat
  | [] => (value, 0)
  | digit :: rest =>
    let next := value * 10 + digit
    if next ≤ wordLimit then
      let (result, count) := appendDigits next rest
      (result, count + 1)
    else (value, 0)

namespace Numeral

/-- Where the powers of ten that a binary64 number reaches end. -/
def powerLimit : Int := 308

/-- A power of ten as a binary64 number. -/
def tenTo (power : Nat) : Binary64 :=
  (Binary64.ofFraction? false (Nat.pow 10 power) 1).getD ⟨false, 0, 0⟩

/-- `value * 10 ^ power` by way of binary64: the value is rounded, then each product is. -/
def approximate? (value : Nat) (power : Int) : Option Binary64 := do
  let start ← Binary64.ofFraction? false value 1
  let divide (number : Binary64) (power : Nat) : Option Binary64 :=
    let (up, down) := (tenTo power).fraction
    number.scaleBy? down up
  if start.mantissa = 0 then return start
  else if powerLimit < power then none
  else if 0 ≤ power then
    let (up, down) := (tenTo power.toNat).fraction
    start.scaleBy? up down
  else if -powerLimit ≤ power then divide start (-power).toNat
  else if -2 * powerLimit ≤ power then
    divide (← divide start powerLimit.toNat) (-power - powerLimit).toNat
  else return ⟨false, 0, Binary64.leastExponent⟩

/-- The binary64 number of a numeral; none if it is too large. -/
def floating? (numeral : Numeral) : Option Binary64 := do
  let (whole, wholeCount) := appendDigits 0 numeral.whole
  let (value, fractionCount) := appendDigits whole (numeral.fraction.getD [])
  let dropped : Int := (numeral.whole.length : Int) - wholeCount
  let magnitude ← approximate? value (dropped - fractionCount + numeral.exponent.getD 0)
  return magnitude.withSign numeral.negative

/-- What a numeral stands for; none if it is too large. -/
def value? (numeral : Numeral) : Option NumberValue :=
  let (whole, count) := appendDigits 0 numeral.whole
  if numeral.fraction = none ∧ numeral.exponent = none ∧ count = numeral.whole.length then
    if !numeral.negative then some (.natural whole)
    else if 0 < whole ∧ whole ≤ UInt64.size / 2 then some (.negative whole)
    else numeral.floating?.map .floating
  else numeral.floating?.map .floating

/-- The digits at the start of a text and what follows them. -/
def digits (text : List Char) : List Nat × List Char :=
  ((text.takeWhile Char.isDigit).map fun c => c.toNat - 48, text.dropWhile Char.isDigit)

/-- The number that digits make. -/
def number (digits : List Nat) : Nat := digits.foldl (fun value digit => value * 10 + digit) 0

/-- Reads the digits after a point, if there is one. -/
def readFraction? (text : List Char) : Option (Option (List Nat) × List Char) :=
  match text with
  | '.' :: rest =>
    match digits rest with
    | ([], _) => none
    | (fraction, rest) => some (some fraction, rest)
  | _ => some (none, text)

/-- Reads an exponent behind its mark. -/
def readPower? (text : List Char) : Option (Int × List Char) :=
  let (negative, rest) :=
    match text with
    | '-' :: rest => (true, rest)
    | '+' :: rest => (false, rest)
    | _ => (false, text)
  match digits rest with
  | ([], _) => none
  | (power, rest) => some (if negative then -(number power : Int) else number power, rest)

/-- Reads an exponent, if there is one. -/
def readExponent? (text : List Char) : Option (Option Int × List Char) :=
  match text with
  | 'e' :: rest => (readPower? rest).map fun (power, rest) => (some power, rest)
  | 'E' :: rest => (readPower? rest).map fun (power, rest) => (some power, rest)
  | _ => some (none, text)

/-- Reads a numeral without its sign. -/
def readUnsigned? (negative : Bool) (text : List Char) : Option (Numeral × List Char) := do
  let (whole, rest) := digits text
  guard (whole ≠ [] ∧ (whole.head? = some 0 → whole.length = 1))
  let (fraction, rest) ← readFraction? rest
  let (exponent, rest) ← readExponent? rest
  return (⟨negative, whole, fraction, exponent⟩, rest)

/-- Reads a numeral from the start of a text. -/
def read? (text : List Char) : Option (Numeral × List Char) :=
  match text with
  | '-' :: rest => readUnsigned? true rest
  | _ => readUnsigned? false text

end Numeral

end SnpTestbed.Json
