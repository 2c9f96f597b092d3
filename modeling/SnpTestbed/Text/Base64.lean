import SnpTestbed.Bytes

/-!
# Base64

The standard alphabet with padding. Decoding is strict: the length is a multiple
of four, padding stands only at the end, and the bits that padding leaves over
are zero, so each byte string has one text.
-/
namespace SnpTestbed.Base64

/-- The value of a character of the standard alphabet. -/
def value? (c : Char) : Option Nat :=
  let code := c.toNat
  if 65 ≤ code ∧ code ≤ 90 then some (code - 65)
  else if 97 ≤ code ∧ code ≤ 122 then some (code - 71)
  else if 48 ≤ code ∧ code ≤ 57 then some (code + 4)
  else if c = '+' then some 62
  else if c = '/' then some 63
  else none

/-- The byte of a group of four that ends in two pads. -/
def oneByte? (first second : Nat) : Option Bytes :=
  if second % 16 = 0 then some [UInt8.ofNat (first * 4 + second / 16)] else none

/-- The bytes of a group of four that ends in one pad. -/
def twoBytes? (first second third : Nat) : Option Bytes :=
  if third % 4 = 0 then
    some [UInt8.ofNat (first * 4 + second / 16), UInt8.ofNat (second * 16 + third / 4)]
  else none

/-- The bytes of a group of four without padding. -/
def threeBytes (first second third fourth : Nat) : Bytes :=
  [UInt8.ofNat (first * 4 + second / 16), UInt8.ofNat (second * 16 + third / 4),
    UInt8.ofNat (third * 64 + fourth)]

/-- Reads a text without blanks. -/
def decode? : List Char → Option Bytes
  | [] => some []
  | [a, b, '=', '='] => do oneByte? (← value? a) (← value? b)
  | [a, b, c, '='] => do twoBytes? (← value? a) (← value? b) (← value? c)
  | a :: b :: c :: d :: rest => do
    let group := threeBytes (← value? a) (← value? b) (← value? c) (← value? d)
    return group ++ (← decode? rest)
  | _ => none

end SnpTestbed.Base64
