import SnpTestbed.Bytes
import SnpTestbed.Text.Quoted

/-!
# Hexadecimal text

`encode` writes two lower-case digits for each byte. `decode` reads digits of
either case, and works on the UTF-8 octets of its text: an odd number of octets
is refused first, then the first octet that is no digit.
-/
namespace SnpTestbed.Hex

/-- Why a text is not hexadecimal. -/
inductive Fault
  | oddLength
  | notADigit (octet : UInt8) (index : Nat)
  deriving DecidableEq, Repr

/-- The digit of a value below sixteen. -/
def digit (value : Nat) : Char :=
  if value < 10 then Char.ofNat (48 + value) else Char.ofNat (87 + value)

/-- The value of an octet as a digit of either case. -/
def digitValue? (octet : UInt8) : Option Nat :=
  let code := octet.toNat
  if 48 ≤ code ∧ code ≤ 57 then some (code - 48)
  else if 97 ≤ code ∧ code ≤ 102 then some (code - 87)
  else if 65 ≤ code ∧ code ≤ 70 then some (code - 55)
  else none

/-- The two digits of a byte. -/
def digitPair (byte : UInt8) : List Char :=
  [digit (byte.toNat / 16), digit (byte.toNat % 16)]

/-- Two lower-case digits for each byte. -/
def encode (bytes : Bytes) : String :=
  String.ofList (bytes.flatMap digitPair)

/-- Reads octets as pairs of digits, the first of them standing at `index`. -/
def decodePairs (index : Nat) : Bytes → Except Fault Bytes
  | [] => .ok []
  | [_] => .error .oddLength
  | high :: low :: rest =>
    match digitValue? high, digitValue? low with
    | none, _ => .error (.notADigit high index)
    | some _, none => .error (.notADigit low (index + 1))
    | some upper, some lower =>
      (decodePairs (index + 2) rest).map (UInt8.ofNat (16 * upper + lower) :: ·)

/-- Reads a text of digits of either case. -/
def decode (text : String) : Except Fault Bytes :=
  let octets := Bytes.ofText text
  if octets.length % 2 = 1 then .error .oddLength else decodePairs 0 octets

/-- A number in as few digits as it takes, at least one. -/
def ofNat (value : Nat) : String :=
  String.ofList (Nat.toDigits 16 value)

/-- The Latin-1 character that an octet stands for. -/
def latin (octet : UInt8) : Char := Char.ofNat octet.toNat

/-- The text of a fault. -/
def Fault.message : Fault → String
  | .oddLength => "OddLength"
  | .notADigit octet index =>
    "InvalidHexCharacter \x7b c: " ++ Quoted.character (latin octet) ++ ", index: " ++
      toString index ++ " \x7d"

end SnpTestbed.Hex
