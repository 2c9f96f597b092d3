import SnpTestbed.Crypto.Ecdsa
import SnpTestbed.Text.Hex

/-!
# Attestation reports

A report is 0x4A0 bytes. The first 0x2A0 of them are signed, and the signature
follows: two scalars, each stored little-endian in a field of 72 bytes whose end
is zero. Readers accept longer strings and look at the report at their start.
-/
namespace SnpTestbed

namespace Report

/-- Bytes in a report. -/
def size : Nat := 0x4A0

/-- Bytes that the signature covers, from the start of the report. -/
def signedSize : Nat := 0x2A0

/-- Bytes in the field of one signature scalar. -/
def fieldSize : Nat := 72

/-- Bytes of data that a guest puts into a report. -/
def dataSize : Nat := 64

/-- Where the number of the signature algorithm stands; the version is the first word. -/
def algorithmOffset : Nat := 0x34

/-- Where the guest's data stand. -/
def dataOffset : Nat := 0x50

/-- Where the first scalar stands, directly behind the signed bytes. -/
def firstScalarOffset : Nat := signedSize

/-- Where the second scalar stands. -/
def secondScalarOffset : Nat := firstScalarOffset + fieldSize

/-- A whole report. -/
abbrev Body := Block size

/-- The guest's data. -/
abbrev Data := Block dataSize

/-- Why a byte string is not read as a report. -/
inductive Fault
  | tooShort (length : Nat)
  | scalarTooLong
  | quoteTooShort (length : Nat)
  | described (text : String)
  deriving DecidableEq, Repr

/-- The text of a fault. -/
def Fault.message : Fault → String
  | .tooShort length =>
    "report is " ++ toString length ++ " bytes, expected at least " ++ toString size
  | .scalarTooLong => "signature component exceeds 48 bytes"
  | .quoteTooShort length => "quote is " ++ toString length ++ " bytes, shorter than a report"
  | .described text => text

/-- The key under which answers for these data are kept. -/
def dataKey (data : Data) : String := Hex.encode data.val

/-- The bytes of a report that the signature covers. -/
def signedComponent (report : Bytes) : Except Fault Bytes :=
  if size ≤ report.length then .ok (report.take signedSize) else .error (.tooShort report.length)

/-- The guest's data in a report. -/
def data (report : Bytes) : Except Fault Data :=
  if long : size ≤ report.length then
    .ok (Block.ofWindow report dataOffset (by
      have : dataOffset + dataSize ≤ size := by decide
      omega))
  else .error (.tooShort report.length)

/-- The field of a scalar: its bytes from the least significant on, then zeros. -/
def scalarField (scalar : Block Curve.scalarSize) : Bytes :=
  scalar.val.reverse ++ List.replicate (fieldSize - Curve.scalarSize) 0

@[simp] theorem length_scalarField (scalar : Block Curve.scalarSize) :
    (scalarField scalar).length = fieldSize := by
  simp [scalarField, scalar.property, Curve.scalarSize, fieldSize]

/-- The scalar in the field at `offset`, whose padding has to be zero. -/
def readScalar (report : Bytes) (offset : Nat) (inside : offset + fieldSize ≤ report.length) :
    Except Fault (Block Curve.scalarSize) :=
  let padding := Bytes.slice report (offset + Curve.scalarSize) (fieldSize - Curve.scalarSize)
  if padding.all (· == 0) then
    .ok (Block.ofWindow report offset (by
      have : Curve.scalarSize ≤ fieldSize := by decide
      omega)).reverse
  else .error .scalarTooLong

/-- The signature in a report. -/
def signature (report : Bytes) : Except Fault Signature :=
  if long : size ≤ report.length then do
    have fits : secondScalarOffset + fieldSize ≤ size := by decide
    have before : firstScalarOffset + fieldSize ≤ size := by decide
    let r ← readScalar report firstScalarOffset (by omega)
    let s ← readScalar report secondScalarOffset (by omega)
    return ⟨r, s⟩
  else .error (.tooShort report.length)

/-- Both scalar fields of a signature. -/
def signatureFields (signature : Signature) : Bytes :=
  scalarField signature.r ++ scalarField signature.s

@[simp] theorem length_signatureFields (signature : Signature) :
    (signatureFields signature).length = 2 * fieldSize := by
  simp [signatureFields, Nat.two_mul]

/-- The field of a scalar written over: cleared, then filled with the scalar's bytes from the least
significant on, as far as field and scalar reach. -/
def fillField (scalar : Block Curve.scalarSize) (field : Bytes) : Bytes :=
  let digits := scalar.val.reverse
  let cleared := List.replicate field.length 0
  digits.take field.length ++ cleared.drop digits.length

@[simp] theorem length_fillField (scalar : Block Curve.scalarSize) (field : Bytes) :
    (fillField scalar field).length = field.length := by
  simp only [fillField, List.length_append, List.length_take, List.length_drop,
    List.length_replicate]
  omega

/-- The string with the field at `offset` written over. -/
def writeScalar (scalar : Block Curve.scalarSize) (offset : Nat) (report : Bytes) : Bytes :=
  Bytes.overwrite report offset (fillField scalar (Bytes.slice report offset fieldSize))

theorem length_writeScalar {report : Bytes} {offset : Nat}
    (inside : offset + fieldSize ≤ report.length) (scalar : Block Curve.scalarSize) :
    (writeScalar scalar offset report).length = report.length := by
  apply Bytes.length_overwrite_of_le
  rw [length_fillField, Bytes.length_slice_of_le inside]
  exact inside

/-- What writing into a string comes to, and the string afterwards. -/
structure Written where
  result : Except Fault Unit
  after : Bytes

/-- Writes a signature into a string in place, field by field; one that is too short stays as it
is. -/
def writeSignature (signature : Signature) (report : Bytes) : Written :=
  if size ≤ report.length then
    { result := .ok ()
      after := writeScalar signature.s secondScalarOffset
        (writeScalar signature.r firstScalarOffset report) }
  else { result := .error (.tooShort report.length), after := report }

theorem length_writeSignature (signature : Signature) (report : Bytes) :
    (writeSignature signature report).after.length = report.length := by
  unfold writeSignature
  split
  case isTrue long =>
    have first : firstScalarOffset + fieldSize ≤ report.length := Nat.le_trans (by decide) long
    have last : secondScalarOffset + fieldSize ≤ report.length := Nat.le_trans (by decide) long
    have kept := length_writeScalar first signature.r
    exact (length_writeScalar (kept ▸ last) signature.s).trans kept
  case isFalse short => rfl

/-- A copy of a string with a signature written into it. -/
def withSignature (signature : Signature) (report : Bytes) : Except Fault Bytes :=
  let written := writeSignature signature report
  written.result.map fun _ => written.after

/-- A report with this signature in place of its own. -/
def embed (signature : Signature) (body : Body) : Body :=
  ⟨(writeSignature signature body.val).after,
    (length_writeSignature signature body.val).trans body.property⟩

/-- The signed bytes of a report. -/
def signedBytes (body : Body) : Bytes := body.val.take signedSize

/-- A report with a 32-bit word at an offset. -/
def withWord (offset value : Nat) (inside : offset + 4 ≤ size) (body : Body) : Body :=
  body.overwrite offset (LittleEndian.encode 4 value) (by
    rw [LittleEndian.length_encode]
    exact inside)

/-- An unsigned version 2 report that carries these data and names the signature algorithm. -/
def template (data : Data) : Body :=
  let header := withWord algorithmOffset 1 (by decide) (withWord 0 2 (by decide) (Block.zeros size))
  header.overwrite dataOffset data.val (by rw [data.property]; decide)

end Report

end SnpTestbed
