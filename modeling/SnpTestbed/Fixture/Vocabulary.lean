import SnpTestbed.Certificate.Basic
import SnpTestbed.Json.Decode
import SnpTestbed.Json.Value
import SnpTestbed.Product
import SnpTestbed.Request

/-!
# Products, exits and certificates in documents

How the values that fixtures speak of are written and read. What is written
always reads back; reading also takes the other forms of JSON records and
variants.
-/
namespace SnpTestbed

open Json

namespace ExitResult

/-- An exit in a document. -/
def toValue (exit : ExitResult) : Value := .string exit.label

/-- Reads an exit. -/
def decode : Decoder ExitResult :=
  Decode.variant (all.map fun exit => (exit.label, .bare exit))

end ExitResult

namespace ProductLine

/-- A product line in a document. -/
def toValue (line : ProductLine) : Value := .string line.label

/-- Reads a product line. -/
def decode : Decoder ProductLine :=
  Decode.variant (all.map fun line => (line.label, .bare line))

end ProductLine

namespace Product

/-- A product in a document. -/
def toValue (product : Product) : Value :=
  .object [("name", product.line.toValue),
    ("machine_stepping", .optional (fun word => .natural word.toNat) product.stepping)]

/-- A product that is being read. -/
structure Draft where
  line : Option ProductLine := none
  stepping : Option (Option UInt32) := none

/-- How a product is read. -/
def shape : Decode.Shape Draft Product where
  name := "SevProduct"
  blank := {}
  fields := [
    { name := "name", isSet := (·.line.isSome),
      read := fun item draft => do return { draft with line := some (← ProductLine.decode item) } },
    { name := "machine_stepping", isSet := (·.stepping.isSome),
      read := fun item draft => do
        return { draft with stepping := some (← Decode.optional Decode.word32 item) } }]
  finish layout draft := do
    return { line := ← layout.require 0 "name" draft.line, stepping := draft.stepping.getD none }

/-- Reads a product. -/
def decode : Decoder Product := shape.read

end Product

namespace Guid

/-- Reads a GUID in any of its spellings. -/
def decode : Decoder Guid
  | .string (some spelling) =>
    match Guid.ofText? (String.ofList spelling) with
    | some guid => .ok guid
    | none => .error .invalidGuid
  | other => .error (Decode.mismatch .guid other)

end Guid

namespace CertificateKind

/-- A kind in a document. -/
def toValue : CertificateKind → Value
  | .other guid => .object [(label (.other guid), .string guid.text)]
  | kind => .string kind.label

/-- The names of the kinds with what belongs to them. -/
def variants : List (String × Decode.Variant CertificateKind) :=
  known.map (fun kind => (kind.label, .bare kind)) ++
    [((other Guid.nil).label, .loaded fun item => (Guid.decode item).map .other)]

/-- Reads a kind. -/
def decode : Decoder CertificateKind := Decode.variant variants

end CertificateKind

namespace Certificate

/-- A certificate in a document. -/
def toValue (certificate : Certificate) : Value :=
  .object [("cert_type", certificate.kind.toValue),
    ("data", .array (certificate.data.map fun byte => .natural byte.toNat))]

/-- A certificate that is being read. -/
structure Draft where
  kind : Option CertificateKind := none
  data : Option Bytes := none

/-- How a certificate is read. -/
def shape : Decode.Shape Draft Certificate where
  name := "CertTableEntry"
  blank := {}
  fields := [
    { name := "cert_type", isSet := (·.kind.isSome),
      read := fun item draft => do
        return { draft with kind := some (← CertificateKind.decode item) } },
    { name := "data", isSet := (·.data.isSome),
      read := fun item draft => do
        return { draft with data := some (← Decode.list Decode.byte item) } }]
  finish layout draft := do
    return {
      kind := ← layout.require 0 "cert_type" draft.kind
      data := ← layout.require 1 "data" draft.data }

/-- Reads a certificate. -/
def decode : Decoder Certificate := shape.read

end Certificate

end SnpTestbed
