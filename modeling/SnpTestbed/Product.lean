/-!
# Products

The product lines a guest can claim to run on, and the two encodings of a
product: the family and model bits of the processor's signature word (leaf 1,
register EAX), and the names used in documents and by the key service.
-/
namespace SnpTestbed

/-- A line of processors. -/
inductive ProductLine
  | unknown
  | milan
  | genoa
  | turin
  deriving DecidableEq, Repr, Inhabited

namespace ProductLine

/-- Every line, the known ones last. -/
def all : List ProductLine := [.unknown, .milan, .genoa, .turin]

/-- The lines that have a family and a model. -/
def known : List ProductLine := [.milan, .genoa, .turin]

/-- Family and model of a known line. -/
def familyModel? : ProductLine → Option (UInt32 × UInt32)
  | .milan => some (0x19, 0x01)
  | .genoa => some (0x19, 0x11)
  | .turin => some (0x1A, 0x02)
  | .unknown => none

/-- The name in documents. -/
def label : ProductLine → String
  | .unknown => "unknown"
  | .milan => "milan"
  | .genoa => "genoa"
  | .turin => "turin"

/-- The capitalised name. -/
def title : ProductLine → String
  | .unknown => "Unknown"
  | .milan => "Milan"
  | .genoa => "Genoa"
  | .turin => "Turin"

/-- The name that the key service knows the line by. -/
def serviceName? : ProductLine → Option String
  | .unknown => none
  | line => some line.title

end ProductLine

/-- A line and, where it is known, the machine stepping. -/
structure Product where
  line : ProductLine
  stepping : Option UInt32
  deriving DecidableEq, Repr

namespace Product

/-- Extended family, extended model, base family and base model of a signature word. -/
def signatureMask : UInt32 := 0x0FFF0FF0

/-- The base family of every line; what exceeds it is the extended family. -/
def baseFamily : UInt32 := 0xF

/-- The first part that supports report signing, Milan B1. -/
def standard : Product := ⟨.milan, some 1⟩

/-- The signature word of a line with family and model, before masking. -/
def signatureWord (family model stepping : UInt32) : UInt32 :=
  ((family - baseFamily) <<< 20) ||| ((model >>> 4) <<< 16) ||| (baseFamily <<< 8) |||
    ((model &&& 0xF) <<< 4) ||| stepping

/-- The masked signature word; an unknown line has zero. -/
def maskedSignature (product : Product) : UInt32 :=
  match product.line.familyModel? with
  | none => 0
  | some (family, model) =>
    signatureWord family model (product.stepping.getD 0 &&& 0xF) &&& signatureMask

/-- The product that a signature word belongs to. -/
def ofSignature (word : UInt32) : Product where
  line :=
    (ProductLine.known.find? fun line =>
      maskedSignature ⟨line, none⟩ == word &&& signatureMask).getD .unknown
  stepping := some (word &&& 0xF)

end Product

end SnpTestbed
