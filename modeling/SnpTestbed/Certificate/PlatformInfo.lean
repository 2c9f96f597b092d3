import SnpTestbed.Bytes
import SnpTestbed.Product

/-!
# Platform info

A record of eight bytes that tells which processor a quote comes from: its own
size and the masked signature word, both little-endian. A longer record is read
by its first eight bytes.
-/
namespace SnpTestbed

/-- What a quote says about its platform. -/
structure PlatformInfo where
  size : UInt32
  signature : UInt32
  deriving DecidableEq, Repr

namespace PlatformInfo

/-- Bytes in a record, and the least size that it may claim. -/
def recordSize : Nat := 8

/-- Why bytes are no record. -/
inductive Fault
  | tooShort (length : Nat)
  | sizeTooSmall (size : UInt32)
  deriving DecidableEq, Repr

/-- The text of a fault. -/
def Fault.message : Fault → String
  | .tooShort length =>
    "extra platform info is " ++ toString length ++ " bytes, expected " ++ toString recordSize
  | .sizeTooSmall size => "extra platform info size " ++ toString size.toNat ++ " too small"

/-- The record of a product. -/
def ofProduct (product : Product) : PlatformInfo := ⟨8, product.maskedSignature⟩

/-- The bytes of a record. -/
def bytes (info : PlatformInfo) : Bytes :=
  LittleEndian.encode 4 info.size.toNat ++ LittleEndian.encode 4 info.signature.toNat

/-- Reads a record; what follows it is ignored. -/
def parse (bytes : Bytes) : Except Fault PlatformInfo :=
  if bytes.length < recordSize then .error (.tooShort bytes.length)
  else
    let size := LittleEndian.word32 bytes
    if size.toNat < recordSize then .error (.sizeTooSmall size)
    else .ok ⟨size, LittleEndian.word32 (bytes.drop 4)⟩

end PlatformInfo

end SnpTestbed
