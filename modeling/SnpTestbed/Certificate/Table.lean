import SnpTestbed.Certificate.Basic
import SnpTestbed.Certificate.PlatformInfo

/-!
# Certificate tables

A table starts with rows of 24 bytes: a GUID, and a little-endian offset and
length that point at data anywhere in the table. A row with the nil GUID ends
the rows. The empty string is the empty table.

Building puts the data behind the rows in the order of the entries. Extending
replaces every platform-info entry of a table by one new entry at its end.
-/
namespace SnpTestbed.CertificateTable

/-- Bytes in a row. -/
def rowSize : Nat := 24

/-- Why a table is not read or built. -/
inductive Fault
  | outOfBounds (guid : Guid) (offset length size : Nat)
  | unterminated
  | emptyEntry
  | tableTooLarge
  | entryTooLarge
  | platformInfo (fault : PlatformInfo.Fault)
  | invalidGuid
  | described (text : String)
  deriving DecidableEq

/-- The text of a fault. -/
def Fault.message : Fault → String
  | .outOfBounds guid offset length size =>
    "entry " ++ guid.text ++ " (" ++ toString offset ++ "+" ++ toString length ++
      ") exceeds table of " ++ toString size ++ " bytes"
  | .unterminated => "missing terminating entry"
  | .emptyEntry => "the nil GUID terminates the table"
  | .tableTooLarge => "cert table exceeds 4GiB"
  | .entryTooLarge => "certificate exceeds 4GiB"
  | .platformInfo fault => fault.message
  | .invalidGuid => "invalid GUID"
  | .described text => text

/-- A row: whose data it locates, and where they are. -/
structure Row where
  guid : Guid
  offset : Nat
  length : Nat
  deriving DecidableEq

/-- Reads a row from a block of its size. -/
def Row.ofBlock (block : Block rowSize) : Row where
  guid := ⟨Block.ofWindow block.val 0 (by rw [block.property]; decide)⟩
  offset := LittleEndian.decode (Bytes.slice block.val 16 4)
  length := LittleEndian.decode (Bytes.slice block.val 20 4)

/-- The first `count` rows of a string. -/
def rows : (count : Nat) → Bytes → List Row
  | 0, _ => []
  | count + 1, bytes =>
    match Block.ofBytes? rowSize (bytes.take rowSize) with
    | none => []
    | some block => Row.ofBlock block :: rows count (bytes.drop rowSize)

/-- The certificate that a row of a table locates. -/
def entry (table : Bytes) (row : Row) : Except Fault Certificate :=
  if row.offset + row.length ≤ table.length then
    .ok (Certificate.ofGuid row.guid (Bytes.slice table row.offset row.length))
  else .error (.outOfBounds row.guid row.offset row.length table.length)

/-- The certificates of the rows before the first one with the nil GUID. -/
def entries (table : Bytes) : List Row → Except Fault (List Certificate)
  | [] => .error .unterminated
  | row :: rest =>
    if row.guid.isNil then .ok []
    else do
      let first ← entry table row
      return first :: (← entries table rest)

/-- Reads a table. -/
def parse (table : Bytes) : Except Fault (List Certificate) :=
  if table = [] then .ok []
  else entries table (rows (table.length / rowSize) table)

/-- The bytes of a row. -/
def rowBytes (guid : Guid) (offset length : Nat) : Bytes :=
  guid.octets.val ++ LittleEndian.encode 4 offset ++ LittleEndian.encode 4 length

/-- Rows and data of entries, the data of the first of which stand at `offset`. -/
def layOut (offset : Nat) : List Certificate → Except Fault (Bytes × Bytes)
  | [] => .ok (List.replicate rowSize 0, [])
  | certificate :: rest =>
    if certificate.kind = .empty then .error .emptyEntry
    else if UInt32.size ≤ offset then .error .tableTooLarge
    else if UInt32.size ≤ certificate.data.length then .error .entryTooLarge
    else do
      let (laterRows, laterData) ← layOut (offset + certificate.data.length) rest
      return (rowBytes certificate.kind.guid offset certificate.data.length ++ laterRows,
        certificate.data ++ laterData)

/-- Writes a table of certificates. -/
def build (certificates : List Certificate) : Except Fault Bytes := do
  let (header, data) ← layOut ((certificates.length + 1) * rowSize) certificates
  return header ++ data

/-- A table with `info` as its last entry, in place of every platform info it held. -/
def extend (table : Bytes) (info : PlatformInfo) : Except Fault Bytes := do
  let certificates ← parse table
  build (certificates.filter (fun certificate => certificate.kind ≠ .platformInfo) ++
    [⟨.platformInfo, info.bytes⟩])

end SnpTestbed.CertificateTable
