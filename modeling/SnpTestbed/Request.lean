import SnpTestbed.Firmware
import SnpTestbed.Report

/-!
# Guest requests

The three commands of the guest device and what travels with each: a request, a
response that the device fills in, and for extended reports the caller's
certificate buffer. A request carries the command it was made for in its type,
so a device can change the contents of a payload but not its kind.
-/
namespace SnpTestbed

/-- How the exit to the security processor went. -/
inductive ExitResult
  | ok
  | unsupported
  | vmmError
  | decodeFailed
  | exception
  | retry
  deriving DecidableEq, Repr, Inhabited

namespace ExitResult

/-- Every result in the order of its code. -/
def all : List ExitResult := [.ok, .unsupported, .vmmError, .decodeFailed, .exception, .retry]

/-- The code of a result. -/
def code : ExitResult → Nat
  | .ok => 0
  | .unsupported => 1
  | .vmmError => 2
  | .decodeFailed => 3
  | .exception => 4
  | .retry => 5

/-- The name in documents. -/
def label : ExitResult → String
  | .ok => "ok"
  | .unsupported => "unsupported"
  | .vmmError => "vmm_error"
  | .decodeFailed => "decode_failed"
  | .exception => "exception"
  | .retry => "retry"

/-- The name in messages. -/
def title : ExitResult → String
  | .ok => "Ok"
  | .unsupported => "Unsupported"
  | .vmmError => "VmmError"
  | .decodeFailed => "DecodeFailed"
  | .exception => "Exception"
  | .retry => "Retry"

end ExitResult

/-- What a guest can ask for. -/
inductive Command
  | report
  | derivedKey
  | extendedReport
  deriving DecidableEq, Repr

namespace Command

/-- Every command in the order of its index. -/
def all : List Command := [.report, .derivedKey, .extendedReport]

/-- The index of a command among those of the device. -/
def index : Command → UInt64
  | .report => 0
  | .derivedKey => 1
  | .extendedReport => 2

/-- The number of a command: both directions, 32 bytes, the letter S, and its index. -/
def number (command : Command) : UInt64 :=
  ((3 : UInt64) <<< 30) ||| ((32 : UInt64) <<< 16) ||| ((83 : UInt64) <<< 8) ||| command.index

/-- The command with a number. -/
def ofNumber? (number : UInt64) : Option Command :=
  all.find? fun command => command.number == number

/-- The name in log records. -/
def title : Command → String
  | .report => "GetReport"
  | .derivedKey => "GetDerivedKey"
  | .extendedReport => "GetExtReport"

end Command

/-- A request for a report: the data to put into it and the privilege level to state. -/
structure ReportRequest where
  data : Report.Data
  vmpl : UInt32
  bounded : vmpl ≤ 3
  deriving DecidableEq

namespace ReportRequest

/-- A request with zero data and privilege level 1 in place of what is missing. -/
def make (data : Option Report.Data) (vmpl : Option UInt32) : Except FirmwareFault ReportRequest :=
  let level := vmpl.getD 1
  if bounded : level ≤ 3 then .ok ⟨data.getD (Block.zeros _), level, bounded⟩
  else .error (.vmplOutOfRange level)

/-- Requests are ordered by their data, then by level. -/
instance : Ord ReportRequest :=
  ⟨fun left right => (compare left.data.val right.data.val).then (compare left.vmpl right.vmpl)⟩

end ReportRequest

/-- A request for a report and the host's certificates. The claimed length need not be the
buffer's; a claim of zero asks how long the buffer has to be. -/
structure ExtendedReportRequest where
  base : ReportRequest
  buffer : Bytes
  claimed : UInt32
  deriving DecidableEq

namespace ExtendedReportRequest

/-- A request without a buffer. -/
def make (base : ReportRequest) : ExtendedReportRequest := ⟨base, [], 0⟩

/-- The request with a zeroed buffer of the given length, claimed as such. -/
def resize (request : ExtendedReportRequest) (length : UInt32) : ExtendedReportRequest :=
  { request with buffer := List.replicate length.toNat 0, claimed := length }

end ExtendedReportRequest

/-- The response to both report requests. -/
structure ReportResponse where
  status : UInt32 := 0
  reportSize : UInt32 := 0
  report : Report.Body := Block.zeros _
  deriving DecidableEq

/-- What is mixed into a derived key, one bit for each. -/
structure FieldSelect where
  raw : UInt64
  deriving DecidableEq, Repr

/-- What can be mixed into a derived key. -/
inductive MixedField
  | guestPolicy
  | imageId
  | familyId
  | measurement
  | securityVersion
  | tcbVersion
  deriving DecidableEq, Repr

namespace MixedField

/-- Every field in the order of its bit. -/
def all : List MixedField :=
  [.guestPolicy, .imageId, .familyId, .measurement, .securityVersion, .tcbVersion]

/-- The bit of a field. -/
def bit : MixedField → UInt64
  | .guestPolicy => 0
  | .imageId => 1
  | .familyId => 2
  | .measurement => 3
  | .securityVersion => 4
  | .tcbVersion => 5

/-- The name of a field's bit in descriptions. -/
def label : MixedField → String
  | .guestPolicy => "get_guest_policy"
  | .imageId => "get_image_id"
  | .familyId => "get_family_id"
  | .measurement => "get_measurement"
  | .securityVersion => "get_svn"
  | .tcbVersion => "get_tcb_version"

end MixedField

namespace FieldSelect

/-- The bit of a field. -/
def get (select : FieldSelect) (field : MixedField) : UInt64 := (select.raw >>> field.bit) &&& 1

/-- The selection with the lowest bit of `value` as the bit of a field. -/
def set (select : FieldSelect) (field : MixedField) (value : UInt64) : FieldSelect :=
  ⟨(select.raw &&& ~~~((1 : UInt64) <<< field.bit)) ||| ((value &&& 1) <<< field.bit)⟩

/-- The raw value and every bit. -/
def describe (select : FieldSelect) : String :=
  let bits := MixedField.all.map fun field =>
    field.label ++ ": " ++ toString (select.get field).toNat
  "GuestFieldSelect \x7b " ++
    ", ".intercalate ((".0: " ++ toString select.raw.toNat) :: bits) ++ " \x7d"

end FieldSelect

/-- A request for a key that depends on all five of its fields. -/
structure DerivedKeyRequest where
  root : UInt32 := 0
  fields : UInt64 := 0
  vmpl : UInt32 := 0
  guestVersion : UInt32 := 0
  tcbVersion : UInt64 := 0
  deriving DecidableEq, Repr

namespace DerivedKeyRequest

/-- The key under which a derived key is kept: the fields as hexadecimal numbers of fixed width. -/
def lookupKey (request : DerivedKeyRequest) : String :=
  " ".intercalate [
    Hex.encode (BigEndian.encode 4 request.root.toNat),
    Hex.encode (BigEndian.encode 8 request.fields.toNat),
    Hex.encode (BigEndian.encode 4 request.vmpl.toNat),
    Hex.encode (BigEndian.encode 4 request.guestVersion.toNat),
    Hex.encode (BigEndian.encode 8 request.tcbVersion.toNat)]

end DerivedKeyRequest

/-- A client's choice of a derived key; the root is one of two. -/
structure DerivedKeyChoice where
  migrationRoot : Bool
  fields : FieldSelect
  vmpl : UInt32
  guestVersion : UInt32
  tcbVersion : UInt64
  deriving DecidableEq, Repr

/-- The request that a choice stands for. -/
def DerivedKeyChoice.request (choice : DerivedKeyChoice) : DerivedKeyRequest where
  root := if choice.migrationRoot then 1 else 0
  fields := choice.fields.raw
  vmpl := choice.vmpl
  guestVersion := choice.guestVersion
  tcbVersion := choice.tcbVersion

/-- Bytes in a derived key. -/
def derivedKeySize : Nat := 32

/-- The response to a key request. -/
structure DerivedKeyResponse where
  status : UInt32 := 0
  key : Block derivedKeySize := Block.zeros _
  deriving DecidableEq

/-- What travels with a command. -/
inductive Payload : Command → Type
  | report (request : ReportRequest) (response : ReportResponse) : Payload .report
  | extendedReport (request : ExtendedReportRequest) (response : ReportResponse) :
    Payload .extendedReport
  | derivedKey (request : DerivedKeyRequest) (response : DerivedKeyResponse) : Payload .derivedKey

/-- A request as it is handed to a device: message version, payload, and the status that the
device sets on failure. -/
structure GuestRequest (command : Command) where
  version : UInt32
  payload : Payload command
  status : FirmwareStatus

namespace GuestRequest

/-- A request with message version 1 unless another is given, and no failure yet. -/
def make {command : Command} (version : Option UInt32) (payload : Payload command) :
    GuestRequest command :=
  ⟨version.getD 1, payload, .success⟩

end GuestRequest

end SnpTestbed
