import SnpTestbed.Device.Programmed
import SnpTestbed.Fixture.Vocabulary

/-!
# Device fixtures

A device fixture describes a programmed device in a document, with byte strings
in hexadecimal. Building stops at the first entry that does not fit: the
certificates, then the reports in order, then the keys in order.
-/
namespace SnpTestbed

open Json

/-- A described report. Without a body, one is made that carries the data. -/
structure ReportFixture where
  data : String
  body : Option String
  exit : ExitResult
  status : FirmwareStatus
  deriving DecidableEq, Repr

/-- A described derived key. -/
structure KeyFixture where
  root : UInt32
  fields : UInt64
  vmpl : UInt32
  guestVersion : UInt32
  tcbVersion : UInt64
  key : String
  deriving DecidableEq, Repr

/-- A described device. -/
structure DeviceFixture where
  reports : List ReportFixture
  keys : List KeyFixture
  certificates : String
  product : Option Product
  deriving DecidableEq, Repr

/-- The bytes of a hexadecimal text. -/
def InputFault.decodeHex (text : String) : Except GuestError Bytes :=
  (Hex.decode text).mapError fun fault => .input (.hex fault)

/-- The block of a hexadecimal text that has to have its size. -/
def InputFault.decodeBlock (what : String) (size : Nat) (text : String) :
    Except GuestError (Block size) := do
  let bytes ← decodeHex text
  match Block.ofBytes? size bytes with
  | some block => return block
  | none => throw (.input (.wrongSize what bytes.length size))

namespace ReportFixture

/-- A report in a document. -/
def toValue (fixture : ReportFixture) : Value :=
  .object [("report_data", .string fixture.data),
    ("report", .optional .string fixture.body),
    ("es_result", fixture.exit.toValue),
    ("fw_err", .natural fixture.status.raw.toNat)]

/-- A report that is being read. -/
structure Draft where
  data : Option String := none
  body : Option (Option String) := none
  exit : Option ExitResult := none
  status : Option UInt64 := none

/-- How a report is read. -/
def shape : Decode.Shape Draft ReportFixture where
  name := "ReportFixture"
  blank := {}
  fields := [
    { name := "report_data", isSet := (·.data.isSome),
      read := fun item draft => do return { draft with data := some (← Decode.text item) } },
    { name := "report", isSet := (·.body.isSome),
      read := fun item draft => do
        return { draft with body := some (← Decode.optional Decode.text item) } },
    { name := "es_result", isSet := (·.exit.isSome),
      read := fun item draft => do return { draft with exit := some (← ExitResult.decode item) } },
    { name := "fw_err", isSet := (·.status.isSome),
      read := fun item draft => do return { draft with status := some (← Decode.word64 item) } }]
  finish layout draft := do
    return {
      data := ← layout.require 0 "report_data" draft.data
      body := draft.body.getD none
      exit := draft.exit.getD .ok
      status := ⟨draft.status.getD 0⟩ }

/-- The report data and the programmed answer. -/
def canned (fixture : ReportFixture) : Except GuestError (Report.Data × CannedReport) := do
  let data ← InputFault.decodeBlock "report data" Report.dataSize fixture.data
  let body ←
    match fixture.body with
    | some body => InputFault.decodeBlock "report" Report.size body
    | none => pure (Report.template data)
  return (data, ⟨body, fixture.exit, fixture.status⟩)

end ReportFixture

namespace KeyFixture

/-- A key in a document. -/
def toValue (fixture : KeyFixture) : Value :=
  .object [("root_key_select", .natural fixture.root.toNat),
    ("guest_field_select", .natural fixture.fields.toNat),
    ("vmpl", .natural fixture.vmpl.toNat),
    ("guest_svn", .natural fixture.guestVersion.toNat),
    ("tcb_version", .natural fixture.tcbVersion.toNat),
    ("key", .string fixture.key)]

/-- A key that is being read. -/
structure Draft where
  root : Option UInt32 := none
  fields : Option UInt64 := none
  vmpl : Option UInt32 := none
  guestVersion : Option UInt32 := none
  tcbVersion : Option UInt64 := none
  key : Option String := none

/-- How a key is read. -/
def shape : Decode.Shape Draft KeyFixture where
  name := "KeyFixture"
  blank := {}
  fields := [
    { name := "root_key_select", isSet := (·.root.isSome),
      read := fun item draft => do return { draft with root := some (← Decode.word32 item) } },
    { name := "guest_field_select", isSet := (·.fields.isSome),
      read := fun item draft => do return { draft with fields := some (← Decode.word64 item) } },
    { name := "vmpl", isSet := (·.vmpl.isSome),
      read := fun item draft => do return { draft with vmpl := some (← Decode.word32 item) } },
    { name := "guest_svn", isSet := (·.guestVersion.isSome),
      read := fun item draft => do
        return { draft with guestVersion := some (← Decode.word32 item) } },
    { name := "tcb_version", isSet := (·.tcbVersion.isSome),
      read := fun item draft => do
        return { draft with tcbVersion := some (← Decode.word64 item) } },
    { name := "key", isSet := (·.key.isSome),
      read := fun item draft => do return { draft with key := some (← Decode.text item) } }]
  finish layout draft := do
    return {
      root := draft.root.getD 0
      fields := draft.fields.getD 0
      vmpl := draft.vmpl.getD 0
      guestVersion := draft.guestVersion.getD 0
      tcbVersion := draft.tcbVersion.getD 0
      key := ← layout.require 5 "key" draft.key }

/-- The request that the key is given out for. -/
def request (fixture : KeyFixture) : DerivedKeyRequest where
  root := fixture.root
  fields := fixture.fields
  vmpl := fixture.vmpl
  guestVersion := fixture.guestVersion
  tcbVersion := fixture.tcbVersion

end KeyFixture

namespace DeviceFixture

/-- A device in a document. -/
def toValue (fixture : DeviceFixture) : Value :=
  .object [("reports", .array (fixture.reports.map ReportFixture.toValue)),
    ("keys", .array (fixture.keys.map KeyFixture.toValue)),
    ("certs", .string fixture.certificates),
    ("product", .optional Product.toValue fixture.product)]

/-- A device that is being read. -/
structure Draft where
  reports : Option (List ReportFixture) := none
  keys : Option (List KeyFixture) := none
  certificates : Option String := none
  product : Option (Option Product) := none

/-- How a device is read. -/
def shape : Decode.Shape Draft DeviceFixture where
  name := "DeviceFixture"
  blank := {}
  fields := [
    { name := "reports", isSet := (·.reports.isSome),
      read := fun item draft => do
        return { draft with reports := some (← Decode.list ReportFixture.shape.read item) } },
    { name := "keys", isSet := (·.keys.isSome),
      read := fun item draft => do
        return { draft with keys := some (← Decode.list KeyFixture.shape.read item) } },
    { name := "certs", isSet := (·.certificates.isSome),
      read := fun item draft => do
        return { draft with certificates := some (← Decode.text item) } },
    { name := "product", isSet := (·.product.isSome),
      read := fun item draft => do
        return { draft with product := some (← Decode.optional Product.decode item) } }]
  finish _ draft := .ok {
    reports := draft.reports.getD []
    keys := draft.keys.getD []
    certificates := draft.certificates.getD ""
    product := draft.product.getD none }

/-- The compact text of a fixture. -/
def text (fixture : DeviceFixture) : String := fixture.toValue.text

/-- Reads the text of a fixture. -/
def parse (text : String) : Except GuestError DeviceFixture :=
  (Decode.fromText shape.read text).mapError fun fault => .input (.document fault)

/-- Programs the answer that a report describes. -/
def addReport (device : ProgrammedDevice) (fixture : ReportFixture) :
    Except GuestError ProgrammedDevice := do
  let (data, canned) ← fixture.canned
  return device.withReport data canned

/-- Programs the key that a key fixture describes. -/
def addKey (device : ProgrammedDevice) (fixture : KeyFixture) :
    Except GuestError ProgrammedDevice := do
  return device.withKey fixture.request (← InputFault.decodeHex fixture.key)

/-- The closed device that a fixture describes. -/
def build (fixture : DeviceFixture) (signer : Signer) : Except GuestError ProgrammedDevice := do
  let certificates ← InputFault.decodeHex fixture.certificates
  let device : ProgrammedDevice := { certificates, signer }
  let device ← fixture.reports.foldlM addReport device
  let device ← fixture.keys.foldlM addKey device
  return device.withProduct fixture.product

end DeviceFixture

end SnpTestbed
