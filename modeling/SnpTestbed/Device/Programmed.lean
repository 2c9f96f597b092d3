import SnpTestbed.Catalog
import SnpTestbed.Channel
import SnpTestbed.Product
import SnpTestbed.Signer

/-!
# The programmed device

A stand-in for the guest device that answers from what it was programmed with:
reports by their data, keys by all fields of their request, and one blob of
certificates. Reports are signed when they are served, and the programmed bodies
stay as they are. No call other than opening and closing changes the device.
-/
namespace SnpTestbed

/-- A programmed answer to a report request. A status other than success makes the request fail. -/
structure CannedReport where
  body : Report.Body
  exit : ExitResult := .ok
  status : FirmwareStatus := .success
  deriving DecidableEq

/-- A guest device with programmed answers. -/
structure ProgrammedDevice where
  isOpen : Bool := false
  reports : Catalog CannedReport := .empty
  keys : Catalog Bytes := .empty
  certificates : Bytes := []
  product? : Option Product := none
  signer : Signer

/-- A command's payload after it was answered, and the request's status then. -/
structure Answer (ρ : Type) where
  exit : Except GuestError ExitResult
  payload : ρ
  status : FirmwareStatus
  activity : Activity := {}

namespace ProgrammedDevice

/-- The device with an answer for these report data, in place of any earlier one. -/
def withReport (device : ProgrammedDevice) (data : Report.Data) (canned : CannedReport) :
    ProgrammedDevice :=
  { device with reports := device.reports.insert (Report.dataKey data) canned }

/-- The device with a key for this request, in place of any earlier one. -/
def withKey (device : ProgrammedDevice) (request : DerivedKeyRequest) (key : Bytes) :
    ProgrammedDevice :=
  { device with keys := device.keys.insert request.lookupKey key }

/-- The device with these certificates in place of its own. -/
def withCertificates (device : ProgrammedDevice) (certificates : Bytes) : ProgrammedDevice :=
  { device with certificates }

/-- The device with this product, or with none. -/
def withProduct (device : ProgrammedDevice) (product : Option Product) : ProgrammedDevice :=
  { device with product? := product }

/-- The device with this signer in place of its own. -/
def withSigner (device : ProgrammedDevice) (signer : Signer) : ProgrammedDevice :=
  { device with signer }

/-- The product that the device says it runs on. -/
def product (device : ProgrammedDevice) : Product := device.product?.getD Product.standard

/-- The programmed answer for these report data. -/
def lookup (device : ProgrammedDevice) (data : Report.Data) : Except GuestError CannedReport :=
  match device.reports.find? (Report.dataKey data) with
  | some canned => .ok canned
  | none => .error (.noResponse (Report.dataKey data))

/-- A body with a fresh signature over its signed bytes. -/
def sign (device : ProgrammedDevice) (body : Report.Body) : Outcome Report.Body :=
  (device.signer.ask (Report.signedBytes body)).map fun signature => Report.embed signature body

/-- Answers a report request. -/
def answerReport (device : ProgrammedDevice) (request : ReportRequest) (response : ReportResponse)
    (status : FirmwareStatus) : Answer ReportResponse :=
  match device.lookup request.data with
  | .error error => ⟨.error error, response, status, {}⟩
  | .ok canned =>
    if canned.status.isSuccess then
      let signed := device.sign canned.body
      match signed.result with
      | .error error => ⟨.error error, response, status, signed.activity⟩
      | .ok report =>
        ⟨.ok canned.exit, ⟨0, UInt32.ofNat Report.size, report⟩, status, signed.activity⟩
    else
      ⟨.error (.requestFailed canned.exit canned.status), response, canned.status,
        .logging (.warn ("injecting firmware error " ++ canned.status.text ++
          " for report request"))⟩

/-- Tells a client how long its certificate buffer has to be, by failing the request. -/
def answerProbe (device : ProgrammedDevice) (request : ExtendedReportRequest)
    (response : ReportResponse) (status : FirmwareStatus) :
    Answer (ExtendedReportRequest × ReportResponse) :=
  let length := device.certificates.length
  let activity := Activity.logging
    (.debug ("extended report size probe, " ++ toString length ++ " cert bytes"))
  if UInt32.size ≤ length then
    ⟨.error (.input (.tooManyCertificates length)), (request, response), status, activity⟩
  else
    ⟨.error (.requestFailed .ok .invalidLength),
      ({ request with claimed := UInt32.ofNat length }, response), .invalidLength, activity⟩

/-- Answers an extended report request: the plain report first, then the certificates, which both
the claimed length and the buffer have to hold. -/
def answerExtended (device : ProgrammedDevice) (request : ExtendedReportRequest)
    (response : ReportResponse) (status : FirmwareStatus) :
    Answer (ExtendedReportRequest × ReportResponse) :=
  if request.claimed = 0 then device.answerProbe request response status
  else
    let plain := device.answerReport request.base response status
    let answered (exit : Except GuestError ExitResult) (request : ExtendedReportRequest) :
        Answer (ExtendedReportRequest × ReportResponse) :=
      ⟨exit, (request, plain.payload), plain.status, plain.activity⟩
    let required := device.certificates.length
    match plain.exit with
    | .error error => answered (.error error) request
    | .ok exit =>
      if request.claimed.toNat < required then
        answered (.error (.bufferTooSmall request.claimed.toNat required)) request
      else if request.buffer.length < required then
        answered (.error (.bufferTooSmall request.buffer.length required)) request
      else
        answered (.ok exit)
          { request with buffer := Bytes.overwrite request.buffer 0 device.certificates }

/-- The response key with as much of a stored key as fits at its start. -/
def copyKey (key : Block derivedKeySize) (stored : Bytes) : Block derivedKeySize :=
  key.overwrite 0 (stored.take derivedKeySize) (by
    rw [List.length_take]
    omega)

/-- Answers a key request. -/
def answerKey (device : ProgrammedDevice) (request : DerivedKeyRequest)
    (response : DerivedKeyResponse) (status : FirmwareStatus) : Answer DerivedKeyResponse :=
  if device.keys.size = 0 then ⟨.error .noKeys, response, status, {}⟩
  else
    match device.keys.find? request.lookupKey with
    | none => ⟨.error (.unmappedKey request.lookupKey), response, status, {}⟩
    | some stored => ⟨.ok .ok, ⟨0, copyKey response.key stored⟩, status, {}⟩

/-- Answers a payload of any kind. -/
def answer (device : ProgrammedDevice) {command : Command} (payload : Payload command)
    (status : FirmwareStatus) : Answer (Payload command) :=
  match payload with
  | .report request response =>
    let answered := device.answerReport request response status
    ⟨answered.exit, .report request answered.payload, answered.status, answered.activity⟩
  | .extendedReport request response =>
    let answered := device.answerExtended request response status
    ⟨answered.exit, .extendedReport answered.payload.1 answered.payload.2, answered.status,
      answered.activity⟩
  | .derivedKey request response =>
    let answered := device.answerKey request response status
    ⟨answered.exit, .derivedKey request answered.payload, answered.status, answered.activity⟩

/-- Carries out the command that a request was made for. -/
def dispatch (device : ProgrammedDevice) {command : Command} (request : GuestRequest command) :
    Exchange ProgrammedDevice command :=
  if device.isOpen then
    let answered := device.answer request.payload request.status
    { exit := answered.exit
      request := ⟨request.version, answered.payload, answered.status⟩
      device
      activity := .logging (.debug ("dispatching " ++ command.title)) ++ answered.activity }
  else { exit := .error .notOpen, request, device }

/-- Carries out a numbered command; the number has to be that of the request's own command. -/
def exchange (device : ProgrammedDevice) {command : Command} (number : UInt64)
    (request : GuestRequest command) : Exchange ProgrammedDevice command :=
  if Command.ofNumber? number = some command then device.dispatch request
  else { exit := .error (.invalidCommand number), request, device }

/-- Opens the device; the path is only logged. -/
def openAt (device : ProgrammedDevice) (path : String) : Call ProgrammedDevice Unit :=
  if device.isOpen then { result := .error .alreadyOpen, after := device }
  else
    { result := .ok ()
      activity := .logging (.debug ("opening mock device in place of " ++ path))
      after := { device with isOpen := true } }

/-- Closes the device. -/
def close (device : ProgrammedDevice) : Call ProgrammedDevice Unit :=
  if device.isOpen then { result := .ok (), after := { device with isOpen := false } }
  else { result := .error .alreadyClosed, after := device }

instance : CommandChannel ProgrammedDevice where
  openAt := openAt
  close := close
  exchange device number request := exchange device number request

end ProgrammedDevice

end SnpTestbed
