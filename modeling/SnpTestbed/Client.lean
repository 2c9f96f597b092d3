import SnpTestbed.Channel

/-!
# The guest client

A client opens a channel and asks it for reports and keys. For an extended
report it first asks how long its certificate buffer has to be and then asks
again with a buffer of that length; a host without certificates is asked for a
plain report instead. A failed request is reported by its firmware status.
-/
namespace SnpTestbed

/-- Where the guest device stands. -/
def guestDevicePath : String := "/dev/sev-guest"

/-- A client and the channel that it holds. -/
structure Client (δ : Type) where
  device : δ
  version : Option UInt32 := none

/-- A report with the host's certificates, if it has any. -/
abbrev CertifiedReport := Report.Body × Option (List Certificate)

/-- The error of a failed exchange as a client reports it. -/
def Exchange.checked {δ : Type} {command : Command} (exchange : Exchange δ command) :
    Except GuestError ExitResult :=
  exchange.exit.mapError fun error => error.refine exchange.request.status

namespace ReportResponse

/-- The report of a response that says it has one. -/
def checked (response : ReportResponse) : Except GuestError Report.Body :=
  if response.status = 0 then .ok response.report
  else .error (.firmware (.reportRefused response.status))

/-- The report with the certificates that a buffer of the claimed length came back with. -/
def certified (response : ReportResponse) (request : ExtendedReportRequest) :
    Except GuestError CertifiedReport := do
  let report ← response.checked
  if request.claimed = 0 then return (report, none)
  let certificates ← (CertificateTable.parse request.buffer).mapError .certificateTable
  return (report, some (Certificate.sort certificates))

end ReportResponse

/-- The key of a response that says it has one. -/
def DerivedKeyResponse.checked (response : DerivedKeyResponse) :
    Except GuestError (Block derivedKeySize) :=
  if response.status = 0 then .ok response.key
  else .error (.firmware (.keyRefused response.status))

namespace Payload

/-- The response to a report request. -/
def reportResponse : Payload .report → ReportResponse
  | .report _ response => response

/-- The response to a key request. -/
def keyResponse : Payload .derivedKey → DerivedKeyResponse
  | .derivedKey _ response => response

/-- Request and response of an extended report. -/
def extended : Payload .extendedReport → ExtendedReportRequest × ReportResponse
  | .extendedReport request response => (request, response)

end Payload

namespace Client

variable {δ : Type} [CommandChannel δ]

/-- Opens a device where guest devices stand. -/
def attach (device : δ) (version : Option UInt32) : Outcome (Client δ) :=
  let call := CommandChannel.openAt device guestDevicePath
  ⟨call.result.map fun _ => ⟨call.after, version⟩, call.activity⟩

/-- Closes the device and hands it back. -/
def detach (client : Client δ) : Outcome δ :=
  let call := CommandChannel.close client.device
  ⟨call.result.map fun _ => call.after, call.activity⟩

/-- Sends a payload under the number of its own command. -/
def issue (client : Client δ) {command : Command} (payload : Payload command) :
    Exchange δ command :=
  CommandChannel.exchange client.device command.number (GuestRequest.make client.version payload)

/-- The client with the channel that an exchange left. -/
def holding (client : Client δ) (device : δ) : Client δ := { client with device }

/-- Asks for a report. -/
def getReport (client : Client δ) (data : Option Report.Data) (vmpl : Option UInt32) :
    Call (Client δ) Report.Body :=
  match ReportRequest.make data vmpl with
  | .error fault => { result := .error (.firmware fault), after := client }
  | .ok request =>
    let exchange := client.issue (.report request {})
    { result := do
        let _ ← exchange.checked
        exchange.request.payload.reportResponse.checked
      activity := exchange.activity
      after := client.holding exchange.device }

/-- Whether a probe was answered with the length that the buffer has to have. -/
def refusedLength (exchange : Exchange δ .extendedReport) (error : GuestError) : Bool :=
  error.isRequestFailure &&
    VmmError.ofCode exchange.request.status.vmmCode == .invalidCertificatePageLength

/-- The certified report that an exchange came back with. -/
def certifiedReport (exchange : Exchange δ .extendedReport) :
    Except GuestError CertifiedReport := do
  let _ ← exchange.checked
  let (request, response) := exchange.request.payload.extended
  response.certified request

/-- Asks for a report and the host's certificates, in ascending order. -/
def getExtendedReport (client : Client δ) (data : Option Report.Data) (vmpl : Option UInt32) :
    Call (Client δ) CertifiedReport :=
  match ReportRequest.make data vmpl with
  | .error fault => { result := .error (.firmware fault), after := client }
  | .ok base =>
    let probe := client.issue (.extendedReport (.make base) {})
    let probed := client.holding probe.device
    let finished : Call (Client δ) CertifiedReport :=
      { result := certifiedReport probe, activity := probe.activity, after := probed }
    match probe.exit with
    | .ok _ => finished
    | .error error =>
      if refusedLength probe error then
        let (request, response) := probe.request.payload.extended
        if request.claimed = 0 then
          let plain := probed.getReport data vmpl
          { result := plain.result.map (·, none)
            activity := probe.activity ++ plain.activity
            after := plain.after }
        else
          let retry := probed.issue (.extendedReport (request.resize request.claimed) response)
          { result := certifiedReport retry
            activity := probe.activity ++ retry.activity
            after := probed.holding retry.device }
      else finished

/-- Asks for the host's certificates; the report that comes with them is dropped. -/
def getCertificates (client : Client δ) (data : Report.Data) :
    Call (Client δ) (List Certificate) :=
  let call := client.getExtendedReport (some data) none
  { result := do
      let (_, certificates) ← call.result
      match certificates with
      | some certificates => return certificates
      | none => throw (.firmware .noCertificates)
    activity := call.activity
    after := call.after }

/-- Asks for a derived key. -/
def getDerivedKey (client : Client δ) (choice : DerivedKeyChoice) :
    Call (Client δ) (Block derivedKeySize) :=
  let exchange := client.issue (.derivedKey choice.request {})
  { result := do
      let _ ← exchange.checked
      exchange.request.payload.keyResponse.checked
    activity := exchange.activity
    after := client.holding exchange.device }

end Client

end SnpTestbed
