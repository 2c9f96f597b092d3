import SnpTestbed.Certificate.Table
import SnpTestbed.Json.Fault
import SnpTestbed.Request

/-!
# Errors of the guest device and of everything around it

Errors are told apart by cause; `GuestError.message` is the only place that
words them. A scripted device can fail with any error, so the causes that carry
more than a name also admit a described one.
-/
namespace SnpTestbed

/-- Why a report is not signed or not accepted. -/
inductive SigningFault
  | invalidSecret
  | noSignature
  | malformedSignature
  | doesNotVerify
  | described (text : String)
  deriving DecidableEq, Repr

/-- The text of a fault. -/
def SigningFault.message : SigningFault → String
  | .invalidSecret => "invalid VCEK secret: signature error"
  | .noSignature => "could not sign report: signature error"
  | .malformedSignature => "malformed report signature: signature error"
  | .doesNotVerify => "report signature does not verify"
  | .described text => text

/-- Why an input is not taken. -/
inductive InputFault
  | hex (fault : Hex.Fault)
  | wrongSize (what : String) (length expected : Nat)
  | document (fault : Json.Fault)
  | tooManyCertificates (length : Nat)
  | described (text : String)
  deriving DecidableEq

/-- The text of a fault. -/
def InputFault.message : InputFault → String
  | .hex fault => fault.message
  | .wrongSize what length expected =>
    what ++ " is " ++ toString length ++ " bytes, expected " ++ toString expected
  | .document fault => fault.message
  | .tooManyCertificates length =>
    "certificate blob of " ++ toString length ++ " bytes exceeds the length field"
  | .described text => text

/-- An error of a guest device, of a client, or of what they are given. -/
inductive GuestError
  | alreadyOpen
  | alreadyClosed
  | notOpen
  | noResponse (dataKey : String)
  | noKeys
  | unmappedKey (lookupKey : String)
  | invalidCommand (number : UInt64)
  | requestFailed (exit : ExitResult) (status : FirmwareStatus)
  | bufferTooSmall (provided required : Nat)
  | productRequired
  | signing (fault : SigningFault)
  | report (fault : Report.Fault)
  | certificateTable (fault : CertificateTable.Fault)
  | firmware (fault : FirmwareFault)
  | input (fault : InputFault)
  deriving DecidableEq

namespace GuestError

/-- The text of an error. -/
def message : GuestError → String
  | .alreadyOpen => "device already open"
  | .alreadyClosed => "device already closed"
  | .notOpen => "device is not open"
  | .noResponse dataKey => "test error: no response for " ++ dataKey
  | .noKeys => "test error: no keys"
  | .unmappedKey lookupKey => "test error: unmapped key request " ++ lookupKey
  | .invalidCommand number => "invalid command 0x" ++ Hex.ofNat number.toNat
  | .requestFailed exit status =>
    "input/output error (es_result: " ++ exit.title ++ ", fw_err: " ++ status.text ++ ")"
  | .bufferTooSmall provided required =>
    "test failure: cert buffer too small: " ++ toString provided ++ " < " ++ toString required
  | .productRequired => "mock SevProduct must not be nil"
  | .signing fault => "Signing: " ++ fault.message
  | .report fault => "Report: " ++ fault.message
  | .certificateTable fault => "CertTable: " ++ fault.message
  | .firmware fault => "Firmware: " ++ fault.message
  | .input fault => "IO: " ++ fault.message

/-- How the exit went, where the error tells. -/
def exit? : GuestError → Option ExitResult
  | .requestFailed exit _ => some exit
  | _ => none

/-- Whether the request itself failed on its way. -/
def isRequestFailure (error : GuestError) : Bool := error.exit?.isSome

/-- The error that a client reports for a failed request, given the status the request came back
with: a status that says something replaces the bare failure. -/
def refine (error : GuestError) (status : FirmwareStatus) : GuestError :=
  match error with
  | .requestFailed _ _ => if status.isSuccess then error else .firmware status.fault
  | other => other

end GuestError

end SnpTestbed
