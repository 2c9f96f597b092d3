import SnpTestbed.Channel

/-!
# The scripted device

A channel that plays prepared replies, whatever it is asked, and keeps a record
of every call as it came in. A reply writes only the fields that it has.
-/
namespace SnpTestbed

/-- A prepared reply to a command. -/
structure ScriptedReply where
  status : Option UInt32 := none
  report : Option Report.Body := none
  buffer : Option Bytes := none
  claimed : Option UInt32 := none
  key : Option (Block derivedKeySize) := none
  requestStatus : FirmwareStatus := .success
  exit : Except GuestError ExitResult := .ok .ok

/-- A call as it came in. -/
inductive CallRecord
  | opened (path : String)
  | closed
  | issued (number : UInt64) (command : Command) (request : GuestRequest command)

/-- A device that plays replies in order. -/
structure ScriptedDevice where
  openError : Option GuestError := none
  closeError : Option GuestError := none
  replies : List ScriptedReply := []
  calls : List CallRecord := []

namespace ScriptedReply

/-- A report response with what the reply has to say. -/
def writeReport (reply : ScriptedReply) (response : ReportResponse) : ReportResponse :=
  { response with
    status := reply.status.getD response.status
    report := reply.report.getD response.report }

/-- A payload with what the reply has to say. -/
def write (reply : ScriptedReply) {command : Command} : Payload command → Payload command
  | .report request response => .report request (reply.writeReport response)
  | .extendedReport request response =>
    .extendedReport
      { request with
        buffer := reply.buffer.getD request.buffer
        claimed := reply.claimed.getD request.claimed }
      (reply.writeReport response)
  | .derivedKey request response =>
    .derivedKey request
      { status := reply.status.getD response.status, key := reply.key.getD response.key }

end ScriptedReply

namespace ScriptedDevice

/-- The device with one more call on record. -/
def recording (device : ScriptedDevice) (call : CallRecord) : ScriptedDevice :=
  { device with calls := device.calls ++ [call] }

/-- The result of a call that fails if there is an error for it. -/
def outcome : Option GuestError → Except GuestError Unit
  | none => .ok ()
  | some error => .error error

/-- Plays the next reply; a script that has run out is an error. -/
def exchange (device : ScriptedDevice) {command : Command} (number : UInt64)
    (request : GuestRequest command) : Exchange ScriptedDevice command :=
  let recorded := device.recording (.issued number command request)
  match device.replies with
  | [] =>
    { exit := .error (.input (.described "script exhausted"))
      request := { request with status := .success }
      device := recorded }
  | reply :: later =>
    { exit := reply.exit
      request := ⟨request.version, reply.write request.payload, reply.requestStatus⟩
      device := { recorded with replies := later } }

instance : CommandChannel ScriptedDevice where
  openAt device path :=
    { result := outcome device.openError, after := device.recording (.opened path) }
  close device := { result := outcome device.closeError, after := device.recording .closed }
  exchange device number request := exchange device number request

/-- The device with an empty record. -/
def forget (device : ScriptedDevice) : ScriptedDevice := { device with calls := [] }

end ScriptedDevice

end SnpTestbed
