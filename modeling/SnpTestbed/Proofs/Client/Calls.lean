import SnpTestbed.Client
import SnpTestbed.Device.Scripted

/-!
# The calls that a client makes

A client is generic in its channel, so the calls that it makes can be watched by giving
it a channel that passes every call on and keeps a record. A client does not notice:
`getReport_watched` and its siblings say that it ends with the same result, activity and
channel. What a client did over its channel is then what its recorded calls did, one after
the other.
-/
namespace SnpTestbed

/-- A channel with a record of the calls that were passed on to it. -/
structure WatchedChannel (δ : Type) where
  channel : δ
  calls : List CallRecord := []

instance {δ : Type} [CommandChannel δ] : CommandChannel (WatchedChannel δ) where
  openAt watched path :=
    let call := CommandChannel.openAt watched.channel path
    { call with after := ⟨call.after, watched.calls ++ [.opened path]⟩ }
  close watched :=
    let call := CommandChannel.close watched.channel
    { call with after := ⟨call.after, watched.calls ++ [.closed]⟩ }
  exchange {command} watched number request :=
    let exchange := CommandChannel.exchange watched.channel number request
    { exchange with device := ⟨exchange.device, watched.calls ++ [.issued number command request]⟩ }

namespace Client

section Protocol

variable {δ : Type} [CommandChannel δ] (client : Client δ)

/-- The call that sends a payload under the number of its own command. -/
def sending {command : Command} (payload : Payload command) : CallRecord :=
  .issued command.number command (.make client.version payload)

/-- The first exchange of an extended report. -/
def probe (base : ReportRequest) : Exchange δ .extendedReport :=
  client.issue (.extendedReport (.make base) {})

/-- What the first exchange left, with a buffer of the length that it asked for. -/
def resized (base : ReportRequest) : Payload .extendedReport :=
  let (request, response) := (client.probe base).request.payload.extended
  .extendedReport (request.resize request.claimed) response

/-- The second exchange of an extended report. -/
def retry (base : ReportRequest) : Exchange δ .extendedReport :=
  (client.holding (client.probe base).device).issue (client.resized base)

/-- Whether the first exchange was refused for the length of its buffer. -/
def probeRefused (base : ReportRequest) : Bool :=
  match (client.probe base).exit with
  | .ok _ => false
  | .error error => refusedLength (client.probe base) error

/-- The length that the first exchange asked for. -/
def probedLength (base : ReportRequest) : UInt32 :=
  (client.probe base).request.payload.extended.1.claimed

variable {client} {data : Option Report.Data} {vmpl : Option UInt32} {base : ReportRequest}

/-- A privilege level out of range is not asked for. -/
theorem getExtendedReport_of_fault {fault : FirmwareFault}
    (refused : ReportRequest.make data vmpl = .error fault) :
    client.getExtendedReport data vmpl =
      { result := .error (.firmware fault), after := client } := by
  simp only [getExtendedReport, refused]

/-- Unless the probe is refused for its length, it is the only exchange. -/
theorem getExtendedReport_of_settled (made : ReportRequest.make data vmpl = .ok base)
    (settled : client.probeRefused base = false) :
    client.getExtendedReport data vmpl =
      { result := certifiedReport (client.probe base)
        activity := (client.probe base).activity
        after := client.holding (client.probe base).device } := by
  unfold probeRefused probe at settled
  unfold getExtendedReport probe
  simp only [made]
  cases ended : (client.issue (.extendedReport (.make base) {})).exit with
  | ok exit => rfl
  | error error =>
    simp only [ended] at settled
    simp only [settled, Bool.false_eq_true, if_false]

/-- A host without certificates is asked for a plain report. -/
theorem getExtendedReport_of_empty (made : ReportRequest.make data vmpl = .ok base)
    (refused : client.probeRefused base = true) (empty : client.probedLength base = 0) :
    client.getExtendedReport data vmpl =
      let plain := (client.holding (client.probe base).device).getReport data vmpl
      { result := plain.result.map (·, none)
        activity := (client.probe base).activity ++ plain.activity
        after := plain.after } := by
  unfold probeRefused probe at refused
  unfold probedLength probe at empty
  unfold getExtendedReport probe
  simp only [made]
  cases ended : (client.issue (.extendedReport (.make base) {})).exit with
  | ok exit => simp only [ended, Bool.false_eq_true] at refused
  | error error =>
    simp only [ended] at refused
    simp only [refused, empty, if_true]

/-- Any other host is asked again. -/
theorem getExtendedReport_of_length (made : ReportRequest.make data vmpl = .ok base)
    (refused : client.probeRefused base = true) (length : client.probedLength base ≠ 0) :
    client.getExtendedReport data vmpl =
      { result := certifiedReport (client.retry base)
        activity := (client.probe base).activity ++ (client.retry base).activity
        after := client.holding (client.retry base).device } := by
  unfold probeRefused probe at refused
  unfold probedLength probe at length
  unfold getExtendedReport retry resized probe
  simp only [made]
  cases ended : (client.issue (.extendedReport (.make base) {})).exit with
  | ok exit => simp only [ended, Bool.false_eq_true] at refused
  | error error =>
    simp only [ended] at refused
    simp only [refused, if_true, if_neg length]
    rfl

end Protocol

section Watching

variable {δ α : Type} [CommandChannel δ]

/-- The client with its channel watched from now on. -/
def watched (client : Client δ) : Client (WatchedChannel δ) :=
  ⟨{ channel := client.device }, client.version⟩

/-- The client without the watch. -/
def unwatched (client : Client (WatchedChannel δ)) : Client δ :=
  ⟨client.device.channel, client.version⟩

/-- The calls over its channel that a client makes for one call of its own. -/
def calls (client : Client δ)
    (call : Client (WatchedChannel δ) → Call (Client (WatchedChannel δ)) α) : List CallRecord :=
  (call client.watched).after.device.calls

/-- A call of a client that goes over a watched channel as it goes over the channel itself. -/
structure Undisturbed (watched : Call (Client (WatchedChannel δ)) α)
    (plain : Call (Client δ) α) : Prop where
  outcome : watched.toOutcome = plain.toOutcome
  after : watched.after.unwatched = plain.after

variable (client : Client (WatchedChannel δ)) (data : Option Report.Data) (vmpl : Option UInt32)

theorem getReport_watched :
    Undisturbed (client.getReport data vmpl) (client.unwatched.getReport data vmpl) := by
  unfold getReport
  split
  · exact ⟨rfl, rfl⟩
  · exact ⟨rfl, rfl⟩

theorem probeRefused_watched (base : ReportRequest) :
    client.probeRefused base = client.unwatched.probeRefused base := rfl

theorem probedLength_watched (base : ReportRequest) :
    client.probedLength base = client.unwatched.probedLength base := rfl

theorem getExtendedReport_watched :
    Undisturbed (client.getExtendedReport data vmpl)
      (client.unwatched.getExtendedReport data vmpl) := by
  cases made : ReportRequest.make data vmpl with
  | error fault =>
    rw [getExtendedReport_of_fault made, getExtendedReport_of_fault made]
    exact ⟨rfl, rfl⟩
  | ok base =>
    have refusedToo := probeRefused_watched client base
    have lengthToo := probedLength_watched client base
    cases refused : client.unwatched.probeRefused base with
    | false =>
      rw [getExtendedReport_of_settled made refused,
        getExtendedReport_of_settled made (refusedToo.trans refused)]
      exact ⟨rfl, rfl⟩
    | true =>
      by_cases empty : client.unwatched.probedLength base = 0
      · obtain ⟨outcome, after⟩ :=
          getReport_watched (client.holding (client.probe base).device) data vmpl
        rw [getExtendedReport_of_empty made refused empty,
          getExtendedReport_of_empty made (refusedToo.trans refused) (lengthToo.trans empty)]
        refine ⟨?_, after⟩
        -- The probe is the same exchange for both, so only the plain report is left to compare.
        exact congrArg (fun plain : Outcome Report.Body =>
          (⟨plain.result.map (·, none), (client.probe base).activity ++ plain.activity⟩ :
            Outcome CertifiedReport)) outcome
      · rw [getExtendedReport_of_length made refused empty,
          getExtendedReport_of_length made (refusedToo.trans refused) (lengthToo ▸ empty)]
        exact ⟨rfl, rfl⟩

theorem getCertificates_watched (data : Report.Data) :
    Undisturbed (client.getCertificates data) (client.unwatched.getCertificates data) := by
  obtain ⟨outcome, after⟩ := getExtendedReport_watched client (some data) none
  refine ⟨?_, after⟩
  unfold getCertificates
  dsimp only
  rw [outcome]

theorem getDerivedKey_watched (choice : DerivedKeyChoice) :
    Undisturbed (client.getDerivedKey choice) (client.unwatched.getDerivedKey choice) :=
  ⟨rfl, rfl⟩

end Watching

end Client

end SnpTestbed
