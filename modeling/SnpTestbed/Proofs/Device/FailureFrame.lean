import SnpTestbed.Proofs.Device.Outcomes

/-!
# What a failed command leaves as it was

A command writes to at most four places of its caller's request: the response, the
certificate buffer, the claimed length, and the status. `FailureFrame` says for
each of them when a failure touches it, and `exchange_frame` that every failure of
every command keeps to it.
-/
namespace SnpTestbed

/-- The signer refuses messages for its own reasons only. -/
def Signer.FailsBySigning (signer : Signer) : Prop :=
  ∀ message error, signer.sign message = .error error → ∃ fault, error = .signing fault

/-- Whether a certificate buffer was too short. -/
def GuestError.isBufferTooSmall : GuestError → Bool
  | .bufferTooSmall _ _ => true
  | _ => false

/-- The status after a failure: the one that a failed request carries, and else the one before. -/
structure StatusFrame (before after : FirmwareStatus) (error : GuestError) : Prop where
  kept : error.isRequestFailure = false → after = before
  set : ∀ exit status, error = .requestFailed exit status →
    after = status ∧ status.isSuccess = false

namespace StatusFrame

theorem unchanged (status : FirmwareStatus) {error : GuestError}
    (other : error.isRequestFailure = false) : StatusFrame status status error where
  kept _ := rfl
  set := by
    rintro exit failed rfl
    contradiction

theorem injected (before : FirmwareStatus) (exit : ExitResult) {status : FirmwareStatus}
    (failing : status.isSuccess = false) :
    StatusFrame before status (.requestFailed exit status) where
  kept other := by contradiction
  set := by
    rintro _ _ ⟨⟩
    exact ⟨rfl, failing⟩

end StatusFrame

namespace Payload

variable {command : Command}

/-- The report response that travels with a command. -/
def report? : Payload command → Option ReportResponse
  | .report _ response => some response
  | .extendedReport _ response => some response
  | .derivedKey _ _ => none

/-- The key response that travels with a command. -/
def key? : Payload command → Option DerivedKeyResponse
  | .derivedKey _ response => some response
  | _ => none

/-- The certificate buffer that travels with a command. -/
def buffer? : Payload command → Option Bytes
  | .extendedReport request _ => some request.buffer
  | _ => none

/-- The length that a caller claims for its certificate buffer. -/
def claimed? : Payload command → Option UInt32
  | .extendedReport request _ => some request.claimed
  | _ => none

/-- Only extended reports claim a buffer. -/
theorem command_of_claimed? {payload : Payload command} {length : UInt32}
    (claims : payload.claimed? = some length) : command = .extendedReport := by
  cases payload with
  | extendedReport _ _ => rfl
  | report _ _ => contradiction
  | derivedKey _ _ => contradiction

end Payload

/-- The plain request for the report of an extended one, into the same response. -/
def GuestRequest.plain? {command : Command} (request : GuestRequest command) :
    Option (GuestRequest .report) :=
  match request.payload with
  | .extendedReport extended response =>
    some ⟨request.version, .report extended.base response, request.status⟩
  | _ => none

namespace ProgrammedDevice

/-- The device answers this command with the length that a certificate buffer has to have. -/
structure AnswersProbe (device : ProgrammedDevice) {command : Command} (number : UInt64)
    (request : GuestRequest command) : Prop where
  isOpen : device.isOpen = true
  number : number = Command.extendedReport.number
  asks : request.payload.claimed? = some 0
  small : device.certificates.length < UInt32.size

/-- What a command that failed with `error` may have changed of its request. -/
structure FailureFrame (device : ProgrammedDevice) {command : Command} (number : UInt64)
    (request after : GuestRequest command) (error : GuestError) : Prop where
  report : error.isBufferTooSmall = false → after.payload.report? = request.payload.report?
  servedReport : error.isBufferTooSmall = true → ∃ plain exit, request.plain? = some plain ∧
    (device.exchange Command.report.number plain).exit = .ok exit ∧
    after.payload.report? =
      (device.exchange Command.report.number plain).request.payload.report?
  key : after.payload.key? = request.payload.key?
  buffer : after.payload.buffer? = request.payload.buffer?
  claimed : ¬device.AnswersProbe number request →
    after.payload.claimed? = request.payload.claimed?
  probed : device.AnswersProbe number request → error.isRequestFailure = true ∧
    ∃ length, after.payload.claimed? = some length ∧ length.toNat = device.certificates.length
  status : StatusFrame request.status after.status error

variable {device : ProgrammedDevice}

/-- A failed report request leaves the response alone, and is never about a buffer. -/
theorem answerReport_failure (failsBySigning : device.signer.FailsBySigning)
    {request : ReportRequest} {response : ReportResponse} {status : FirmwareStatus}
    {answer : Answer ReportResponse} {error : GuestError}
    (answered : device.answerReport request response status = answer)
    (failed : answer.exit = .error error) :
    answer.payload = response ∧ error.isBufferTooSmall = false ∧
      StatusFrame status answer.status error := by
  have outcome := device.answerReport_outcome request response status
  rw [answered] at outcome
  cases outcome with
  | missing absent =>
    injection failed with failed
    subst failed
    exact ⟨rfl, rfl, .unchanged status rfl⟩
  | injected found failing =>
    injection failed with failed
    subst failed
    exact ⟨rfl, rfl, .injected status _ failing⟩
  | unsigned found passing refused =>
    obtain ⟨fault, rfl⟩ := failsBySigning _ _ refused
    injection failed with failed
    subst failed
    exact ⟨rfl, rfl, .unchanged status rfl⟩
  | served found passing signed => contradiction

/-- A request that came back with nothing but its status set keeps to the frame, unless it was a
probe or its error claims a change. -/
theorem FailureFrame.statusOnly {command : Command} {number : UInt64}
    {request : GuestRequest command} {status : FirmwareStatus} {error : GuestError}
    (unprobed : ¬device.AnswersProbe number request) (noBuffer : error.isBufferTooSmall = false)
    (statusFrame : StatusFrame request.status status error) :
    device.FailureFrame number request { request with status } error where
  report _ := rfl
  servedReport short := by
    rw [noBuffer] at short
    contradiction
  key := rfl
  buffer := rfl
  claimed _ := rfl
  probed probe := absurd probe unprobed
  status := statusFrame

/-- A request that came back as it was keeps to the frame in the same way. -/
theorem FailureFrame.unchanged {command : Command} {number : UInt64}
    {request : GuestRequest command} {error : GuestError}
    (unprobed : ¬device.AnswersProbe number request) (noFailure : error.isRequestFailure = false)
    (noBuffer : error.isBufferTooSmall = false) :
    device.FailureFrame number request request error :=
  .statusOnly unprobed noBuffer (.unchanged request.status noFailure)

theorem reportFrame (failsBySigning : device.signer.FailsBySigning) {number : UInt64}
    {version : UInt32} {request : ReportRequest} {response : ReportResponse}
    {status : FirmwareStatus} {error : GuestError} {answer : Answer ReportResponse}
    (answered : device.answerReport request response status = answer)
    (failed : answer.exit = .error error) :
    device.FailureFrame number ⟨version, .report request response, status⟩
      ⟨version, .report request answer.payload, answer.status⟩ error := by
  obtain ⟨kept, noBuffer, statusFrame⟩ := answerReport_failure failsBySigning answered failed
  have unprobed : ¬device.AnswersProbe number
      ⟨version, .report request response, status⟩ := fun probe => nomatch probe.asks
  rw [kept]
  exact .statusOnly unprobed noBuffer statusFrame

theorem keyFrame {number : UInt64} {version : UInt32} {request : DerivedKeyRequest}
    {response : DerivedKeyResponse} {status : FirmwareStatus} {error : GuestError}
    {answer : Answer DerivedKeyResponse}
    (answered : device.answerKey request response status = answer)
    (failed : answer.exit = .error error) :
    device.FailureFrame number ⟨version, .derivedKey request response, status⟩
      ⟨version, .derivedKey request answer.payload, answer.status⟩ error := by
  have outcome := device.answerKey_outcome request response status
  rw [answered] at outcome
  have unprobed : ¬device.AnswersProbe number
      ⟨version, .derivedKey request response, status⟩ := fun probe => nomatch probe.asks
  cases outcome with
  | noKeys empty =>
    injection failed with failed
    subst failed
    exact .unchanged unprobed rfl rfl
  | unmapped stocked absent =>
    injection failed with failed
    subst failed
    exact .unchanged unprobed rfl rfl
  | copied stocked found => contradiction

/-- A buffer that is too short is found out after the report was served, so the response is that
of the plain request. -/
theorem shortBufferFrame {number : UInt64} {version : UInt32}
    {request : ExtendedReportRequest} {response : ReportResponse} {status : FirmwareStatus}
    {exit : ExitResult} {provided required : Nat} {plain : Answer ReportResponse}
    (isOpen : device.isOpen = true) (claims : request.claimed ≠ 0)
    (answered : device.answerReport request.base response status = plain)
    (succeeds : plain.exit = .ok exit) :
    device.FailureFrame number ⟨version, .extendedReport request response, status⟩
      ⟨version, .extendedReport request plain.payload, plain.status⟩
      (.bufferTooSmall provided required) where
  report other := by contradiction
  servedReport _ := by
    refine ⟨_, exit, rfl, ?_, ?_⟩
    · simpa only [exchange_of_isOpen isOpen, answer, answered] using succeeds
    · simp only [exchange_of_isOpen isOpen, answer, answered]
      rfl
  key := rfl
  buffer := rfl
  claimed _ := rfl
  probed probe := absurd (Option.some.inj probe.asks) claims
  status := by
    rw [answerReport_success answered succeeds]
    exact .unchanged status rfl

theorem extendedFrame (failsBySigning : device.signer.FailsBySigning)
    (isOpen : device.isOpen = true) {version : UInt32} {request : ExtendedReportRequest}
    {response : ReportResponse} {status : FirmwareStatus} {error : GuestError}
    {answer : Answer (ExtendedReportRequest × ReportResponse)}
    (answered : device.answerExtended request response status = answer)
    (failed : answer.exit = .error error) :
    device.FailureFrame Command.extendedReport.number
      ⟨version, .extendedReport request response, status⟩
      ⟨version, .extendedReport answer.payload.1 answer.payload.2, answer.status⟩ error := by
  have outcome := device.answerExtended_outcome request response status
  rw [answered] at outcome
  cases outcome with
  | unanswerable asks large =>
    injection failed with failed
    subst failed
    exact .unchanged (fun probe => absurd probe.small (Nat.not_lt_of_le large)) rfl rfl
  | probed asks small =>
    injection failed with failed
    subst failed
    exact {
      report _ := rfl
      servedReport short := by contradiction
      key := rfl
      buffer := rfl
      claimed unprobed := absurd ⟨isOpen, rfl, congrArg some asks, small⟩ unprobed
      probed _ := ⟨rfl, _, rfl, UInt32.toNat_ofNat_of_lt' small⟩
      status := .injected status _ rfl }
  | failed claims plainAnswered fails =>
    injection failed with failed
    subst failed
    obtain ⟨kept, noBuffer, statusFrame⟩ :=
      answerReport_failure failsBySigning plainAnswered fails
    have unprobed : ¬device.AnswersProbe Command.extendedReport.number
        ⟨version, .extendedReport request response, status⟩ :=
      fun probe => claims (Option.some.inj probe.asks)
    rw [kept]
    exact .statusOnly unprobed noBuffer statusFrame
  | claimTooSmall claims plainAnswered succeeds short =>
    injection failed with failed
    subst failed
    exact shortBufferFrame isOpen claims plainAnswered succeeds
  | bufferTooSmall claims plainAnswered succeeds enough short =>
    injection failed with failed
    subst failed
    exact shortBufferFrame isOpen claims plainAnswered succeeds
  | filled claims plainAnswered succeeds enough fits => contradiction

/-- An extended report that is served leaves the claimed length and the status alone. -/
theorem answerExtended_success {request : ExtendedReportRequest} {response : ReportResponse}
    {status : FirmwareStatus} {answer : Answer (ExtendedReportRequest × ReportResponse)}
    {exit : ExitResult} (answered : device.answerExtended request response status = answer)
    (succeeded : answer.exit = .ok exit) :
    answer.payload.1.claimed = request.claimed ∧ answer.status = status := by
  have outcome := device.answerExtended_outcome request response status
  rw [answered] at outcome
  cases outcome with
  | filled claims plainAnswered succeeds enough fits =>
    exact ⟨rfl, answerReport_success plainAnswered succeeds⟩
  | _ => contradiction

theorem answerKey_status (request : DerivedKeyRequest) (response : DerivedKeyResponse)
    (status : FirmwareStatus) : (device.answerKey request response status).status = status := by
  generalize answered : device.answerKey request response status = answer
  have outcome := device.answerKey_outcome request response status
  rw [answered] at outcome
  cases outcome with
  | _ => rfl

/-- Every failure keeps to the frame, and a success leaves the status and the claimed length
alone. -/
theorem exchange_frame (device : ProgrammedDevice)
    (failsBySigning : device.signer.FailsBySigning) {command : Command} (number : UInt64)
    (request : GuestRequest command) :
    (∀ error, (device.exchange number request).exit = .error error →
      device.FailureFrame number request (device.exchange number request).request error) ∧
    (∀ exit, (device.exchange number request).exit = .ok exit →
      (device.exchange number request).request.status = request.status ∧
      (device.exchange number request).request.payload.claimed? = request.payload.claimed?) := by
  have outcome := device.exchange_outcome number request
  generalize device.exchange number request = exchange at outcome ⊢
  cases outcome with
  | misnumbered wrong =>
    refine ⟨?_, fun _ succeeded => by contradiction⟩
    rintro _ ⟨⟩
    refine .unchanged (fun probe => wrong ?_) rfl rfl
    rw [Payload.command_of_claimed? probe.asks]
    exact probe.number
  | closed right isClosed =>
    refine ⟨?_, fun _ succeeded => by contradiction⟩
    rintro _ ⟨⟩
    refine .unchanged (fun probe => ?_) rfl rfl
    have isOpen := probe.isOpen
    rw [isClosed] at isOpen
    contradiction
  | answered right isOpen answers =>
    subst right answers
    obtain ⟨version, payload, status⟩ := request
    cases payload with
    | report request response =>
      exact ⟨fun _ failed => reportFrame failsBySigning rfl failed,
        fun _ succeeded => ⟨answerReport_success rfl succeeded, rfl⟩⟩
    | extendedReport request response =>
      refine ⟨fun _ failed => extendedFrame failsBySigning isOpen rfl failed, ?_⟩
      intro exit succeeded
      obtain ⟨claimed, kept⟩ := answerExtended_success rfl succeeded
      exact ⟨kept, congrArg some claimed⟩
    | derivedKey request response =>
      exact ⟨fun _ failed => keyFrame rfl failed,
        fun _ _ => ⟨answerKey_status request response status, rfl⟩⟩

theorem exchange_frame_probe :
    (Signer.failing (.signing .noSignature)).FailsBySigning ∧
      FailureFrame
        { isOpen := true, certificates := [1, 2, 3], signer := .failing (.signing .noSignature) }
        Command.extendedReport.number
        (.make none (.extendedReport (.make ⟨Block.zeros _, 1, by decide⟩) { status := 7 }))
        ⟨1, .extendedReport ⟨⟨Block.zeros _, 1, by decide⟩, [], 3⟩ { status := 7 }, .invalidLength⟩
        (.requestFailed .ok .invalidLength) := by
  have failsBySigning : (Signer.failing (.signing .noSignature)).FailsBySigning := by
    rintro message error ⟨⟩
    exact ⟨_, rfl⟩
  exact ⟨failsBySigning, (exchange_frame
    { isOpen := true, certificates := [1, 2, 3], signer := .failing (.signing .noSignature) }
    failsBySigning Command.extendedReport.number _).1 _ rfl⟩

end ProgrammedDevice

end SnpTestbed
