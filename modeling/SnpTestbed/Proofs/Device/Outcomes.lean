import SnpTestbed.Device.Programmed

/-!
# What the commands of a programmed device come to

Every way in which a command can end is one constructor, with the conditions that
lead there and the whole answer: exit, what was written, status, and activity.
`answerReport_outcome`, `answerExtended_outcome`, `answerKey_outcome` and
`exchange_outcome` say that there are no other ways, so that a statement about
commands is proved by cases on their outcome and does not open the device again.

Where the conditions are given, `answerReport_of_signed`, `answerExtended_of_room` and
the lemmas beside them say which answer follows, and `exchange_of_isOpen` that an open
device gives it.
-/
namespace SnpTestbed

/-- A command is found by its own number and by no other. -/
theorem Command.ofNumber?_eq_some_iff {number : UInt64} {command : Command} :
    ofNumber? number = some command ↔ number = command.number := by
  constructor
  · intro found
    have same := List.find?_some found
    exact (beq_iff_eq.mp same).symm
  · rintro rfl
    cases command <;> decide

/-- Bytes that a device may write into the buffer: those that it holds and that are claimed. -/
def ExtendedReportRequest.room (request : ExtendedReportRequest) : Nat :=
  min request.claimed.toNat request.buffer.length

/-- The length that is held against a request without room: the claimed one if that one is too
short, and else the buffer's. -/
def ExtendedReportRequest.provided (request : ExtendedReportRequest) (required : Nat) : Nat :=
  if request.claimed.toNat < required then request.claimed.toNat else request.buffer.length

theorem ExtendedReportRequest.provided_lt {request : ExtendedReportRequest} {required : Nat}
    (short : request.room < required) : request.provided required < required := by
  unfold room at short
  unfold provided
  split <;> omega

namespace Exchange

variable {δ : Type} {command : Command} {first second third : Exchange δ command}

/-- Two exchanges tell their caller the same, whatever became of the device. -/
structure Agrees (first second : Exchange δ command) : Prop where
  exit : first.exit = second.exit
  request : first.request = second.request
  activity : first.activity = second.activity

theorem Agrees.trans (earlier : first.Agrees second) (later : second.Agrees third) :
    first.Agrees third where
  exit := earlier.exit.trans later.exit
  request := earlier.request.trans later.request
  activity := earlier.activity.trans later.activity

end Exchange

namespace ProgrammedDevice

variable (device : ProgrammedDevice)

/-- What a report request comes to. -/
inductive ReportOutcome (request : ReportRequest) (response : ReportResponse)
    (status : FirmwareStatus) : Answer ReportResponse → Prop
  | missing (absent : device.reports.find? (Report.dataKey request.data) = none) :
    ReportOutcome request response status
      ⟨.error (.noResponse (Report.dataKey request.data)), response, status, {}⟩
  | injected {canned : CannedReport}
    (found : device.reports.find? (Report.dataKey request.data) = some canned)
    (failing : canned.status.isSuccess = false) :
    ReportOutcome request response status
      ⟨.error (.requestFailed canned.exit canned.status), response, canned.status,
        .logging (.warn ("injecting firmware error " ++ canned.status.text ++
          " for report request"))⟩
  | unsigned {canned : CannedReport} {error : GuestError}
    (found : device.reports.find? (Report.dataKey request.data) = some canned)
    (passing : canned.status.isSuccess = true)
    (refused : device.signer.sign (Report.signedBytes canned.body) = .error error) :
    ReportOutcome request response status
      ⟨.error error, response, status, .signing (Report.signedBytes canned.body)⟩
  | served {canned : CannedReport} {signature : Signature}
    (found : device.reports.find? (Report.dataKey request.data) = some canned)
    (passing : canned.status.isSuccess = true)
    (signed : device.signer.sign (Report.signedBytes canned.body) = .ok signature) :
    ReportOutcome request response status
      ⟨.ok canned.exit, ⟨0, UInt32.ofNat Report.size, Report.embed signature canned.body⟩, status,
        .signing (Report.signedBytes canned.body)⟩

theorem answerReport_outcome (request : ReportRequest) (response : ReportResponse)
    (status : FirmwareStatus) :
    device.ReportOutcome request response status
      (device.answerReport request response status) := by
  unfold answerReport lookup
  cases found : device.reports.find? (Report.dataKey request.data) with
  | none => exact .missing found
  | some canned =>
    by_cases passing : canned.status.isSuccess = true
    · simp only [if_pos passing, sign, Signer.ask, Outcome.map]
      cases signed : device.signer.sign (Report.signedBytes canned.body) with
      | error error => exact .unsigned found passing signed
      | ok signature => exact .served found passing signed
    · simp only [if_neg passing]
      exact .injected found (Bool.eq_false_iff.mpr passing)

/-- What an extended report request comes to. A request that claims a buffer starts as the plain
request for the same data, and keeps what that one wrote. -/
inductive ExtendedOutcome (request : ExtendedReportRequest) (response : ReportResponse)
    (status : FirmwareStatus) : Answer (ExtendedReportRequest × ReportResponse) → Prop
  | unanswerable (asks : request.claimed = 0)
    (large : UInt32.size ≤ device.certificates.length) :
    ExtendedOutcome request response status
      ⟨.error (.input (.tooManyCertificates device.certificates.length)), (request, response),
        status, .logging (.debug ("extended report size probe, " ++
          toString device.certificates.length ++ " cert bytes"))⟩
  | probed (asks : request.claimed = 0) (small : device.certificates.length < UInt32.size) :
    ExtendedOutcome request response status
      ⟨.error (.requestFailed .ok .invalidLength),
        ({ request with claimed := UInt32.ofNat device.certificates.length }, response),
        .invalidLength, .logging (.debug ("extended report size probe, " ++
          toString device.certificates.length ++ " cert bytes"))⟩
  | failed {error : GuestError} {plain : Answer ReportResponse} (claims : request.claimed ≠ 0)
    (answered : device.answerReport request.base response status = plain)
    (fails : plain.exit = .error error) :
    ExtendedOutcome request response status
      ⟨.error error, (request, plain.payload), plain.status, plain.activity⟩
  | claimTooSmall {exit : ExitResult} {plain : Answer ReportResponse}
    (claims : request.claimed ≠ 0)
    (answered : device.answerReport request.base response status = plain)
    (succeeds : plain.exit = .ok exit)
    (short : request.claimed.toNat < device.certificates.length) :
    ExtendedOutcome request response status
      ⟨.error (.bufferTooSmall request.claimed.toNat device.certificates.length),
        (request, plain.payload), plain.status, plain.activity⟩
  | bufferTooSmall {exit : ExitResult} {plain : Answer ReportResponse}
    (claims : request.claimed ≠ 0)
    (answered : device.answerReport request.base response status = plain)
    (succeeds : plain.exit = .ok exit)
    (enough : device.certificates.length ≤ request.claimed.toNat)
    (short : request.buffer.length < device.certificates.length) :
    ExtendedOutcome request response status
      ⟨.error (.bufferTooSmall request.buffer.length device.certificates.length),
        (request, plain.payload), plain.status, plain.activity⟩
  | filled {exit : ExitResult} {plain : Answer ReportResponse} (claims : request.claimed ≠ 0)
    (answered : device.answerReport request.base response status = plain)
    (succeeds : plain.exit = .ok exit)
    (enough : device.certificates.length ≤ request.claimed.toNat)
    (fits : device.certificates.length ≤ request.buffer.length) :
    ExtendedOutcome request response status
      ⟨.ok exit,
        ({ request with buffer := Bytes.overwrite request.buffer 0 device.certificates },
          plain.payload), plain.status, plain.activity⟩

theorem answerExtended_outcome (request : ExtendedReportRequest) (response : ReportResponse)
    (status : FirmwareStatus) :
    device.ExtendedOutcome request response status
      (device.answerExtended request response status) := by
  unfold answerExtended
  by_cases asks : request.claimed = 0
  · rw [if_pos asks]
    unfold answerProbe
    by_cases large : UInt32.size ≤ device.certificates.length
    · simp only [if_pos large]
      exact .unanswerable asks large
    · simp only [if_neg large]
      exact .probed asks (Nat.lt_of_not_le large)
  · rw [if_neg asks]
    generalize answered : device.answerReport request.base response status = plain
    cases ended : plain.exit with
    | error error =>
      simp only [ended]
      exact .failed asks answered ended
    | ok exit =>
      simp only [ended]
      by_cases claimShort : request.claimed.toNat < device.certificates.length
      · simp only [if_pos claimShort]
        exact .claimTooSmall asks answered ended claimShort
      · by_cases bufferShort : request.buffer.length < device.certificates.length
        · simp only [if_neg claimShort, if_pos bufferShort]
          exact .bufferTooSmall asks answered ended (Nat.le_of_not_lt claimShort) bufferShort
        · simp only [if_neg claimShort, if_neg bufferShort]
          exact .filled asks answered ended (Nat.le_of_not_lt claimShort)
            (Nat.le_of_not_lt bufferShort)

/-- A probe logs what it tells. -/
theorem answerExtended_activity_of_probe {request : ExtendedReportRequest}
    (asks : request.claimed = 0) (response : ReportResponse) (status : FirmwareStatus) :
    (device.answerExtended request response status).activity =
      .logging (.debug ("extended report size probe, " ++ toString device.certificates.length ++
        " cert bytes")) := by
  generalize answered : device.answerExtended request response status = answer
  have outcome := device.answerExtended_outcome request response status
  rw [answered] at outcome
  cases outcome with
  | unanswerable _ large => rfl
  | probed _ small => rfl
  | _ => contradiction

/-- Nothing is logged or signed for the certificates behind a report. -/
theorem answerExtended_activity {request : ExtendedReportRequest} (claims : request.claimed ≠ 0)
    (response : ReportResponse) (status : FirmwareStatus) :
    (device.answerExtended request response status).activity =
      (device.answerReport request.base response status).activity := by
  generalize answered : device.answerExtended request response status = answer
  have outcome := device.answerExtended_outcome request response status
  rw [answered] at outcome
  cases outcome with
  | unanswerable asks large => contradiction
  | probed asks small => contradiction
  | failed _ same fails => rw [same]
  | claimTooSmall _ same succeeds short => rw [same]
  | bufferTooSmall _ same succeeds enough short => rw [same]
  | filled _ same succeeds enough fits => rw [same]

/-- What a key request comes to. -/
inductive KeyOutcome (request : DerivedKeyRequest) (response : DerivedKeyResponse)
    (status : FirmwareStatus) : Answer DerivedKeyResponse → Prop
  | noKeys (empty : device.keys.size = 0) :
    KeyOutcome request response status ⟨.error .noKeys, response, status, {}⟩
  | unmapped (stocked : device.keys.size ≠ 0)
    (absent : device.keys.find? request.lookupKey = none) :
    KeyOutcome request response status
      ⟨.error (.unmappedKey request.lookupKey), response, status, {}⟩
  | copied {stored : Bytes} (stocked : device.keys.size ≠ 0)
    (found : device.keys.find? request.lookupKey = some stored) :
    KeyOutcome request response status ⟨.ok .ok, ⟨0, copyKey response.key stored⟩, status, {}⟩

theorem answerKey_outcome (request : DerivedKeyRequest) (response : DerivedKeyResponse)
    (status : FirmwareStatus) :
    device.KeyOutcome request response status (device.answerKey request response status) := by
  unfold answerKey
  by_cases empty : device.keys.size = 0
  · rw [if_pos empty]
    exact .noKeys empty
  · rw [if_neg empty]
    cases found : device.keys.find? request.lookupKey with
    | none => exact .unmapped empty found
    | some stored => exact .copied empty found

/-- A key is handed out without a record and without a signature. -/
theorem answerKey_activity (request : DerivedKeyRequest) (response : DerivedKeyResponse)
    (status : FirmwareStatus) : (device.answerKey request response status).activity = {} := by
  generalize answered : device.answerKey request response status = answer
  have outcome := device.answerKey_outcome request response status
  rw [answered] at outcome
  cases outcome with
  | noKeys empty => rfl
  | unmapped stocked absent => rfl
  | copied stocked found => rfl

/-- What a numbered command comes to: it is refused by its number, refused by a closed device, or
answered. -/
inductive ExchangeOutcome {command : Command} (number : UInt64) (request : GuestRequest command) :
    Exchange ProgrammedDevice command → Prop
  | misnumbered (wrong : number ≠ command.number) :
    ExchangeOutcome number request
      { exit := .error (.invalidCommand number), request, device }
  | closed (right : number = command.number) (isClosed : device.isOpen = false) :
    ExchangeOutcome number request { exit := .error .notOpen, request, device }
  | answered {answer : Answer (Payload command)} (right : number = command.number)
    (isOpen : device.isOpen = true)
    (answers : device.answer request.payload request.status = answer) :
    ExchangeOutcome number request
      { exit := answer.exit
        request := ⟨request.version, answer.payload, answer.status⟩
        device
        activity := .logging (.debug ("dispatching " ++ command.title)) ++ answer.activity }

theorem exchange_outcome {command : Command} (number : UInt64) (request : GuestRequest command) :
    device.ExchangeOutcome number request (device.exchange number request) := by
  unfold exchange
  by_cases right : number = command.number
  · rw [if_pos (Command.ofNumber?_eq_some_iff.mpr right)]
    unfold dispatch
    by_cases isOpen : device.isOpen = true
    · rw [if_pos isOpen]
      exact .answered right isOpen rfl
    · rw [if_neg isOpen]
      exact .closed right (Bool.eq_false_iff.mpr isOpen)
  · rw [if_neg fun found => right (Command.ofNumber?_eq_some_iff.mp found)]
    exact .misnumbered right

variable {device}

/-- An open device answers every command under its own number. -/
theorem exchange_of_isOpen {command : Command} (isOpen : device.isOpen = true)
    (request : GuestRequest command) :
    device.exchange command.number request =
      { exit := (device.answer request.payload request.status).exit
        request := ⟨request.version, (device.answer request.payload request.status).payload,
          (device.answer request.payload request.status).status⟩
        device
        activity := .logging (.debug ("dispatching " ++ command.title)) ++
          (device.answer request.payload request.status).activity } := by
  rw [exchange, if_pos (Command.ofNumber?_eq_some_iff.mpr rfl), dispatch, if_pos isOpen]

/-- A closed device refuses every command under its own number. -/
theorem exchange_of_isClosed {command : Command} (isClosed : device.isOpen = false)
    (request : GuestRequest command) :
    device.exchange command.number request = { exit := .error .notOpen, request, device } := by
  rw [exchange, if_pos (Command.ofNumber?_eq_some_iff.mpr rfl), dispatch,
    if_neg (by simp [isClosed])]

/-- Every device refuses a command under another number. -/
theorem exchange_of_ne {command : Command} {number : UInt64} (wrong : number ≠ command.number)
    (request : GuestRequest command) :
    device.exchange number request =
      { exit := .error (.invalidCommand number), request, device } := by
  rw [exchange, if_neg fun found => wrong (Command.ofNumber?_eq_some_iff.mp found)]

/-- A registered report whose signed bytes are signed is served. -/
theorem answerReport_of_signed {request : ReportRequest} {canned : CannedReport}
    {signature : Signature}
    (found : device.reports.find? (Report.dataKey request.data) = some canned)
    (passing : canned.status.isSuccess = true)
    (signed : device.signer.sign (Report.signedBytes canned.body) = .ok signature)
    (response : ReportResponse) (status : FirmwareStatus) :
    device.answerReport request response status =
      ⟨.ok canned.exit, ⟨0, UInt32.ofNat Report.size, Report.embed signature canned.body⟩, status,
        .signing (Report.signedBytes canned.body)⟩ := by
  simp only [answerReport, lookup, found, if_pos passing, sign, Signer.ask, Outcome.map, signed]
  rfl

/-- A registered report fails as the signer does. -/
theorem answerReport_of_unsigned {request : ReportRequest} {canned : CannedReport}
    {error : GuestError}
    (found : device.reports.find? (Report.dataKey request.data) = some canned)
    (passing : canned.status.isSuccess = true)
    (refused : device.signer.sign (Report.signedBytes canned.body) = .error error)
    (response : ReportResponse) (status : FirmwareStatus) :
    device.answerReport request response status =
      ⟨.error error, response, status, .signing (Report.signedBytes canned.body)⟩ := by
  simp only [answerReport, lookup, found, if_pos passing, sign, Signer.ask, Outcome.map, refused]
  rfl

/-- Exit and response of a report command to an open device are those of its answer. -/
theorem exchange_report_of_isOpen (isOpen : device.isOpen = true) (version : UInt32)
    (request : ReportRequest) (response : ReportResponse) (status : FirmwareStatus) :
    ∃ activity, device.exchange Command.report.number ⟨version, .report request response, status⟩ =
      { exit := (device.answerReport request response status).exit
        request := ⟨version,
          .report request (device.answerReport request response status).payload,
          (device.answerReport request response status).status⟩
        device
        activity } :=
  ⟨_, exchange_of_isOpen isOpen _⟩

/-- A report that is served leaves the status alone. -/
theorem answerReport_success {request : ReportRequest} {response : ReportResponse}
    {status : FirmwareStatus} {answer : Answer ReportResponse} {exit : ExitResult}
    (answered : device.answerReport request response status = answer)
    (succeeded : answer.exit = .ok exit) : answer.status = status := by
  have outcome := device.answerReport_outcome request response status
  rw [answered] at outcome
  cases outcome with
  | served found passing signed => rfl
  | _ => contradiction

variable {request : ExtendedReportRequest}

/-- A probe is answered with the length of the certificates, through the claimed length. -/
theorem answerExtended_of_probe (asks : request.claimed = 0)
    (small : device.certificates.length < UInt32.size) (response : ReportResponse)
    (status : FirmwareStatus) :
    ∃ activity, device.answerExtended request response status =
      ⟨.error (.requestFailed .ok .invalidLength),
        ({ request with claimed := UInt32.ofNat device.certificates.length }, response),
        .invalidLength, activity⟩ := by
  rw [answerExtended, if_pos asks, answerProbe]
  simp only [if_neg (Nat.not_le_of_lt small)]
  exact ⟨_, rfl⟩

variable {response : ReportResponse} {status : FirmwareStatus}

/-- A request that claims a buffer fails as the plain one does. -/
theorem answerExtended_of_failed {error : GuestError} (claims : request.claimed ≠ 0)
    (fails : (device.answerReport request.base response status).exit = .error error) :
    device.answerExtended request response status =
      let plain := device.answerReport request.base response status
      ⟨.error error, (request, plain.payload), plain.status, plain.activity⟩ := by
  simp only [answerExtended, if_neg claims, fails]

/-- Where there is room, the certificates are written over the start of the buffer. -/
theorem answerExtended_of_room {exit : ExitResult} (claims : request.claimed ≠ 0)
    (succeeds : (device.answerReport request.base response status).exit = .ok exit)
    (room : device.certificates.length ≤ request.room) :
    device.answerExtended request response status =
      let plain := device.answerReport request.base response status
      let buffer := device.certificates ++ request.buffer.drop device.certificates.length
      ⟨.ok exit, ({ request with buffer }, plain.payload), status, plain.activity⟩ := by
  have claimLong : ¬request.claimed.toNat < device.certificates.length :=
    Nat.not_lt_of_le (Nat.le_trans room (Nat.min_le_left _ _))
  have bufferLong : ¬request.buffer.length < device.certificates.length :=
    Nat.not_lt_of_le (Nat.le_trans room (Nat.min_le_right _ _))
  simp only [answerExtended, if_neg claims, succeeds, if_neg claimLong, if_neg bufferLong,
    Bytes.overwrite_zero, answerReport_success rfl succeeds]

/-- Where there is no room, the buffer is left alone. -/
theorem answerExtended_of_short {exit : ExitResult} (claims : request.claimed ≠ 0)
    (succeeds : (device.answerReport request.base response status).exit = .ok exit)
    (short : request.room < device.certificates.length) :
    device.answerExtended request response status =
      let plain := device.answerReport request.base response status
      let required := device.certificates.length
      ⟨.error (.bufferTooSmall (request.provided required) required), (request, plain.payload),
        status, plain.activity⟩ := by
  have kept := answerReport_success rfl succeeds
  unfold ExtendedReportRequest.provided
  by_cases claimShort : request.claimed.toNat < device.certificates.length
  · simp only [answerExtended, if_neg claims, succeeds, if_pos claimShort, kept]
  · have bufferShort : request.buffer.length < device.certificates.length := by
      unfold ExtendedReportRequest.room at short
      omega
    simp only [answerExtended, if_neg claims, succeeds, if_neg claimShort, if_pos bufferShort,
      kept]

/-- An extended report command to an open device ends as its answer says. -/
theorem exchange_extendedReport_of_isOpen (isOpen : device.isOpen = true) (version : UInt32)
    (request : ExtendedReportRequest) (response : ReportResponse) (status : FirmwareStatus) :
    ∃ activity, device.exchange Command.extendedReport.number
        ⟨version, .extendedReport request response, status⟩ =
      let answered := device.answerExtended request response status
      { exit := answered.exit
        request := ⟨version, .extendedReport answered.payload.1 answered.payload.2,
          answered.status⟩
        device
        activity } :=
  ⟨_, exchange_of_isOpen isOpen _⟩

end ProgrammedDevice

end SnpTestbed
