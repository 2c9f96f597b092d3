import SnpTestbed.Proofs.Device.Consultation

/-!
# What a device refuses

Whether a device opens or closes depends on whether it is open, and on nothing else.
Whether it takes up a command depends on the number that comes with it, and then on
whether it is open. A command that was taken up can only end with the same errors if
the signer gave them: `exchange_invalidCommand_iff` and `exchange_notOpen_iff` leave
no third way.
-/
namespace SnpTestbed

/-- The errors of a command that was not taken up. -/
def GuestError.isRefusal : GuestError → Bool
  | .invalidCommand _ => true
  | .notOpen => true
  | _ => false

namespace ProgrammedDevice

variable {device : ProgrammedDevice} {error : GuestError}

/-- A command that failed for another reason than a refusal, with nothing signed. -/
theorem refusal_iff_of_unsigned {other : GuestError} {activity : Activity}
    (refusal : error.isRefusal = true) (answers : other.isRefusal = false)
    (unsigned : activity.signed = []) :
    (Except.error other : Except GuestError ExitResult) = .error error ↔
      device.SigningFailed activity error := by
  refine iff_of_false ?_ (not_signingFailed unsigned)
  rintro ⟨⟩
  rw [answers] at refusal
  contradiction

/-- A report request that was taken up ends with a refusal only if the signer gave it. -/
theorem answerReport_refusal_iff (refusal : error.isRefusal = true) {request : ReportRequest}
    {response : ReportResponse} {status : FirmwareStatus} {answer : Answer ReportResponse}
    (answered : device.answerReport request response status = answer) :
    answer.exit = .error error ↔ device.SigningFailed answer.activity error := by
  have outcome := device.answerReport_outcome request response status
  rw [answered] at outcome
  cases outcome with
  | missing absent => exact refusal_iff_of_unsigned refusal rfl rfl
  | injected found failing => exact refusal_iff_of_unsigned refusal rfl rfl
  | unsigned found passing refused =>
    rw [signingFailed_signing_iff, refused, Except.error.injEq, Except.error.injEq]
  | served found passing signed =>
    rw [signingFailed_signing_iff, signed]
    exact iff_of_false nofun nofun

theorem answerExtended_refusal_iff (refusal : error.isRefusal = true)
    {request : ExtendedReportRequest} {response : ReportResponse} {status : FirmwareStatus}
    {answer : Answer (ExtendedReportRequest × ReportResponse)}
    (answered : device.answerExtended request response status = answer) :
    answer.exit = .error error ↔ device.SigningFailed answer.activity error := by
  have outcome := device.answerExtended_outcome request response status
  rw [answered] at outcome
  -- Behind a served report nothing is signed any more, and the buffer's errors are no refusals.
  have behind {plain : Answer ReportResponse} {exit : ExitResult}
      (plainAnswered : device.answerReport request.base response status = plain)
      (succeeds : plain.exit = .ok exit) : ¬device.SigningFailed plain.activity error := by
    rw [← answerReport_refusal_iff refusal plainAnswered, succeeds]
    nofun
  cases outcome with
  | unanswerable asks large => exact refusal_iff_of_unsigned refusal rfl rfl
  | probed asks small => exact refusal_iff_of_unsigned refusal rfl rfl
  | failed claims plainAnswered fails =>
    rw [← answerReport_refusal_iff refusal plainAnswered, fails]
  | claimTooSmall claims plainAnswered succeeds short =>
    refine iff_of_false ?_ (behind plainAnswered succeeds)
    rintro ⟨⟩
    contradiction
  | bufferTooSmall claims plainAnswered succeeds enough short =>
    refine iff_of_false ?_ (behind plainAnswered succeeds)
    rintro ⟨⟩
    contradiction
  | filled claims plainAnswered succeeds enough fits =>
    exact iff_of_false nofun (behind plainAnswered succeeds)

theorem answerKey_refusal_iff (refusal : error.isRefusal = true) {request : DerivedKeyRequest}
    {response : DerivedKeyResponse} {status : FirmwareStatus}
    {answer : Answer DerivedKeyResponse}
    (answered : device.answerKey request response status = answer) :
    answer.exit = .error error ↔ device.SigningFailed answer.activity error := by
  have outcome := device.answerKey_outcome request response status
  rw [answered] at outcome
  cases outcome with
  | noKeys empty => exact refusal_iff_of_unsigned refusal rfl rfl
  | unmapped stocked absent => exact refusal_iff_of_unsigned refusal rfl rfl
  | copied stocked found => exact iff_of_false nofun (not_signingFailed rfl)

/-- A command that was taken up ends with a refusal only if the signer gave it. -/
theorem answer_refusal_iff (refusal : error.isRefusal = true) {command : Command}
    (payload : Payload command) (status : FirmwareStatus) :
    (device.answer payload status).exit = .error error ↔
      device.SigningFailed (device.answer payload status).activity error := by
  cases payload with
  | report request response => exact answerReport_refusal_iff refusal rfl
  | extendedReport request response => exact answerExtended_refusal_iff refusal rfl
  | derivedKey request response => exact answerKey_refusal_iff refusal rfl

theorem exchange_number {command : Command} (request : GuestRequest command) :
    device.exchange command.number request = device.dispatch request := by
  rw [exchange, if_pos (Command.ofNumber?_eq_some_iff.mpr rfl)]

/-- The refusals of a command with its own number, to an open device. -/
theorem exchange_refusal_iff_of_isOpen (refusal : error.isRefusal = true)
    (isOpen : device.isOpen = true) {command : Command} (request : GuestRequest command) :
    (device.exchange command.number request).exit = .error error ↔
      device.SigningFailed (device.exchange command.number request).activity error := by
  rw [exchange_of_isOpen isOpen]
  exact answer_refusal_iff refusal request.payload request.status

/-- A command is refused by its number, whether the device is open or not. -/
theorem exchange_invalidCommand_iff {command : Command} (number : UInt64)
    (request : GuestRequest command) :
    (device.exchange number request).exit = .error (.invalidCommand number) ↔
      number ≠ command.number ∨
        device.SigningFailed (device.exchange number request).activity
          (.invalidCommand number) := by
  by_cases right : number = command.number
  · subst right
    cases isOpen : device.isOpen with
    | false =>
      rw [exchange_of_isClosed isOpen]
      exact iff_of_false nofun (by simp [not_signingFailed])
    | true =>
      rw [or_iff_right (not_not_intro rfl)]
      exact exchange_refusal_iff_of_isOpen rfl isOpen request
  · rw [exchange_of_ne right]
    exact iff_of_true rfl (.inl right)

/-- A command with its own number is refused by a closed device. -/
theorem exchange_notOpen_iff {command : Command} (request : GuestRequest command) :
    (device.exchange command.number request).exit = .error .notOpen ↔
      device.isOpen = false ∨
        device.SigningFailed (device.exchange command.number request).activity .notOpen := by
  cases isOpen : device.isOpen with
  | false =>
    rw [exchange_of_isClosed isOpen]
    exact iff_of_true rfl (.inl rfl)
  | true =>
    rw [or_iff_right nofun]
    exact exchange_refusal_iff_of_isOpen rfl isOpen request

/-- An open device whose signer fails as a closed device would. -/
def posingDevice : ProgrammedDevice where
  isOpen := true
  reports := Catalog.empty.insert (Report.dataKey (Block.zeros _))
    { body := Report.template (Block.zeros _) }
  signer := .failing .notOpen

/-- Being closed is not the only reason for the error of a closed device. -/
theorem posingDevice_notOpen :
    ¬((posingDevice.exchange Command.report.number
          ⟨1, .report ⟨Block.zeros _, 1, by decide⟩ {}, .success⟩).exit = .error .notOpen ↔
        posingDevice.isOpen = false) := by
  have isOpen : posingDevice.isOpen = true := rfl
  let canned : CannedReport := { body := Report.template (Block.zeros _) }
  let request : ReportRequest := ⟨Block.zeros _, 1, by decide⟩
  have found : posingDevice.reports.find? (Report.dataKey request.data) = some canned :=
    Catalog.find?_insert_self ..
  have passing : canned.status.isSuccess = true := rfl
  have refused : posingDevice.signer.sign (Report.signedBytes canned.body) = .error .notOpen := rfl
  obtain ⟨_, exchanged⟩ := exchange_report_of_isOpen isOpen 1 request {} .success
  rw [exchanged, answerReport_of_unsigned found passing refused]
  intro onlyClosed
  have isClosed := onlyClosed.mp rfl
  exact Bool.false_ne_true (isClosed.symm.trans isOpen)

/-- What a device refuses, and that it is left as it was where it refuses. -/
structure KeepsGate (device : ProgrammedDevice) : Prop where
  alreadyOpen (path : String) :
    (device.openAt path).result = .error .alreadyOpen ↔ device.isOpen = true
  openFailed (path : String) (error : GuestError) :
    (device.openAt path).result = .error error →
      error = .alreadyOpen ∧ (device.openAt path).after = device
  alreadyClosed : device.close.result = .error .alreadyClosed ↔ device.isOpen = false
  closeFailed (error : GuestError) :
    device.close.result = .error error → error = .alreadyClosed ∧ device.close.after = device
  invalidCommand {command : Command} (number : UInt64) (request : GuestRequest command) :
    (device.exchange number request).exit = .error (.invalidCommand number) ↔
      number ≠ command.number ∨
        device.SigningFailed (device.exchange number request).activity (.invalidCommand number)
  misnumbered {command : Command} (number : UInt64) (request : GuestRequest command) :
    number ≠ command.number → (device.exchange number request).request = request
  notOpen {command : Command} (request : GuestRequest command) :
    (device.exchange command.number request).exit = .error .notOpen ↔
      device.isOpen = false ∨
        device.SigningFailed (device.exchange command.number request).activity .notOpen
  dispatched {command : Command} (request : GuestRequest command) :
    device.exchange command.number request = device.dispatch request

theorem openAt_of_isOpen (isOpen : device.isOpen = true) (path : String) :
    device.openAt path = { result := .error .alreadyOpen, after := device } := by
  rw [openAt, if_pos isOpen]

theorem openAt_of_isClosed (isClosed : device.isOpen = false) (path : String) :
    device.openAt path =
      { result := .ok ()
        activity := .logging (.debug ("opening mock device in place of " ++ path))
        after := { device with isOpen := true } } := by
  rw [openAt, if_neg (by simp [isClosed])]

theorem close_of_isOpen (isOpen : device.isOpen = true) :
    device.close = { result := .ok (), after := { device with isOpen := false } } := by
  rw [close, if_pos isOpen]

theorem close_of_isClosed (isClosed : device.isOpen = false) :
    device.close = { result := .error .alreadyClosed, after := device } := by
  rw [close, if_neg (by simp [isClosed])]

theorem keepsGate (device : ProgrammedDevice) : device.KeepsGate where
  alreadyOpen path := by
    cases isOpen : device.isOpen with
    | false =>
      rw [openAt_of_isClosed isOpen]
      exact iff_of_false nofun nofun
    | true =>
      rw [openAt_of_isOpen isOpen]
      exact iff_of_true rfl rfl
  openFailed path error failed := by
    cases isOpen : device.isOpen with
    | false =>
      rw [openAt_of_isClosed isOpen] at failed
      contradiction
    | true =>
      rw [openAt_of_isOpen isOpen] at failed ⊢
      injection failed with failed
      exact ⟨failed.symm, rfl⟩
  alreadyClosed := by
    cases isOpen : device.isOpen with
    | false =>
      rw [close_of_isClosed isOpen]
      exact iff_of_true rfl rfl
    | true =>
      rw [close_of_isOpen isOpen]
      exact iff_of_false nofun nofun
  closeFailed error failed := by
    cases isOpen : device.isOpen with
    | false =>
      rw [close_of_isClosed isOpen] at failed ⊢
      injection failed with failed
      exact ⟨failed.symm, rfl⟩
    | true =>
      rw [close_of_isOpen isOpen] at failed
      contradiction
  invalidCommand := exchange_invalidCommand_iff
  misnumbered number request wrong := by rw [exchange_of_ne wrong]
  notOpen := exchange_notOpen_iff
  dispatched := exchange_number

end ProgrammedDevice

end SnpTestbed
