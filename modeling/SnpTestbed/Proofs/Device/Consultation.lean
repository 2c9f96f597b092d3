import SnpTestbed.Proofs.Device.Outcomes
import SnpTestbed.Quote

/-!
# What a device asks its signer

The activity of a command or of a quote names the messages that were handed to the signer.
`ProgrammedDevice.Consulted` says that the device behind it depends on its signer as the
activity says: it cannot end well where the signer failed on one of these messages, and
with a signer that answers them alike everything ends the same, whatever that one answers
to other messages. It starts with the signing of one body, and each layer of a command
inherits it from the layer below.
-/
namespace SnpTestbed

namespace ProgrammedDevice

/-- A message was handed to the signer, which failed with this error. -/
def SigningFailed (device : ProgrammedDevice) (activity : Activity) (error : GuestError) : Prop :=
  ∃ message ∈ activity.signed, device.signer.sign message = .error error

/-- The signer of a device was asked for the messages of an activity, one at most, and for no
others: where the signer failed, so did what asked it, and a device whose signer answers these
messages alike does the same `again`. -/
structure Consulted {α : Type} (device : ProgrammedDevice) (result : Except GuestError α)
    (activity : Activity) (again : ProgrammedDevice → Prop) : Prop where
  once : activity.signed.length ≤ 1
  failed : ∀ error, device.SigningFailed activity error → result = .error error
  alone : ∀ signer : Signer,
    (∀ message ∈ activity.signed, signer.sign message = device.signer.sign message) →
      again (device.withSigner signer)

section SigningFailed

variable {device : ProgrammedDevice} {error : GuestError}

theorem not_signingFailed {activity : Activity} (unsigned : activity.signed = []) :
    ¬device.SigningFailed activity error := by
  rintro ⟨message, handed, _⟩
  rw [unsigned] at handed
  contradiction

theorem signingFailed_signing_iff {message : Bytes} :
    device.SigningFailed (.signing message) error ↔
      device.signer.sign message = .error error := by
  simp [SigningFailed, Activity.signing]

end SigningFailed

namespace Consulted

variable {α β : Type} {device : ProgrammedDevice} {result : Except GuestError α}
  {later : Except GuestError β} {activity whole : Activity} {again too : ProgrammedDevice → Prop}

/-- Where nothing is signed, the signer must not matter. -/
theorem of_unsigned (unsigned : activity.signed = [])
    (same : ∀ signer, again (device.withSigner signer)) :
    device.Consulted result activity again where
  once := by
    rw [unsigned]
    exact Nat.zero_le 1
  failed error failed := absurd failed (not_signingFailed unsigned)
  alone signer _ := same signer

/-- What asks the signer only through something that consults it, and fails where that fails,
consults it, too. -/
theorem mono (consulted : device.Consulted result activity again)
    (signed : whole.signed = activity.signed)
    (fails : ∀ error, result = .error error → later = .error error)
    (same : ∀ signer, again (device.withSigner signer) → too (device.withSigner signer)) :
    device.Consulted later whole too where
  once := by
    rw [signed]
    exact consulted.once
  failed error failed := by
    rw [SigningFailed, signed] at failed
    exact fails error (consulted.failed error failed)
  alone signer agrees := by
    rw [signed] at agrees
    exact same signer (consulted.alone signer agrees)

end Consulted

variable (device : ProgrammedDevice)

/-- Signing a body asks for its signed bytes. -/
theorem sign_consulted (body : Report.Body) :
    device.Consulted (device.sign body).result (device.sign body).activity
      fun other => other.sign body = device.sign body where
  once := Nat.le_refl 1
  failed error failed := by
    have refused := signingFailed_signing_iff.mp failed
    rw [sign, Outcome.result_map, Signer.ask, refused]
    rfl
  alone signer agrees := by
    have answered := agrees (Report.signedBytes body) (List.mem_singleton_self _)
    simp only [sign, Signer.ask, withSigner, answered]

theorem answerReport_consulted (request : ReportRequest) (response : ReportResponse)
    (status : FirmwareStatus) :
    let answer := device.answerReport request response status
    device.Consulted answer.exit answer.activity
      fun other => other.answerReport request response status = answer := by
  have programmed (signer : Signer) :
      (device.withSigner signer).lookup request.data = device.lookup request.data := rfl
  unfold answerReport
  cases found : device.lookup request.data with
  | error error =>
    refine .of_unsigned rfl fun signer => ?_
    rw [programmed, found]
  | ok canned =>
    dsimp only
    split
    case isTrue passing =>
      refine (device.sign_consulted canned.body).mono ?signed ?fails ?same
      case signed => cases (device.sign canned.body).result <;> rfl
      case fails =>
        intro error failed
        rw [failed]
      case same =>
        intro signer again
        simp only [programmed, found, if_pos passing, again]
    case isFalse failing =>
      refine .of_unsigned rfl fun signer => ?_
      simp only [programmed, found, if_neg failing]

/-- Only the plain report of an extended one asks the signer; the certificates never do. -/
theorem answerExtended_consulted (request : ExtendedReportRequest) (response : ReportResponse)
    (status : FirmwareStatus) :
    let answer := device.answerExtended request response status
    device.Consulted answer.exit answer.activity
      fun other => other.answerExtended request response status = answer := by
  intro answer
  by_cases asks : request.claimed = 0
  · refine .of_unsigned ?_ fun signer => ?_
    · exact congrArg Activity.signed (device.answerExtended_activity_of_probe asks response status)
    · simp only [answer, answerExtended, if_pos asks]
      rfl
  · have plain := device.answerReport_consulted request.base response status
    refine plain.mono ?_ (fun error failed => ?_) (fun signer again => ?_)
    · exact congrArg Activity.signed (device.answerExtended_activity asks response status)
    · simp only [answer, answerExtended_of_failed asks failed]
    · simp only [answer, answerExtended, if_neg asks, again]
      rfl

theorem answer_consulted {command : Command} (payload : Payload command)
    (status : FirmwareStatus) :
    let answer := device.answer payload status
    device.Consulted answer.exit answer.activity
      fun other => other.answer payload status = answer := by
  cases payload with
  | report request response =>
    refine (device.answerReport_consulted request response status).mono rfl (fun _ => id) ?_
    intro signer again
    simp only [answer, again]
  | extendedReport request response =>
    refine (device.answerExtended_consulted request response status).mono rfl (fun _ => id) ?_
    intro signer again
    simp only [answer, again]
  | derivedKey request response =>
    refine .of_unsigned ?_ fun signer => rfl
    exact congrArg Activity.signed (device.answerKey_activity request response status)

/-- A command asks the signer of its device for the messages that its activity names. -/
theorem exchange_consulted {command : Command} (number : UInt64) (request : GuestRequest command) :
    let exchange := device.exchange number request
    device.Consulted exchange.exit exchange.activity
      fun other => (other.exchange number request).Agrees exchange := by
  by_cases right : number = command.number
  · subst right
    cases isOpen : device.isOpen with
    | false =>
      rw [exchange_of_isClosed isOpen]
      refine .of_unsigned rfl fun signer => ?_
      have closedToo : (device.withSigner signer).isOpen = false := isOpen
      rw [exchange_of_isClosed closedToo]
      exact ⟨rfl, rfl, rfl⟩
    | true =>
      rw [exchange_of_isOpen isOpen]
      refine (device.answer_consulted request.payload request.status).mono rfl (fun _ => id) ?_
      intro signer again
      have openToo : (device.withSigner signer).isOpen = true := isOpen
      rw [exchange_of_isOpen openToo, again]
      exact ⟨rfl, rfl, rfl⟩
  · rw [exchange_of_ne right]
    refine .of_unsigned rfl fun signer => ?_
    rw [exchange_of_ne right]
    exact ⟨rfl, rfl, rfl⟩

end ProgrammedDevice

/-- A quote asks the signer of its device for the messages that its activity names. -/
theorem Quote.make_consulted (device : ProgrammedDevice) (data : Report.Data) :
    let quote := make device data
    device.Consulted quote.result quote.activity fun other => make other data = quote := by
  have programmed (signer : Signer) :
      (device.withSigner signer).lookup data = device.lookup data := rfl
  have table (signer : Signer) :
      certificateTable (device.withSigner signer) = certificateTable device := rfl
  unfold make
  cases found : device.lookup data with
  | error error =>
    refine .of_unsigned rfl fun signer => ?_
    rw [programmed, found]
  | ok canned =>
    dsimp only
    split
    case isTrue passing =>
      refine (device.sign_consulted canned.body).mono ?signed ?fails ?same
      case signed =>
        cases (device.sign canned.body).result with
        | error error => rfl
        | ok report =>
          cases certificateTable device with
          | error error => rfl
          | ok table => exact List.append_nil _
      case fails =>
        intro error failed
        rw [failed]
      case same =>
        intro signer again
        simp only [programmed, found, if_pos passing, again, table]
    case isFalse failing =>
      refine .of_unsigned rfl fun signer => ?_
      simp only [programmed, found, if_neg failing]

end SnpTestbed
