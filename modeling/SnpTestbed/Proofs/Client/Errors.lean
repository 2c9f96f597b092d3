import SnpTestbed.Proofs.Client.ExtendedReport
import SnpTestbed.Proofs.Device.FailureFrame
import SnpTestbed.Proofs.Device.Refusals

/-!
# The errors that a client reports

A client and its device come to terms by failing requests: for the length of a buffer,
for a programmed status, for a number. None of these failures reaches who called the
client. `getExtendedReport_outcome` lists what an extended report comes to, by what the
plain one does, and `errors_of_calls` the errors of every call; a programmed status
comes out as the fault that it stands for.
-/
namespace SnpTestbed

namespace GuestError

/-- The errors of a request for a report. -/
def isOfReport : GuestError → Bool
  | .notOpen | .noResponse _ | .firmware _ | .signing _ => true
  | _ => false

/-- The errors of a request for certificates, too. -/
def isOfCertifiedReport : GuestError → Bool
  | .certificateTable _ => true
  | error => error.isOfReport

/-- The errors of a request for a key. -/
def isOfKey : GuestError → Bool
  | .notOpen | .noKeys | .unmappedKey _ => true
  | _ => false

/-- The errors by which a device and its client come to terms. -/
def isOfDriver : GuestError → Bool
  | .requestFailed _ _ | .bufferTooSmall _ _ | .invalidCommand _ => true
  | _ => false

/-- The errors of opening and closing. -/
def isOfOpening : GuestError → Bool
  | .alreadyOpen | .alreadyClosed => true
  | _ => false

variable {error : GuestError}

theorem isOfCertifiedReport_of_isOfReport (known : error.isOfReport = true) :
    error.isOfCertifiedReport = true := by
  cases error <;> trivial

theorem isOfDriver_of_isOfReport (known : error.isOfReport = true) :
    error.isOfDriver = false := by
  cases error <;> trivial

theorem isOfDriver_of_isOfCertifiedReport (known : error.isOfCertifiedReport = true) :
    error.isOfDriver = false := by
  cases error <;> trivial

theorem isOfDriver_of_isOfKey (known : error.isOfKey = true) : error.isOfDriver = false := by
  cases error <;> trivial

theorem isOfDriver_of_isOfOpening (known : error.isOfOpening = true) :
    error.isOfDriver = false := by
  cases error <;> trivial

end GuestError

/-- A result that, if it is an error at all, is one of these. -/
def FailsWithin {α : Type} (result : Except GuestError α) (known : GuestError → Bool) : Prop :=
  ∀ error, result = .error error → known error = true

namespace FailsWithin

variable {α : Type} {result : Except GuestError α} {known : GuestError → Bool} {error : GuestError}

theorem of_ok (value : α) : FailsWithin (.ok value) known := nofun

theorem of_error (isKnown : known error = true) :
    FailsWithin (.error error : Except GuestError α) known := by
  rintro _ ⟨⟩
  exact isKnown

/-- A result whose errors are all made for the caller is no error of the driver. -/
theorem ne_of_isOfDriver (within : FailsWithin result known)
    (outward : ∀ {error : GuestError}, known error = true → error.isOfDriver = false)
    (driver : error.isOfDriver = true) : result ≠ .error error := by
  intro failed
  have notDriver := outward (within error failed)
  rw [driver] at notDriver
  contradiction

end FailsWithin

namespace ReportRequest

variable {data : Option Report.Data} {vmpl : Option UInt32}

theorem make_of_le (bounded : vmpl.getD 1 ≤ 3) :
    make data vmpl = .ok ⟨data.getD (Block.zeros _), vmpl.getD 1, bounded⟩ :=
  dif_pos bounded

end ReportRequest

namespace Client

variable {client : Client ProgrammedDevice} {data : Option Report.Data} {vmpl : Option UInt32}
  {error : GuestError}

/-- What a request for an extended report comes to, by what the plain one for the same data comes
to. -/
inductive CertifiedOutcome (plain : Except GuestError Report.Body) (table : Bytes) :
    Except GuestError CertifiedReport → Prop
  | failed {error : GuestError} (fails : plain = .error error) :
    CertifiedOutcome plain table (.error error)
  | bare {report : Report.Body} (served : plain = .ok report) (without : table = []) :
    CertifiedOutcome plain table (.ok (report, none))
  | unreadable {report : Report.Body} {fault : CertificateTable.Fault}
    (served : plain = .ok report) (stocked : table ≠ [])
    (refused : CertificateTable.parse table = .error fault) :
    CertifiedOutcome plain table (.error (.certificateTable fault))
  | certified {report : Report.Body} {certificates : List Certificate}
    (served : plain = .ok report) (stocked : table ≠ [])
    (read : CertificateTable.parse table = .ok certificates) :
    CertifiedOutcome plain table (.ok (report, some (Certificate.sort certificates)))

theorem getReport_of_isClosed {base : ReportRequest} (isClosed : client.device.isOpen = false)
    (made : ReportRequest.make data vmpl = .ok base) :
    (client.getReport data vmpl).result = .error .notOpen := by
  simp only [getReport, made, issue_eq_exchange, ProgrammedDevice.exchange_of_isClosed isClosed]
  rfl

theorem getExtendedReport_of_isClosed {base : ReportRequest}
    (isClosed : client.device.isOpen = false) (made : ReportRequest.make data vmpl = .ok base) :
    (client.getExtendedReport data vmpl).result = .error .notOpen := by
  simp only [getExtendedReport, made, issue_eq_exchange,
    ProgrammedDevice.exchange_of_isClosed isClosed]
  rfl

/-- A client of an open device with certificates is given the plain report and all of them. -/
theorem getExtendedReport_of_stocked {base : ReportRequest} (isOpen : client.device.isOpen = true)
    (small : client.device.certificates.length < UInt32.size)
    (made : ReportRequest.make data vmpl = .ok base) (stocked : client.device.certificates ≠ []) :
    (client.getExtendedReport data vmpl).result = (do
      let report ← (client.getReport data vmpl).result
      let certificates ←
        (CertificateTable.parse client.device.certificates).mapError .certificateTable
      return (report, some (Certificate.sort certificates))) := by
  have claims := mt (length_eq_zero_iff small).mp stocked
  have claimExact : (UInt32.ofNat client.device.certificates.length).toNat =
      client.device.certificates.length := UInt32.toNat_ofNat_of_lt' small
  have bufferExact :
      (ExtendedReportRequest.resize (.make base)
        (UInt32.ofNat client.device.certificates.length)).buffer.length =
          client.device.certificates.length := by
    simpa [ExtendedReportRequest.resize] using claimExact
  rw [getExtendedReport_of_isOpen isOpen small made, if_neg stocked,
    certifiedReport_exact isOpen claims claimExact bufferExact, getReport_of_isOpen isOpen made]
  rfl

theorem getExtendedReport_outcome (client : Client ProgrammedDevice) (data : Option Report.Data)
    (vmpl : Option UInt32) (small : client.device.certificates.length < UInt32.size) :
    CertifiedOutcome (client.getReport data vmpl).result client.device.certificates
      (client.getExtendedReport data vmpl).result := by
  cases made : ReportRequest.make data vmpl with
  | error fault =>
    simp only [getReport, getExtendedReport, made]
    exact .failed rfl
  | ok base =>
    cases isOpen : client.device.isOpen with
    | false =>
      rw [getExtendedReport_of_isClosed isOpen made]
      exact .failed (getReport_of_isClosed isOpen made)
    | true =>
      by_cases without : client.device.certificates = []
      · rw [getExtendedReport_of_isOpen isOpen small made, if_pos without]
        cases plain : (client.getReport data vmpl).result with
        | error error => exact .failed rfl
        | ok report => exact .bare rfl without
      · rw [getExtendedReport_of_stocked isOpen small made without]
        cases plain : (client.getReport data vmpl).result with
        | error error => exact .failed rfl
        | ok report =>
          cases read : CertificateTable.parse client.device.certificates with
          | error fault => exact .unreadable rfl without read
          | ok certificates => exact .certified rfl without read

theorem plainResult_of_injected {exit : ExitResult} {status : FirmwareStatus}
    (failing : status.isSuccess = false) (response : ReportResponse) (activity : Activity) :
    plainResult ⟨.error (.requestFailed exit status), response, status, activity⟩ =
      .error (.firmware status.fault) := by
  have refined : (GuestError.requestFailed exit status).refine status = .firmware status.fault := by
    simp only [GuestError.refine, failing, Bool.false_eq_true, if_false]
  exact congrArg Except.error refined

/-- A programmed status comes out as the fault that it stands for. -/
theorem getReport_of_injected {canned : CannedReport} (isOpen : client.device.isOpen = true)
    (bounded : vmpl.getD 1 ≤ 3)
    (registered : client.device.lookup (data.getD (Block.zeros _)) = .ok canned)
    (failing : canned.status.isSuccess = false) :
    (client.getReport data vmpl).result = .error (.firmware canned.status.fault) := by
  rw [getReport_of_isOpen isOpen (ReportRequest.make_of_le bounded)]
  simp only [ProgrammedDevice.answerReport, registered, failing, Bool.false_eq_true, if_false]
  exact plainResult_of_injected failing {} _

theorem getReport_failsWithin (failsBySigning : client.device.signer.FailsBySigning) :
    FailsWithin (client.getReport data vmpl).result GuestError.isOfReport := by
  cases made : ReportRequest.make data vmpl with
  | error fault =>
    simp only [getReport, made]
    exact .of_error rfl
  | ok base =>
    cases isOpen : client.device.isOpen with
    | false =>
      rw [getReport_of_isClosed isOpen made]
      exact .of_error rfl
    | true =>
      rw [getReport_of_isOpen isOpen made]
      have outcome := client.device.answerReport_outcome base {} .success
      generalize client.device.answerReport base {} .success = answer at outcome ⊢
      cases outcome with
      | missing absent => exact .of_error rfl
      | injected found failing =>
        rw [plainResult_of_injected failing]
        exact .of_error rfl
      | unsigned found passing refused =>
        obtain ⟨fault, rfl⟩ := failsBySigning _ _ refused
        exact .of_error rfl
      | served found passing signed => exact .of_ok _

theorem getExtendedReport_failsWithin (failsBySigning : client.device.signer.FailsBySigning)
    (small : client.device.certificates.length < UInt32.size) :
    FailsWithin (client.getExtendedReport data vmpl).result GuestError.isOfCertifiedReport := by
  have plain : FailsWithin (client.getReport data vmpl).result GuestError.isOfReport :=
    getReport_failsWithin failsBySigning
  have outcome := client.getExtendedReport_outcome data vmpl small
  generalize (client.getExtendedReport data vmpl).result = result at outcome ⊢
  cases outcome with
  | failed fails => exact .of_error (GuestError.isOfCertifiedReport_of_isOfReport (plain _ fails))
  | bare served without => exact .of_ok _
  | unreadable served stocked refused => exact .of_error rfl
  | certified served stocked read => exact .of_ok _

theorem getExtendedReport_of_failed (small : client.device.certificates.length < UInt32.size)
    (fails : (client.getReport data vmpl).result = .error error) :
    (client.getExtendedReport data vmpl).result = .error error := by
  have outcome := client.getExtendedReport_outcome data vmpl small
  rw [fails] at outcome
  generalize (client.getExtendedReport data vmpl).result = result at outcome ⊢
  cases outcome with
  | failed same =>
    injection same with same
    rw [same]
  | bare served without => contradiction
  | unreadable served stocked refused => contradiction
  | certified served stocked read => contradiction

theorem getCertificates_failsWithin {data : Report.Data}
    (failsBySigning : client.device.signer.FailsBySigning)
    (small : client.device.certificates.length < UInt32.size) :
    FailsWithin (client.getCertificates data).result GuestError.isOfCertifiedReport := by
  have extended : FailsWithin (client.getExtendedReport (some data) none).result
      GuestError.isOfCertifiedReport := getExtendedReport_failsWithin failsBySigning small
  simp only [getCertificates]
  generalize (client.getExtendedReport (some data) none).result = result at extended ⊢
  cases result with
  | error error => exact .of_error (extended error rfl)
  | ok certified =>
    obtain ⟨report, certificates⟩ := certified
    cases certificates with
    | none => exact .of_error rfl
    | some certificates => exact .of_ok _

theorem getDerivedKey_failsWithin (choice : DerivedKeyChoice) :
    FailsWithin (client.getDerivedKey choice).result GuestError.isOfKey := by
  simp only [getDerivedKey, issue_eq_exchange]
  cases isOpen : client.device.isOpen with
  | false =>
    rw [ProgrammedDevice.exchange_of_isClosed isOpen]
    exact .of_error rfl
  | true =>
    rw [ProgrammedDevice.exchange_of_isOpen isOpen]
    simp only [GuestRequest.make, ProgrammedDevice.answer]
    have outcome := client.device.answerKey_outcome choice.request {} .success
    generalize client.device.answerKey choice.request {} .success = answer at outcome ⊢
    cases outcome with
    | noKeys empty => exact .of_error rfl
    | unmapped stocked absent => exact .of_error rfl
    | copied stocked found => exact .of_ok _

theorem attach_failsWithin (device : ProgrammedDevice) (version : Option UInt32) :
    FailsWithin (attach device version).result GuestError.isOfOpening := by
  simp only [attach, CommandChannel.openAt]
  cases isOpen : device.isOpen with
  | false =>
    rw [ProgrammedDevice.openAt_of_isClosed isOpen]
    exact .of_ok _
  | true =>
    rw [ProgrammedDevice.openAt_of_isOpen isOpen]
    exact .of_error rfl

theorem detach_failsWithin : FailsWithin client.detach.result GuestError.isOfOpening := by
  simp only [detach, CommandChannel.close]
  cases isOpen : client.device.isOpen with
  | false =>
    rw [ProgrammedDevice.close_of_isClosed isOpen]
    exact .of_error rfl
  | true =>
    rw [ProgrammedDevice.close_of_isOpen isOpen]
    exact .of_ok _

/-- The errors of each call are few, and none of them is one by which device and client come to
terms, whatever the device holds and whether it is open. Where a status is programmed, a report is
refused with the fault that it stands for, plain and extended. -/
theorem errors_of_calls (client : Client ProgrammedDevice)
    (failsBySigning : client.device.signer.FailsBySigning)
    (small : client.device.certificates.length < UInt32.size) :
    (∀ data vmpl, FailsWithin (client.getReport data vmpl).result GuestError.isOfReport) ∧
    (∀ data vmpl,
      FailsWithin (client.getExtendedReport data vmpl).result GuestError.isOfCertifiedReport) ∧
    (∀ data, FailsWithin (client.getCertificates data).result GuestError.isOfCertifiedReport) ∧
    (∀ choice, FailsWithin (client.getDerivedKey choice).result GuestError.isOfKey) ∧
    (∀ error, error.isOfDriver = true →
      (∀ version, (attach client.device version).result ≠ .error error) ∧
      client.detach.result ≠ .error error ∧
      (∀ data vmpl, (client.getReport data vmpl).result ≠ .error error) ∧
      (∀ data vmpl, (client.getExtendedReport data vmpl).result ≠ .error error) ∧
      (∀ data, (client.getCertificates data).result ≠ .error error) ∧
      ∀ choice, (client.getDerivedKey choice).result ≠ .error error) ∧
    ∀ data vmpl canned, client.device.isOpen = true → vmpl.getD 1 ≤ 3 →
      client.device.lookup (data.getD (Block.zeros _)) = .ok canned → canned.status.raw ≠ 0 →
      (client.getReport data vmpl).result = .error (.firmware canned.status.fault) ∧
        (client.getExtendedReport data vmpl).result = .error (.firmware canned.status.fault) := by
  refine ⟨fun data vmpl => getReport_failsWithin failsBySigning,
    fun data vmpl => getExtendedReport_failsWithin failsBySigning small,
    fun data => getCertificates_failsWithin failsBySigning small,
    getDerivedKey_failsWithin, fun error driver => ⟨?_, ?_, ?_, ?_, ?_, ?_⟩, ?_⟩
  · exact fun version => (attach_failsWithin _ version).ne_of_isOfDriver
      GuestError.isOfDriver_of_isOfOpening driver
  · exact detach_failsWithin.ne_of_isOfDriver GuestError.isOfDriver_of_isOfOpening driver
  · exact fun data vmpl => (getReport_failsWithin failsBySigning).ne_of_isOfDriver
      GuestError.isOfDriver_of_isOfReport driver
  · exact fun data vmpl => (getExtendedReport_failsWithin failsBySigning small).ne_of_isOfDriver
      GuestError.isOfDriver_of_isOfCertifiedReport driver
  · exact fun data => (getCertificates_failsWithin failsBySigning small).ne_of_isOfDriver
      GuestError.isOfDriver_of_isOfCertifiedReport driver
  · exact fun choice => (getDerivedKey_failsWithin choice).ne_of_isOfDriver
      GuestError.isOfDriver_of_isOfKey driver
  · intro data vmpl canned isOpen bounded registered nonzero
    have failing : canned.status.isSuccess = false := beq_eq_false_iff_ne.mpr nonzero
    have plain := getReport_of_injected isOpen bounded registered failing
    exact ⟨plain, getExtendedReport_of_failed small plain⟩

theorem errors_of_calls_refusing :
    refusingDevice.signer.FailsBySigning ∧ refusingDevice.certificates.length < UInt32.size ∧
      (getReport ⟨refusingDevice, some 7⟩ none none).result =
        .error (.firmware (.vmm .invalidCertificatePageLength)) ∧
      (getExtendedReport ⟨refusingDevice, some 7⟩ none none).result =
        .error (.firmware (.vmm .invalidCertificatePageLength)) := by
  have failsBySigning : refusingDevice.signer.FailsBySigning := by
    rintro message error ⟨⟩
    exact ⟨_, rfl⟩
  have small : refusingDevice.certificates.length < UInt32.size := by decide
  have registered : refusingDevice.lookup (Block.zeros _) =
      .ok { body := Block.zeros _, exit := .retry, status := .invalidLength } := by
    have found : refusingDevice.reports.find? (Report.dataKey (Block.zeros _)) =
        some { body := Block.zeros _, exit := .retry, status := .invalidLength } :=
      Catalog.find?_insert_self ..
    rw [ProgrammedDevice.lookup, found]
  obtain ⟨_, _, _, _, _, refused⟩ :=
    errors_of_calls ⟨refusingDevice, some 7⟩ failsBySigning small
  exact ⟨failsBySigning, small, refused none none _ rfl (by decide) registered (by decide)⟩

end Client

end SnpTestbed
