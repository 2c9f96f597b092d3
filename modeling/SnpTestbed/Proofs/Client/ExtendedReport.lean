import SnpTestbed.Client
import SnpTestbed.Proofs.Certificate.Order
import SnpTestbed.Proofs.Device.Outcomes

/-!
# Extended reports without their protocol

A client gets an extended report in two or three exchanges: it probes, resizes its
buffer, and asks again, or falls back to a plain report. `getExtendedReport_direct`
says that none of this shows: what comes out is the plain report, or its error,
together with the certificates of the device in ascending order.
-/
namespace SnpTestbed

/-- The hypervisor's half of the status that refuses a buffer's length. -/
theorem VmmError.ofCode_invalidLength :
    ofCode FirmwareStatus.invalidLength.vmmCode = .invalidCertificatePageLength := by
  decide

namespace ProgrammedDevice

variable {device : ProgrammedDevice}

/-- Claimed length and buffer that both have the length of the certificates get the outcome of the
plain request, and the certificates where that one succeeds. -/
theorem answerExtended_exact {request : ExtendedReportRequest} {response : ReportResponse}
    {status : FirmwareStatus} {plain : Answer ReportResponse}
    (answered : device.answerReport request.base response status = plain)
    (claims : request.claimed ≠ 0)
    (claimExact : request.claimed.toNat = device.certificates.length)
    (bufferExact : request.buffer.length = device.certificates.length) :
    ∃ buffer, device.answerExtended request response status =
        ⟨plain.exit, ({ request with buffer }, plain.payload), plain.status, plain.activity⟩ ∧
      ∀ exit, plain.exit = .ok exit → buffer = device.certificates := by
  subst answered
  cases ended : (device.answerReport request.base response status).exit with
  | error error =>
    exact ⟨request.buffer, answerExtended_of_failed claims ended,
      fun exit succeeds => by contradiction⟩
  | ok exit =>
    have room : device.certificates.length ≤ request.room :=
      Nat.le_min.mpr ⟨Nat.le_of_eq claimExact.symm, Nat.le_of_eq bufferExact.symm⟩
    have nothing : request.buffer.drop device.certificates.length = [] :=
      List.drop_of_length_le (Nat.le_of_eq bufferExact)
    rw [answerExtended_of_room claims ended room, answerReport_success rfl ended, nothing,
      List.append_nil]
    exact ⟨_, rfl, fun _ _ => rfl⟩

end ProgrammedDevice

namespace Client

variable {client : Client ProgrammedDevice}

/-- What a client makes of the answer to a plain report request. -/
def plainResult (answer : Answer ReportResponse) : Except GuestError Report.Body := do
  let _ ← answer.exit.mapError fun error => error.refine answer.status
  answer.payload.checked

/-- A plain report with the certificates of the device in ascending order, if it has any. -/
def directReport (client : Client ProgrammedDevice) (data : Option Report.Data)
    (vmpl : Option UInt32) : Except GuestError CertifiedReport := do
  let report ← (client.getReport data vmpl).result
  if client.device.certificates = [] then return (report, none)
  let certificates ←
    (CertificateTable.parse client.device.certificates).mapError .certificateTable
  return (report, some (Certificate.sort certificates))

theorem issue_eq_exchange {command : Command} (payload : Payload command) :
    client.issue payload =
      client.device.exchange command.number (.make client.version payload) := rfl

theorem getReport_of_isOpen {data : Option Report.Data} {vmpl : Option UInt32}
    {request : ReportRequest} (isOpen : client.device.isOpen = true)
    (made : ReportRequest.make data vmpl = .ok request) :
    (client.getReport data vmpl).result =
      plainResult (client.device.answerReport request {} .success) := by
  simp only [getReport, made, issue_eq_exchange, ProgrammedDevice.exchange_of_isOpen isOpen]
  rfl

/-- The plain report of an exchange with exact claim and buffer comes with the certificates. -/
theorem certifiedReport_exact {request : ExtendedReportRequest} {response : ReportResponse}
    (isOpen : client.device.isOpen = true) (claims : request.claimed ≠ 0)
    (claimExact : request.claimed.toNat = client.device.certificates.length)
    (bufferExact : request.buffer.length = client.device.certificates.length) :
    certifiedReport (client.issue (.extendedReport request response)) = (do
      let report ← plainResult (client.device.answerReport request.base response .success)
      let certificates ←
        (CertificateTable.parse client.device.certificates).mapError .certificateTable
      return (report, some (Certificate.sort certificates))) := by
  generalize answered : client.device.answerReport request.base response .success = plain
  obtain ⟨buffer, extended, filled⟩ :=
    ProgrammedDevice.answerExtended_exact answered claims claimExact bufferExact
  rw [issue_eq_exchange, ProgrammedDevice.exchange_of_isOpen isOpen]
  simp only [certifiedReport, Exchange.checked, GuestRequest.make, ProgrammedDevice.answer,
    extended, Payload.extended, plainResult, ReportResponse.certified, if_neg claims]
  cases ended : plain.exit with
  | error error => rfl
  | ok exit =>
    rw [filled exit ended]
    rfl

/-- An open device answers the probe with the length of its certificates. -/
theorem issue_probe (base : ReportRequest) (isOpen : client.device.isOpen = true)
    (small : client.device.certificates.length < UInt32.size) :
    ∃ activity, client.issue (.extendedReport (.make base) {}) =
      { exit := .error (.requestFailed .ok .invalidLength)
        request := ⟨client.version.getD 1,
          .extendedReport ⟨base, [], UInt32.ofNat client.device.certificates.length⟩ {},
          .invalidLength⟩
        device := client.device
        activity } := by
  rw [issue_eq_exchange, ProgrammedDevice.exchange_of_isOpen isOpen]
  have asks : (ExtendedReportRequest.make base).claimed = 0 := rfl
  obtain ⟨_, probed⟩ := ProgrammedDevice.answerExtended_of_probe asks small {} .success
  simp only [GuestRequest.make, ProgrammedDevice.answer, probed]
  exact ⟨_, rfl⟩

/-- A failed exchange with the status that refuses a buffer's length is told from other failures. -/
theorem refusedLength_invalidLength (version : UInt32) (payload : Payload .extendedReport)
    (device : ProgrammedDevice) (activity : Activity) :
    refusedLength
      { exit := .error (.requestFailed .ok .invalidLength)
        request := ⟨version, payload, .invalidLength⟩
        device
        activity } (.requestFailed .ok .invalidLength) = true := by
  simp only [refusedLength, VmmError.ofCode_invalidLength]
  rfl

/-- The length that a probe is answered with is zero only where there are no certificates. -/
theorem length_eq_zero_iff (small : client.device.certificates.length < UInt32.size) :
    UInt32.ofNat client.device.certificates.length = 0 ↔ client.device.certificates = [] := by
  constructor
  · intro zero
    have length := UInt32.toNat_ofNat_of_lt' small
    rw [zero] at length
    exact List.eq_nil_of_length_eq_zero length.symm
  · intro none
    rw [none]
    rfl

/-- After its probe, a client of an open device without certificates asks for a plain report, and
any other asks again with a buffer of the length that it was told. -/
theorem getExtendedReport_of_isOpen {data : Option Report.Data} {vmpl : Option UInt32}
    {base : ReportRequest} (isOpen : client.device.isOpen = true)
    (small : client.device.certificates.length < UInt32.size)
    (made : ReportRequest.make data vmpl = .ok base) :
    (client.getExtendedReport data vmpl).result =
      if client.device.certificates = [] then (client.getReport data vmpl).result.map (·, none)
      else certifiedReport (client.issue (.extendedReport
        (ExtendedReportRequest.resize (.make base)
          (UInt32.ofNat client.device.certificates.length)) {})) := by
  obtain ⟨activity, probed⟩ := issue_probe base isOpen small
  unfold getExtendedReport
  simp only [made, probed, refusedLength_invalidLength, Payload.extended, ↓reduceIte]
  by_cases without : client.device.certificates = []
  · rw [if_pos ((length_eq_zero_iff small).mpr without), if_pos without]
    rfl
  · rw [if_neg (mt (length_eq_zero_iff small).mp without), if_neg without]
    rfl

/-- What comes with a plain report are the certificates of the device's table, all of them and in
ascending order. -/
theorem ascending_of_directReport {data : Option Report.Data} {vmpl : Option UInt32}
    {report : Report.Body} {listed : List Certificate}
    (direct : client.directReport data vmpl = .ok (report, some listed)) :
    ∃ parsed, CertificateTable.parse client.device.certificates = .ok parsed ∧
      listed.Perm parsed ∧ Certificate.Ascending listed := by
  unfold directReport at direct
  cases plain : (client.getReport data vmpl).result with
  | error error =>
    rw [plain] at direct
    contradiction
  | ok served =>
    rw [plain] at direct
    by_cases without : client.device.certificates = []
    · simp only [if_pos without] at direct
      injection direct with same
      injection same with _ none
      contradiction
    · simp only [if_neg without] at direct
      cases read : CertificateTable.parse client.device.certificates with
      | error fault =>
        rw [read] at direct
        contradiction
      | ok parsed =>
        rw [read] at direct
        injection direct with same
        injection same with _ same
        injection same with sorted
        exact ⟨parsed, rfl, Certificate.eq_sort_iff.mp sorted.symm⟩

theorem getExtendedReport_eq_directReport (data : Option Report.Data) (vmpl : Option UInt32)
    (small : client.device.certificates.length < UInt32.size) :
    (client.getExtendedReport data vmpl).result = client.directReport data vmpl := by
  unfold directReport
  cases made : ReportRequest.make data vmpl with
  | error fault =>
    simp only [getExtendedReport, getReport, made]
    rfl
  | ok base =>
    cases isOpen : client.device.isOpen with
    | false =>
      simp only [getExtendedReport, getReport, made, issue_eq_exchange,
        ProgrammedDevice.exchange_of_isClosed isOpen]
      rfl
    | true =>
      rw [getExtendedReport_of_isOpen isOpen small made]
      by_cases without : client.device.certificates = []
      · simp only [if_pos without]
        cases (client.getReport data vmpl).result with
        | error error => rfl
        | ok report => rfl
      · simp only [if_neg without]
        have claimExact : (UInt32.ofNat client.device.certificates.length).toNat =
            client.device.certificates.length := UInt32.toNat_ofNat_of_lt' small
        rw [certifiedReport_exact isOpen (mt (length_eq_zero_iff small).mp without) claimExact
          (by simpa [ExtendedReportRequest.resize] using claimExact),
          getReport_of_isOpen isOpen made]
        rfl

/-- The protocol of an extended report comes to the plain report with the certificates of the
device, whatever state the device is in and whatever it was programmed with. The certificates are
those of its table, rearranged so that they ascend. -/
theorem getExtendedReport_direct (client : Client ProgrammedDevice) (data : Option Report.Data)
    (vmpl : Option UInt32) (small : client.device.certificates.length < UInt32.size) :
    (client.getExtendedReport data vmpl).result = client.directReport data vmpl ∧
      ∀ report listed, (client.getExtendedReport data vmpl).result = .ok (report, some listed) →
        ∃ parsed, CertificateTable.parse client.device.certificates = .ok parsed ∧
          listed.Perm parsed ∧ Certificate.Ascending listed := by
  have direct := client.getExtendedReport_eq_directReport data vmpl small
  refine ⟨direct, fun report listed served => ?_⟩
  exact ascending_of_directReport (direct.symm.trans served)

/-- A device that fails every request for zero data as a probe fails. -/
def refusingDevice : ProgrammedDevice where
  isOpen := true
  certificates := [1, 2, 3]
  reports := Catalog.empty.insert (Report.dataKey (Block.zeros _))
    { body := Block.zeros _, exit := .retry, status := .invalidLength }
  signer := .failing (.signing .noSignature)

/-- A table of two certificates, with the data of the first one first. -/
def pairTable (earlier later : CertificateKind) (data : Bytes) : Bytes :=
  CertificateTable.rowBytes earlier.guid 72 1 ++ CertificateTable.rowBytes later.guid 73 1 ++
    List.replicate 24 0 ++ data

/-- An open device with two certificates, the later one first in its table. -/
def descendingDevice : ProgrammedDevice where
  isOpen := true
  certificates := pairTable .crl .ark [2, 1]
  reports := Catalog.empty.insert (Report.dataKey (Block.zeros _)) { body := Block.zeros _ }
  signer := .fixed ⟨Block.zeros _, Block.zeros _⟩

theorem getExtendedReport_direct_refusing :
    refusingDevice.certificates.length < UInt32.size ∧
      (getExtendedReport ⟨refusingDevice, none⟩ none none).result =
        .error (.firmware (.vmm .invalidCertificatePageLength)) ∧
      descendingDevice.certificates.length < UInt32.size ∧
      ∃ report listed,
        (getExtendedReport ⟨descendingDevice, none⟩ none none).result = .ok (report, some listed) ∧
        listed.Perm [⟨.crl, [2]⟩, ⟨.ark, [1]⟩] ∧ Certificate.Ascending listed := by
  let request : ReportRequest := ⟨Block.zeros _, 1, by decide⟩
  have made : ReportRequest.make none none = .ok request := rfl
  have small : refusingDevice.certificates.length < UInt32.size := by decide
  have smallToo : descendingDevice.certificates.length < UInt32.size := by decide
  obtain ⟨refused, _⟩ := getExtendedReport_direct ⟨refusingDevice, none⟩ none none small
  obtain ⟨served, ordered⟩ := getExtendedReport_direct ⟨descendingDevice, none⟩ none none smallToo
  refine ⟨small, refused.trans ?_, smallToo, ?_⟩
  · have found : refusingDevice.reports.find? (Report.dataKey request.data) =
        some { body := Block.zeros _, exit := .retry, status := .invalidLength } :=
      Catalog.find?_insert_self ..
    have plain : (getReport ⟨refusingDevice, none⟩ none none).result =
        .error (.firmware (.vmm .invalidCertificatePageLength)) := by
      rw [getReport_of_isOpen rfl made]
      simp only [ProgrammedDevice.answerReport, ProgrammedDevice.lookup, found]
      rfl
    rw [directReport, plain]
    rfl
  · have found : descendingDevice.reports.find? (Report.dataKey request.data) =
        some { body := Block.zeros _ } := Catalog.find?_insert_self ..
    have signed : descendingDevice.signer.sign (Report.signedBytes (Block.zeros _)) =
        .ok ⟨Block.zeros _, Block.zeros _⟩ := rfl
    have plain : ∃ report,
        (getReport ⟨descendingDevice, none⟩ none none).result = .ok report := by
      rw [getReport_of_isOpen rfl made, ProgrammedDevice.answerReport_of_signed found rfl signed]
      exact ⟨_, rfl⟩
    obtain ⟨report, plain⟩ := plain
    have read : CertificateTable.parse (pairTable .crl .ark [2, 1]) =
        .ok [⟨.crl, [2]⟩, ⟨.ark, [1]⟩] := by cbv
    have stocked : pairTable .crl .ark [2, 1] ≠ [] := by decide
    have result : (getExtendedReport ⟨descendingDevice, none⟩ none none).result =
        .ok (report, some (Certificate.sort [⟨.crl, [2]⟩, ⟨.ark, [1]⟩])) := by
      rw [served, directReport, plain]
      simp only [descendingDevice, read, if_neg stocked]
      rfl
    obtain ⟨parsed, readToo, perm, ascending⟩ := ordered _ _ result
    obtain rfl := Except.ok.inj (read.symm.trans readToo)
    exact ⟨report, _, result, perm, ascending⟩

end Client

end SnpTestbed
