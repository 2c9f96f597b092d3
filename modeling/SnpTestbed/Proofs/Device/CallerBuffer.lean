import SnpTestbed.Client
import SnpTestbed.Proofs.Certificate.Grammar
import SnpTestbed.Proofs.Device.FailureFrame

/-!
# Certificates in the caller's buffer

A caller of an extended report hands over a buffer and claims a length for it, and the
two need not agree. A claim of zero is a probe, whatever the buffer is. Any other
request goes as the plain one for the same report does, and then needs room for all
certificates in the claim and in the buffer: `extendedReport_into_buffer` tells from
the shorter of the two which requests succeed, and what each one leaves in the buffer.

What is left behind the certificates is what the caller had there before, and it is
never mistaken for part of the table: `filledBuffer_parses` lets a caller read the whole
of a buffer that was longer than it had to be.
-/
namespace SnpTestbed

namespace ProgrammedDevice

variable {device : ProgrammedDevice}

/-- A probe fails with the status that refuses the buffer's length, after it set the claimed
length to that of the certificates. Any other extended report fails as the plain request for it
does; where that one is served, so is this one if claim and buffer both have room for the
certificates, which then stand at the start of the buffer. -/
theorem extendedReport_into_buffer (isOpen : device.isOpen = true)
    (small : device.certificates.length < UInt32.size) (version : UInt32)
    (request : ExtendedReportRequest) (response : ReportResponse) (status : FirmwareStatus) :
    let asked := device.exchange Command.extendedReport.number
      ⟨version, .extendedReport request response, status⟩
    let plain := device.exchange Command.report.number
      ⟨version, .report request.base response, status⟩
    let required := device.certificates.length
    (request.claimed = 0 →
      asked.device = device ∧ asked.exit = .error (.requestFailed .ok ⟨0x100000000⟩) ∧
      ∃ length : UInt32, length.toNat = required ∧ asked.request =
        ⟨version, .extendedReport { request with claimed := length } response, ⟨0x100000000⟩⟩) ∧
    (request.claimed ≠ 0 →
      (∀ error, plain.exit = .error error → asked.exit = .error error ∧
        asked.request = ⟨version, .extendedReport request plain.request.payload.reportResponse,
          plain.request.status⟩) ∧
      ∀ exit, plain.exit = .ok exit →
        let served := plain.request.payload.reportResponse
        let room := min request.claimed.toNat request.buffer.length
        (asked.exit = .ok exit ↔ required ≤ room) ∧
        (required ≤ room →
          let buffer := device.certificates ++ request.buffer.drop required
          asked.request = ⟨version, .extendedReport { request with buffer } served, status⟩) ∧
        (room < required →
          let provided := if request.claimed.toNat < required then request.claimed.toNat
            else request.buffer.length
          provided < required ∧ asked.exit = .error (.bufferTooSmall provided required) ∧
          asked.request = ⟨version, .extendedReport request served, status⟩)) := by
  obtain ⟨_, asked⟩ := exchange_extendedReport_of_isOpen isOpen version request response status
  obtain ⟨_, plain⟩ := exchange_report_of_isOpen isOpen version request.base response status
  rw [asked, plain]
  refine ⟨fun asks => ?probe, fun claims => ⟨fun error fails => ?failed, fun exit succeeds => ?_⟩⟩
  case probe =>
    obtain ⟨_, answered⟩ := answerExtended_of_probe asks small response status
    rw [answered]
    exact ⟨rfl, rfl, _, UInt32.toNat_ofNat_of_lt' small, rfl⟩
  case failed =>
    rw [answerExtended_of_failed claims fails]
    exact ⟨rfl, rfl⟩
  by_cases room : device.certificates.length ≤ request.room
  · rw [answerExtended_of_room claims succeeds room]
    exact ⟨iff_of_true rfl room, fun _ => rfl, fun short => absurd room (Nat.not_le_of_lt short)⟩
  · have short := Nat.lt_of_not_le room
    rw [answerExtended_of_short claims succeeds short]
    refine ⟨iff_of_false nofun room, fun fits => absurd fits room, fun _ => ⟨?_, rfl, rfl⟩⟩
    exact request.provided_lt short

/-- An open device with three bytes of certificates. -/
def stampingDevice : ProgrammedDevice where
  isOpen := true
  certificates := [1, 2, 3]
  reports := Catalog.empty.insert (Report.dataKey (Block.zeros _))
    { body := Report.template (Block.zeros _), exit := .retry }
  signer := .fixed ⟨Block.zeros _, Block.zeros _⟩

theorem extendedReport_into_buffer_mismatched :
    stampingDevice.isOpen = true ∧ stampingDevice.certificates.length < UInt32.size ∧
      let asked (buffer : Bytes) (claimed : UInt32) :=
        stampingDevice.exchange Command.extendedReport.number
          ⟨1, .extendedReport ⟨⟨Block.zeros _, 1, by decide⟩, buffer, claimed⟩ {}, .success⟩
      (asked [9, 9, 9, 9, 9] 4).exit = .ok .retry ∧
        (asked [9, 9, 9, 9, 9] 4).request.payload.buffer? = some [1, 2, 3, 9, 9] ∧
        (asked [9, 9] 5).exit = .error (.bufferTooSmall 2 3) := by
  have isOpen : stampingDevice.isOpen = true := rfl
  have small : stampingDevice.certificates.length < UInt32.size := by decide
  let base : ReportRequest := ⟨Block.zeros _, 1, by decide⟩
  have found : stampingDevice.reports.find? (Report.dataKey base.data) =
      some { body := Report.template (Block.zeros _), exit := .retry } :=
    Catalog.find?_insert_self ..
  have signed : stampingDevice.signer.sign (Report.signedBytes (Report.template (Block.zeros _))) =
      .ok ⟨Block.zeros _, Block.zeros _⟩ := rfl
  obtain ⟨_, plain⟩ := exchange_report_of_isOpen isOpen 1 base {} .success
  rw [answerReport_of_signed found rfl signed] at plain
  have served : (stampingDevice.exchange Command.report.number
      ⟨1, .report base {}, .success⟩).exit = .ok .retry := by rw [plain]
  obtain ⟨_, claimed⟩ :=
    extendedReport_into_buffer isOpen small 1 ⟨base, [9, 9, 9, 9, 9], 4⟩ {} .success
  obtain ⟨succeeds, fills, _⟩ := (claimed (by decide)).2 _ served
  obtain ⟨_, claimedToo⟩ := extendedReport_into_buffer isOpen small 1 ⟨base, [9, 9], 5⟩ {} .success
  obtain ⟨_, _, refuses⟩ := (claimedToo (by decide)).2 _ served
  exact ⟨isOpen, small, succeeds.mpr (by decide), by rw [fills (by decide)]; rfl,
    (refuses (by decide)).2.1⟩

/-- An extended report that is served has the certificates at the start of a buffer of the same
length as before, and behind them what was there. -/
theorem exchange_extendedReport_success {number : UInt64} {version : UInt32}
    {request : ExtendedReportRequest} {response : ReportResponse} {status : FirmwareStatus}
    {exit : ExitResult}
    (succeeded : (device.exchange number
      ⟨version, .extendedReport request response, status⟩).exit = .ok exit) :
    device.certificates.length ≤ request.buffer.length ∧
      (device.exchange number
        ⟨version, .extendedReport request response, status⟩).request.payload.extended.1.buffer =
          device.certificates ++ request.buffer.drop device.certificates.length := by
  have outcome := device.exchange_outcome number ⟨version, .extendedReport request response, status⟩
  generalize device.exchange number ⟨version, .extendedReport request response, status⟩ = asked at *
  cases outcome with
  | misnumbered wrong => contradiction
  | closed right isClosed => contradiction
  | answered right isOpen answers =>
    subst answers
    have outcome := device.answerExtended_outcome request response status
    simp only [answer] at succeeded ⊢
    generalize device.answerExtended request response status = answered at *
    cases outcome with
    | filled claims plainAnswered plainSucceeds enough fits =>
      exact ⟨fits, Bytes.overwrite_zero ..⟩
    | _ => contradiction

/-- Bytes behind a table that reads do not change what it reads as. So where an extended report is
served to whatever buffer, the caller reads the device's certificates from the whole of it: it is
as long as before, and what was in it does not show. -/
theorem filledBuffer_parses :
    (∀ (table rest : Bytes) (certificates : List Certificate), table ≠ [] →
      CertificateTable.parse table = .ok certificates →
      CertificateTable.parse (table ++ rest) = .ok certificates) ∧
    ∀ (device : ProgrammedDevice) (certificates : List Certificate), device.certificates ≠ [] →
      CertificateTable.parse device.certificates = .ok certificates →
      ∀ number version request response status exit,
        let asked := device.exchange number ⟨version, .extendedReport request response, status⟩
        let filled := asked.request.payload.extended.1.buffer
        asked.exit = .ok exit →
          filled.length = request.buffer.length ∧
            CertificateTable.parse filled = .ok certificates := by
  constructor
  · intro table rest certificates nonempty read
    exact CertificateTable.parse_append nonempty read rest
  · intro device certificates stocked read number version request response status exit
    dsimp only
    intro succeeded
    obtain ⟨fits, filled⟩ := exchange_extendedReport_success succeeded
    rw [filled]
    constructor
    · rw [List.length_append, List.length_drop]
      omega
    · exact CertificateTable.parse_append stocked read _

/-- A table of one certificate. -/
def smallTable : Bytes :=
  CertificateTable.rowBytes CertificateKind.ark.guid 48 2 ++ List.replicate 24 0 ++ [7, 8]

/-- A request with stale bytes for more than a row behind the small table, and a claim beyond
them. -/
def staleRequest : ExtendedReportRequest :=
  ⟨⟨Block.zeros _, 1, by decide⟩, List.replicate 74 0xff, 80⟩

theorem filledBuffer_parses_stale :
    let device := stampingDevice.withCertificates smallTable
    let asked := device.exchange Command.extendedReport.number
      ⟨1, .extendedReport staleRequest {}, .success⟩
    device.certificates ≠ [] ∧
      CertificateTable.parse device.certificates = .ok [⟨.ark, [7, 8]⟩] ∧
      asked.exit = .ok .retry ∧
      CertificateTable.parse asked.request.payload.extended.1.buffer = .ok [⟨.ark, [7, 8]⟩] := by
  intro device asked
  have isOpen : device.isOpen = true := rfl
  have stocked : smallTable ≠ [] := by decide
  have read : CertificateTable.parse smallTable = .ok [⟨.ark, [7, 8]⟩] := by cbv
  have found : device.reports.find? (Report.dataKey staleRequest.base.data) =
      some { body := Report.template (Block.zeros _), exit := .retry } :=
    Catalog.find?_insert_self ..
  have signed : device.signer.sign (Report.signedBytes (Report.template (Block.zeros _))) =
      .ok ⟨Block.zeros _, Block.zeros _⟩ := rfl
  have plain : (device.answerReport staleRequest.base {} .success).exit = .ok .retry := by
    rw [answerReport_of_signed found rfl signed]
  have room : smallTable.length ≤ staleRequest.room := by decide
  obtain ⟨_, answered⟩ := exchange_extendedReport_of_isOpen isOpen 1 staleRequest {} .success
  have served : asked.exit = .ok .retry := by
    rw [show asked = _ from answered, answerExtended_of_room (by decide) plain room]
  obtain ⟨_, parsed⟩ := filledBuffer_parses.2 device _ stocked read _ _ _ _ _ _ served
  exact ⟨stocked, read, served, parsed⟩

end ProgrammedDevice

end SnpTestbed
