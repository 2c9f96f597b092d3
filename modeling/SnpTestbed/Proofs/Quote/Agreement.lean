import SnpTestbed.Client
import SnpTestbed.Proofs.Certificate.Extension
import SnpTestbed.Proofs.Certificate.PlatformRecord
import SnpTestbed.Proofs.Device.Outcomes
import SnpTestbed.Proofs.Product.SignatureWord
import SnpTestbed.Quote

/-!
# Quotes against commands

A quote is made without a command, yet it has the outcome of the report command for
the same data: `result_make` puts it together from the answer to that command and the
certificate table. What is in a quote can be told from outside: it splits into that
report and a table, which reads as the device's own entries with the record of its
platform in place of any other.
-/
namespace SnpTestbed.Quote

variable (device : ProgrammedDevice)

/-- A quote fails as the report request for the same data does; where that one is served, the quote
is its report with the certificate table, or the error of the table. -/
theorem result_make (request : ReportRequest) (response : ReportResponse)
    (status : FirmwareStatus) :
    (make device request.data).result = (do
      let answer := device.answerReport request response status
      let _ ← answer.exit
      let table ← certificateTable device
      return answer.payload.report.val ++ table) := by
  generalize answered : device.answerReport request response status = answer
  have outcome := device.answerReport_outcome request response status
  rw [answered] at outcome
  unfold make ProgrammedDevice.lookup
  cases outcome with
  | missing absent =>
    simp only [absent]
    rfl
  | injected found failing =>
    simp only [found, failing]
    rfl
  | unsigned found passing refused =>
    simp only [found, passing, ProgrammedDevice.sign, Signer.ask, Outcome.map, refused]
    rfl
  | served found passing signed =>
    simp only [found, passing, ProgrammedDevice.sign, Signer.ask, Outcome.map, signed]
    cases certificateTable device with
    | error error => rfl
    | ok table => rfl

/-- Whether a device is open does not show in its answer, so an open copy of it ends a report
command as the device itself would answer. -/
theorem exchange_report_opened (version : UInt32) (request : ReportRequest)
    (response : ReportResponse) (status : FirmwareStatus) :
    ∃ activity, { device with isOpen := true }.exchange Command.report.number
        ⟨version, .report request response, status⟩ =
      { exit := (device.answerReport request response status).exit
        request := ⟨version,
          .report request (device.answerReport request response status).payload,
          (device.answerReport request response status).status⟩
        device := { device with isOpen := true }
        activity } :=
  ProgrammedDevice.exchange_report_of_isOpen rfl version request response status

/-- A quote of a report and a table splits into them. -/
theorem split_append (report : Report.Body) (table : Bytes) :
    split (report.val ++ table) = .ok (report.val, table) := by
  have long : ¬(report.val ++ table).length < Report.size := by
    rw [List.length_append, report.property]
    omega
  rw [split, if_neg long, List.take_left' report.property, List.drop_left' report.property]

variable {device}

/-- A quote begins with the report that answers a command. -/
theorem take_of_result_make {quote : Bytes}
    (request : ReportRequest) (response : ReportResponse) (status : FirmwareStatus)
    (made : (make device request.data).result = .ok quote) :
    quote.take Report.size = (device.answerReport request response status).payload.report.val := by
  rw [result_make device request response status] at made
  generalize device.answerReport request response status = answer at made ⊢
  dsimp only at made
  cases ended : answer.exit with
  | error error =>
    rw [ended] at made
    contradiction
  | ok exit =>
    rw [ended] at made
    cases extended : certificateTable device with
    | error error =>
      rw [extended] at made
      contradiction
    | ok table =>
      rw [extended] at made
      injection made with made
      rw [← made, List.take_left' answer.payload.report.property]

/-- The certificate table of a quote reads as the entries of the device, without their platform
info, and then the record of its product, which tells the product's line. -/
theorem parse_certificateTable {product : Product} {table : Bytes}
    (extended : CertificateTable.extend device.certificates (.ofProduct product) = .ok table) :
    ∃ certificates info, CertificateTable.parse device.certificates = .ok certificates ∧
      CertificateTable.parse table =
        .ok (certificates.filter (fun certificate => certificate.kind ≠ .platformInfo) ++
          [⟨.platformInfo, info⟩]) ∧
      PlatformInfo.parse info = .ok ⟨8, product.maskedSignature⟩ ∧
      (Product.ofSignature product.maskedSignature).line = product.line := by
  obtain ⟨certificates, read, longer⟩ := CertificateTable.parse_of_extend extended
  have claims : PlatformInfo.recordSize ≤ (PlatformInfo.ofProduct product).size.toNat :=
    show 8 ≤ (8 : UInt32).toNat by decide
  have record := PlatformInfo.parse_bytes_append claims []
  rw [List.append_nil] at record
  exact ⟨certificates, _, read, longer, record, product.line_ofSignature_maskedSignature⟩

/-- A quote is the report that an open copy of the device serves for the same data, with the
device's certificates extended by its platform, or the first error on the way there. -/
theorem make_agrees_with_command (device : ProgrammedDevice) (version : UInt32)
    (request : ReportRequest) (response : ReportResponse) (status : FirmwareStatus) :
    let asked := { device with isOpen := true }.exchange Command.report.number
      ⟨version, .report request response, status⟩
    let quoted := (make device request.data).result
    (∀ error, asked.exit = .error error → quoted = .error error) ∧
    (∀ exit, asked.exit = .ok exit →
      (device.product? = none → quoted = .error .productRequired) ∧
      ∀ product, device.product? = some product →
        quoted =
          match CertificateTable.extend device.certificates (.ofProduct product) with
          | .ok table => .ok (asked.request.payload.reportResponse.report.val ++ table)
          | .error fault => .error (.certificateTable fault)) ∧
    ∀ quote, quoted = .ok quote → ∃ product table certificates info,
      device.product? = some product ∧
      split quote = .ok (asked.request.payload.reportResponse.report.val, table) ∧
      CertificateTable.parse device.certificates = .ok certificates ∧
      CertificateTable.parse table =
        .ok (certificates.filter (fun certificate => certificate.kind ≠ .platformInfo) ++
          [⟨.platformInfo, info⟩]) ∧
      PlatformInfo.parse info = .ok ⟨8, product.maskedSignature⟩ ∧
      (Product.ofSignature product.maskedSignature).line = product.line := by
  obtain ⟨activity, opened⟩ := exchange_report_opened device version request response status
  rw [opened, result_make device request response status]
  generalize device.answerReport request response status = answer
  dsimp only [Payload.reportResponse]
  cases ended : answer.exit with
  | error error =>
    refine ⟨?_, fun exit served => by contradiction, fun quote made => by contradiction⟩
    rintro _ ⟨⟩
    rfl
  | ok exit =>
    simp only [certificateTable]
    refine ⟨fun error failed => by contradiction, fun _ _ => ⟨?_, ?_⟩, fun quote made => ?_⟩
    · intro unknown
      rw [unknown]
      rfl
    · intro product known
      simp only [known]
      cases CertificateTable.extend device.certificates (.ofProduct product) with
      | error fault => rfl
      | ok table => rfl
    · cases known : device.product? with
      | none =>
        rw [known] at made
        contradiction
      | some product =>
        simp only [known] at made
        cases extended : CertificateTable.extend device.certificates (.ofProduct product) with
        | error fault =>
          rw [extended] at made
          contradiction
        | ok table =>
          rw [extended] at made
          injection made with made
          obtain ⟨certificates, info, content⟩ := parse_certificateTable extended
          refine ⟨product, table, certificates, info, rfl, ?_, content⟩
          rw [← made]
          exact split_append answer.payload.report table

/-- A closed device whose certificates already come with platform info, of another length. -/
def genoaDevice : ProgrammedDevice where
  reports := Catalog.empty.insert (Report.dataKey (Block.zeros _))
    { body := Report.template (Block.zeros _), exit := .retry }
  certificates := CertificateTable.rowBytes CertificateKind.platformInfo.guid 72 1 ++
    CertificateTable.rowBytes CertificateKind.vcek.guid 73 2 ++ List.replicate 24 0 ++ [9, 1, 2]
  product? := some ⟨.genoa, some 2⟩
  signer := .fixed ⟨Block.zeros _, Block.zeros _⟩

theorem make_agrees_with_command_genoa :
    ∃ report table, (make genoaDevice (Block.zeros _)).result = .ok (report ++ table) ∧
      split (report ++ table) = .ok (report, table) ∧
      ∃ info, CertificateTable.parse table = .ok [⟨.vcek, [1, 2]⟩, ⟨.platformInfo, info⟩] ∧
        PlatformInfo.parse info = .ok ⟨8, 0x00A10F10⟩ := by
  let request : ReportRequest := ⟨Block.zeros _, 1, by decide⟩
  have found : genoaDevice.reports.find? (Report.dataKey request.data) =
      some { body := Report.template (Block.zeros _), exit := .retry } :=
    Catalog.find?_insert_self ..
  have passing : FirmwareStatus.success.isSuccess = true := rfl
  have signed : genoaDevice.signer.sign (Report.signedBytes (Report.template (Block.zeros _))) =
      .ok ⟨Block.zeros _, Block.zeros _⟩ := rfl
  have answered := ProgrammedDevice.answerReport_of_signed found passing signed {} .success
  obtain ⟨_, opened⟩ := exchange_report_opened genoaDevice 1 request {} .success
  rw [answered] at opened
  obtain ⟨_, served, content⟩ := make_agrees_with_command genoaDevice 1 request {} .success
  rw [opened] at served content
  obtain ⟨table, extended⟩ : ∃ table,
      CertificateTable.extend genoaDevice.certificates (.ofProduct ⟨.genoa, some 2⟩) = .ok table :=
    ⟨_, rfl⟩
  have quoted := (served .retry rfl).2 ⟨.genoa, some 2⟩ rfl
  rw [extended] at quoted
  obtain ⟨product, other, certificates, info, known, halves, read, reads, record, _⟩ :=
    content _ quoted
  have same := congrArg Prod.snd (Except.ok.inj ((split_append _ table).symm.trans halves))
  have own : CertificateTable.parse genoaDevice.certificates =
      .ok [⟨.platformInfo, [9]⟩, ⟨.vcek, [1, 2]⟩] := rfl
  rw [own] at read
  injection read with read
  injection known with known
  subst read known
  obtain rfl : table = other := same
  exact ⟨_, _, quoted, split_append _ table, info, reads, record⟩

end SnpTestbed.Quote
