import SnpTestbed.Proofs.Device.Outcomes
import SnpTestbed.Proofs.FirstFailure
import SnpTestbed.Proofs.Report.Signature
import SnpTestbed.Proofs.Text.Hex

/-!
# Signing what was signed before

A signature is made of the bytes before its fields and covers whatever stands in them, so
a report is signed alike with any signature in it, its own included. A device can therefore
be programmed with the reports that it served: `answerReport_reprogram` says that one such
step shows in no answer, and `exchange_afterServing` carries that over any number of them.
-/
namespace SnpTestbed

namespace Report

variable {body other : Body}

/-- The bytes in the fields of a signature do not show once another one is put there. -/
theorem embed_congr (signature : Signature)
    (before : body.val.take firstScalarOffset = other.val.take firstScalarOffset)
    (behind : body.val.drop (secondScalarOffset + fieldSize) =
      other.val.drop (secondScalarOffset + fieldSize)) :
    embed signature body = embed signature other := by
  have ends : firstScalarOffset + (signatureFields signature).length =
      secondScalarOffset + fieldSize := by
    rw [length_signatureFields]
    rfl
  apply Subtype.ext
  rw [val_embed, val_embed, Bytes.overwrite, Bytes.overwrite, ends, before, behind]

/-- Of two signatures put into a report, the later one stands there. -/
theorem embed_embed (later earlier : Signature) (body : Body) :
    embed later (embed earlier body) = embed later body :=
  embed_congr later (take_embed earlier body (Nat.le_refl _))
    (drop_embed earlier body (Nat.le_refl _))

/-- A signature does not cover itself. -/
theorem signedBytes_embed (signature : Signature) (body : Body) :
    signedBytes (embed signature body) = signedBytes body :=
  take_embed signature body (Nat.le_refl _)

/-- Answers for other data are kept under other keys. -/
theorem dataKey_inj {first second : Data} : dataKey first = dataKey second ↔ first = second :=
  Hex.encode_inj.trans Subtype.ext_iff.symm

end Report

namespace ProgrammedDevice

variable {device : ProgrammedDevice} {body report : Report.Body}

theorem sign_eq_error_iff {error : GuestError} :
    (device.sign body).result = .error error ↔
      device.signer.sign (Report.signedBytes body) = .error error :=
  FirstFailure.map_eq_error_iff

theorem sign_eq_ok_iff :
    (device.sign body).result = .ok report ↔
      ∃ signature, device.signer.sign (Report.signedBytes body) = .ok signature ∧
        Report.embed signature body = report :=
  FirstFailure.map_eq_ok_iff

/-- Bodies that differ in the fields of a signature only are signed alike. -/
theorem sign_congr {other : Report.Body}
    (before : body.val.take Report.signedSize = other.val.take Report.signedSize)
    (behind : body.val.drop (Report.secondScalarOffset + Report.fieldSize) =
      other.val.drop (Report.secondScalarOffset + Report.fieldSize)) :
    device.sign body = device.sign other := by
  have covered : Report.signedBytes body = Report.signedBytes other := before
  have alike : (fun signature => Report.embed signature body) =
      fun signature => Report.embed signature other := by
    funext signature
    exact Report.embed_congr signature before behind
  rw [sign, sign, covered, alike]

/-- A signed report is signed as it is. -/
theorem sign_of_sign (signed : (device.sign body).result = .ok report) :
    (device.sign report).result = .ok report := by
  obtain ⟨signature, made, rfl⟩ := sign_eq_ok_iff.mp signed
  refine sign_eq_ok_iff.mpr ⟨signature, ?_, Report.embed_embed signature signature body⟩
  rw [Report.signedBytes_embed]
  exact made

/-- The device with the report that it serves for a request programmed in place of the body it was
made of. What it refuses stays as it was programmed. -/
def reprogram (device : ProgrammedDevice) (request : ReportRequest) : ProgrammedDevice :=
  let answered := device.answerReport request {} .success
  match answered.exit with
  | .ok exit => device.withReport request.data { body := answered.payload.report, exit }
  | .error _ => device

/-- The device after it served some requests, each of them reprogrammed at once. -/
def afterServing (device : ProgrammedDevice) (requests : List ReportRequest) : ProgrammedDevice :=
  requests.foldl reprogram device

/-- A report request is answered from what is programmed for its data, and by the signer. -/
theorem answerReport_congr {other : ProgrammedDevice} {request : ReportRequest}
    (programmed : other.reports.find? (Report.dataKey request.data) =
      device.reports.find? (Report.dataKey request.data))
    (signer : other.signer = device.signer) (response : ReportResponse)
    (status : FirmwareStatus) :
    other.answerReport request response status = device.answerReport request response status := by
  simp only [answerReport, lookup, sign, programmed, signer]

/-- The answer to no report request tells whether a served report was programmed. -/
theorem answerReport_reprogram (served request : ReportRequest) (response : ReportResponse)
    (status : FirmwareStatus) :
    (device.reprogram served).answerReport request response status =
      device.answerReport request response status := by
  have outcome := device.answerReport_outcome served {} .success
  unfold reprogram
  generalize device.answerReport served {} .success = answered at outcome ⊢
  cases outcome with
  | missing absent => rfl
  | injected found failing => rfl
  | unsigned found passing refused => rfl
  | @served canned signature found passing signed =>
    let kept : CannedReport := { body := Report.embed signature canned.body, exit := canned.exit }
    show (device.withReport served.data kept).answerReport request response status = _
    by_cases same : request.data = served.data
    · have keptFound : (device.withReport served.data kept).reports.find?
          (Report.dataKey request.data) = some kept := by
        rw [same]
        exact Catalog.find?_insert_self ..
      have resigned : (device.withReport served.data kept).signer.sign
          (Report.signedBytes kept.body) = .ok signature := by
        rw [Report.signedBytes_embed]
        exact signed
      rw [← same] at found
      rw [answerReport_of_signed keptFound rfl resigned,
        answerReport_of_signed found passing signed, Report.embed_embed, Report.signedBytes_embed]
    · have otherKey : Report.dataKey request.data ≠ Report.dataKey served.data :=
        fun keys => same (Report.dataKey_inj.mp keys)
      have untouched : (device.withReport served.data kept).reports.find?
          (Report.dataKey request.data) = device.reports.find? (Report.dataKey request.data) :=
        Catalog.find?_insert_of_ne device.reports otherKey kept
      apply answerReport_congr untouched
      rfl

/-- Only the programmed reports change. -/
theorem exists_reprogram (device : ProgrammedDevice) (served : ReportRequest) :
    ∃ reports, device.reprogram served = { device with reports } := by
  simp only [reprogram]
  split
  · exact ⟨_, rfl⟩
  · exact ⟨_, rfl⟩

theorem answer_reprogram (served : ReportRequest) {command : Command} (payload : Payload command)
    (status : FirmwareStatus) :
    (device.reprogram served).answer payload status = device.answer payload status := by
  obtain ⟨reports, changed⟩ := device.exists_reprogram served
  have certificates : (device.reprogram served).certificates = device.certificates := by
    rw [changed]
  have keys : (device.reprogram served).keys = device.keys := by
    rw [changed]
  cases payload with
  | report request response => simp only [answer, answerReport_reprogram]
  | extendedReport request response =>
    simp only [answer, answerExtended, answerProbe, answerReport_reprogram, certificates]
  | derivedKey request response => simp only [answer, answerKey, keys]

/-- One programmed report shows in nothing that a command comes to. -/
theorem exchange_reprogram (served : ReportRequest) {command : Command} (number : UInt64)
    (request : GuestRequest command) :
    ((device.reprogram served).exchange number request).Agrees
      (device.exchange number request) := by
  obtain ⟨reports, changed⟩ := device.exists_reprogram served
  have isOpen : (device.reprogram served).isOpen = device.isOpen := by
    rw [changed]
  unfold exchange dispatch
  rw [isOpen, answer_reprogram]
  split
  · split
    · exact ⟨rfl, rfl, rfl⟩
    · exact ⟨rfl, rfl, rfl⟩
  · exact ⟨rfl, rfl, rfl⟩

/-- Nor do any number of them, the later ones served from the earlier ones. -/
theorem exchange_afterServing (requests : List ReportRequest) {command : Command}
    (number : UInt64) (request : GuestRequest command) :
    ((device.afterServing requests).exchange number request).Agrees
      (device.exchange number request) := by
  induction requests generalizing device with
  | nil => exact ⟨rfl, rfl, rfl⟩
  | cons served later hypothesis =>
    exact hypothesis.trans (exchange_reprogram served number request)

/-- Signing fails as the signer does on the bytes before the signature, tells bodies apart by the
bytes outside of the signature alone, and leaves what was signed. So a device that is programmed
with the reports it served answers every request as before. -/
theorem signing_ignores_signature (device : ProgrammedDevice) :
    (∀ (body : Report.Body) (error : GuestError),
      (device.sign body).result = .error error ↔
        device.signer.sign (body.val.take 0x2A0) = .error error) ∧
    (∀ body other : Report.Body, body.val.take 0x2A0 = other.val.take 0x2A0 →
      body.val.drop 0x330 = other.val.drop 0x330 → device.sign body = device.sign other) ∧
    (∀ body report : Report.Body, (device.sign body).result = .ok report →
      (device.sign report).result = .ok report) ∧
    ∀ (requests : List ReportRequest) (command : Command) (number : UInt64)
      (request : GuestRequest command),
      ((device.afterServing requests).exchange number request).Agrees
        (device.exchange number request) :=
  ⟨fun _ _ => sign_eq_error_iff, fun _ _ before behind => sign_congr before behind,
    fun _ _ signed => sign_of_sign signed,
    fun requests _ number request => exchange_afterServing requests number request⟩

/-- A signature that is put under everything. -/
def imprint : Signature where
  r := ⟨List.replicate 48 7, by decide⟩
  s := ⟨List.replicate 48 9, by decide⟩

/-- An open device that puts it under the template for zero data. -/
def overprintingDevice : ProgrammedDevice where
  isOpen := true
  reports := Catalog.empty.insert (Report.dataKey (Block.zeros _))
    { body := Report.template (Block.zeros _), exit := .retry }
  signer := .fixed imprint

theorem signing_ignores_signature_overprinted :
    let plain := Report.template (Block.zeros _)
    let printed := Report.embed imprint plain
    overprintingDevice.sign printed = overprintingDevice.sign plain ∧
      (overprintingDevice.sign plain).result = .ok printed ∧
      (overprintingDevice.sign printed).result = .ok printed ∧
      ∀ request : GuestRequest .report,
        ((overprintingDevice.afterServing [⟨Block.zeros _, 1, by decide⟩]).exchange
          Command.report.number request).Agrees
            (overprintingDevice.exchange Command.report.number request) := by
  intro plain printed
  obtain ⟨_, alike, kept, answered⟩ := signing_ignores_signature overprintingDevice
  have before : printed.val.take 0x2A0 = plain.val.take 0x2A0 := by decide +kernel
  have behind : printed.val.drop 0x330 = plain.val.drop 0x330 := by decide +kernel
  have signed : (overprintingDevice.sign plain).result = .ok printed := rfl
  exact ⟨alike printed plain before behind, signed, kept plain printed signed,
    answered [⟨Block.zeros _, 1, by decide⟩] .report Command.report.number⟩

end ProgrammedDevice

end SnpTestbed
