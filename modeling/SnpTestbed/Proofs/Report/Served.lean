import Mathlib.Data.Option.Basic
import SnpTestbed.Proofs.Client.ExtendedReport
import SnpTestbed.Proofs.Quote.Agreement
import SnpTestbed.Proofs.Report.Signature

/-!
# Served reports verify

A device that signs with a secret key serves reports that the key's public half
verifies, for every registered body. Of the signature scheme nothing is used but
`SecretKey.VouchesFor` the signed bytes of that body: the rest is where the signature is
written, and how it is read. The report is the same in the response to a command, from a
client, and at the start of a quote.
-/
namespace SnpTestbed

/-- Both scalars of a signature that was made are in range. -/
theorem Ecdsa.inRange_of_sign? {key : SecretKey} {message : Bytes} {signature : Signature}
    (signed : sign? key message = some signature) : inRange signature = true := by
  have positive : 0 < Curve.order := by decide
  have fits : Curve.order ≤ 256 ^ Curve.scalarSize := by decide
  have recovered (value : Nat) :
      BigEndian.decode (BigEndian.block Curve.scalarSize (value % Curve.order)).val =
        value % Curve.order :=
    BigEndian.decode_encode_of_lt (Nat.lt_of_lt_of_le (Nat.mod_lt _ positive) fits)
  simp only [sign?, Option.bind_eq_bind, Option.bind_eq_some_iff, Option.pure_def] at signed
  obtain ⟨nonce, _, ⟨x, _⟩, _, _, nonzero, made⟩ := signed
  obtain ⟨firstNonzero, secondNonzero⟩ := (Option.guard_eq_some' _).mp nonzero
  rw [← Option.some.inj made, inRange]
  simp only [recovered, Nat.mod_lt _ positive, Nat.pos_of_ne_zero firstNonzero,
    Nat.pos_of_ne_zero secondNonzero, decide_true, Bool.and_self]

/-- What is relied on of the signature scheme: the message can be signed with the secret key, and
the public key accepts the signature. -/
def SecretKey.VouchesFor (key : SecretKey) (message : Bytes) : Prop :=
  ∃ signature, Ecdsa.sign? key message = some signature ∧
    Ecdsa.verifies key.publicKey message signature = true

instance (key : SecretKey) (message : Bytes) : Decidable (key.VouchesFor message) :=
  decidable_of_iff
    ((Ecdsa.sign? key message).any (Ecdsa.verifies key.publicKey message) = true)
    (Option.any_eq_true _ _)

namespace Signer

theorem sign_mk (sign : Bytes → Except GuestError Signature) : (mk sign).sign = sign := rfl

/-- A message that the key signs is signed by its signer. -/
theorem sign_ecdsa {key : SecretKey} {message : Bytes} {signature : Signature}
    (made : Ecdsa.sign? key message = some signature) :
    (ecdsa key).sign message = .ok signature := by
  -- The signature is put in before anything is reduced: with the message unknown, `sign?` would
  -- unfold into all the nonces that could be drawn.
  rw [ecdsa, sign_mk, made]

end Signer

namespace ProgrammedDevice

variable {device : ProgrammedDevice}

theorem lookup_eq_ok_iff {data : Report.Data} {canned : CannedReport} :
    device.lookup data = .ok canned ↔
      device.reports.find? (Report.dataKey data) = some canned := by
  unfold lookup
  cases device.reports.find? (Report.dataKey data) with
  | none => simp
  | some found => simp

/-- An open device serves a registered report with a signature that verifies and with all of its
other bytes, and clients and quotes get the same report. -/
theorem servedReport_verifies {key : SecretKey} {data : Report.Data} {canned : CannedReport}
    (isOpen : device.isOpen = true) (signsWith : device.signer = .ecdsa key)
    (registered : device.lookup data = .ok canned) (passing : canned.status = .success)
    (vouches : key.VouchesFor (Report.signedBytes canned.body)) :
    ∃ report : Report.Body,
      (∀ version vmpl bounded response status,
        let asked := device.exchange Command.report.number
          ⟨version, .report ⟨data, vmpl, bounded⟩ response, status⟩
        asked.exit = .ok canned.exit ∧
          asked.request.payload.reportResponse = ⟨0, 0x4A0, report⟩) ∧
      verifyReport report.val key.publicKey.verifier = .ok () ∧
      report.val.take 0x2A0 = canned.body.val.take 0x2A0 ∧
      report.val.drop 0x330 = canned.body.val.drop 0x330 ∧
      (canned.body = Report.template data → Report.data report.val = .ok data) ∧
      (∀ version vmpl, vmpl.getD 1 ≤ 3 →
        (Client.getReport ⟨device, version⟩ (some data) vmpl).result = .ok report) ∧
      ∀ quote, (Quote.make device data).result = .ok quote → quote.take 0x4A0 = report.val := by
  obtain ⟨signature, made, accepted⟩ := vouches
  have signed : device.signer.sign (Report.signedBytes canned.body) = .ok signature := by
    rw [signsWith, Signer.sign_ecdsa made]
  have succeeds : canned.status.isSuccess = true := by
    rw [passing]
    rfl
  have answered (vmpl : UInt32) (bounded : vmpl ≤ 3) (response : ReportResponse)
      (status : FirmwareStatus) :
      device.answerReport ⟨data, vmpl, bounded⟩ response status =
        ⟨.ok canned.exit,
          ⟨0, UInt32.ofNat Report.size, Report.embed signature canned.body⟩, status,
          .signing (Report.signedBytes canned.body)⟩ :=
    answerReport_of_signed (lookup_eq_ok_iff.mp registered) succeeds signed response status
  refine ⟨Report.embed signature canned.body, ?exchanged, ?verified, ?before, ?behind, ?carried,
    ?fetched, ?quoted⟩
  case exchanged =>
    intro version vmpl bounded response status
    obtain ⟨_, exchanged⟩ :=
      exchange_report_of_isOpen isOpen version ⟨data, vmpl, bounded⟩ response status
    rw [exchanged, answered]
    exact ⟨rfl, rfl⟩
  case verified =>
    exact verifyReport_embed (Ecdsa.inRange_of_sign? made) accepted
  case before =>
    exact Report.take_embed signature canned.body (Nat.le_refl _)
  case behind =>
    exact Report.drop_embed signature canned.body (Nat.le_refl _)
  case carried =>
    intro templated
    rw [templated]
    exact Report.data_embed_template signature data
  case fetched =>
    intro version vmpl bounded
    have requested : ReportRequest.make (some data) vmpl = .ok ⟨data, vmpl.getD 1, bounded⟩ :=
      dif_pos bounded
    rw [Client.getReport_of_isOpen isOpen requested, answered]
    rfl
  case quoted =>
    intro quote quoted
    have begins := Quote.take_of_result_make ⟨data, 1, by decide⟩ {} .success quoted
    rwa [answered] at begins

/-- A secret key that is small enough to be checked with. -/
def smallKey : SecretKey := ⟨7, by decide, by decide⟩

/-- An open device that signs the template for zero data with the small key. -/
def signingDevice : ProgrammedDevice where
  isOpen := true
  reports := Catalog.empty.insert (Report.dataKey (Block.zeros _))
    { body := Report.template (Block.zeros _), exit := .retry }
  signer := .ecdsa smallKey

theorem servedReport_verifies_signing : ∃ report : Report.Body,
    (Client.getReport ⟨signingDevice, none⟩ (some (Block.zeros _)) none).result = .ok report ∧
      verifyReport report.val smallKey.publicKey.verifier = .ok () ∧
      Report.data report.val = .ok (Block.zeros _) := by
  have isOpen : signingDevice.isOpen = true := rfl
  have signsWith : signingDevice.signer = .ecdsa smallKey := rfl
  let canned : CannedReport := { body := Report.template (Block.zeros _), exit := .retry }
  have registered : signingDevice.lookup (Block.zeros _) = .ok canned :=
    lookup_eq_ok_iff.mpr (Catalog.find?_insert_self ..)
  have passing : canned.status = .success := rfl
  have vouches : smallKey.VouchesFor (Report.signedBytes canned.body) := by
    decide +kernel
  obtain ⟨report, _, verified, _, _, carried, fetched, _⟩ :=
    servedReport_verifies isOpen signsWith registered passing vouches
  exact ⟨report, fetched none none (by decide), verified, carried rfl⟩

end ProgrammedDevice

end SnpTestbed
