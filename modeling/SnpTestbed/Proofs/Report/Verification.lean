import SnpTestbed.Proofs.Report.Signature

/-!
# What the verification of a report decides

A report is verified in steps, and each of them can refuse it: its length, the zeros
behind its scalars, the range of the scalars, and at last the key. `Verdict` lists the
refusals with what leads to each of them, and `verifyReport_verdict` says that there are
no others. So `verifyReport_decides` can tell from the bytes of a report alone which of
them it meets, and that nothing behind the signature has a say in it.
-/
namespace SnpTestbed

variable {report : Bytes} {verifier : Verifier}

/-- What the verification of a report comes to. -/
inductive Verdict (report : Bytes) (verifier : Verifier) : Except GuestError Unit → Prop
  | tooShort (short : report.length < Report.size) :
    Verdict report verifier (.error (.report (.tooShort report.length)))
  | unpadded (long : Report.size ≤ report.length) (nonzero : ¬Report.Padded report) :
    Verdict report verifier (.error (.report .scalarTooLong))
  | malformed (long : Report.size ≤ report.length) (padded : Report.Padded report)
    (outside : verifier.admits (Report.carried report) = false) :
    Verdict report verifier (.error (.signing .malformedSignature))
  | rejected (long : Report.size ≤ report.length) (padded : Report.Padded report)
    (admitted : verifier.admits (Report.carried report) = true)
    (refused :
      verifier.accepts (report.take Report.signedSize) (Report.carried report) = false) :
    Verdict report verifier (.error (.signing .doesNotVerify))
  | verified (long : Report.size ≤ report.length) (padded : Report.Padded report)
    (admitted : verifier.admits (Report.carried report) = true)
    (accepted :
      verifier.accepts (report.take Report.signedSize) (Report.carried report) = true) :
    Verdict report verifier (.ok ())

/-- With its signature and its signed bytes at hand, a report is left to the verifier. -/
theorem verifyReport_of_signature {signature : Signature} {message : Bytes}
    (read : Report.signature report = .ok signature)
    (covered : Report.signedComponent report = .ok message) :
    verifyReport report verifier =
      if verifier.admits signature then
        if verifier.accepts message signature then .ok () else .error (.signing .doesNotVerify)
      else .error (.signing .malformedSignature) := by
  rw [verifyReport, read, covered]
  show (do
    if !verifier.admits signature then throw (GuestError.signing .malformedSignature)
    if !verifier.accepts message signature then
      throw (GuestError.signing .doesNotVerify) : Except GuestError Unit) = _
  cases verifier.admits signature with
  | false => rfl
  | true =>
    cases verifier.accepts message signature with
    | false => rfl
    | true => rfl

theorem verifyReport_verdict (report : Bytes) (verifier : Verifier) :
    Verdict report verifier (verifyReport report verifier) := by
  by_cases long : Report.size ≤ report.length
  · by_cases padded : Report.Padded report
    · have covered : Report.signedComponent report = .ok (report.take Report.signedSize) :=
        if_pos long
      rw [verifyReport_of_signature (Report.signature_of_padded long padded) covered]
      cases admitted : verifier.admits (Report.carried report) with
      | false => exact .malformed long padded admitted
      | true =>
        cases accepted :
          verifier.accepts (report.take Report.signedSize) (Report.carried report) with
        | false => exact .rejected long padded admitted accepted
        | true => exact .verified long padded admitted accepted
    · rw [verifyReport, Report.signature_of_unpadded long padded]
      exact .unpadded long padded
  · have unread : Report.signature report = .error (.tooShort report.length) := dif_neg long
    rw [verifyReport, unread]
    exact .tooShort (Nat.lt_of_not_le long)

/-- The verdicts exclude each other. -/
theorem Verdict.unique {left right : Except GuestError Unit} (first : Verdict report verifier left)
    (second : Verdict report verifier right) : left = right := by
  cases first <;> cases second <;> grind

theorem verifyReport_eq_iff {verdict : Except GuestError Unit} :
    verifyReport report verifier = verdict ↔ Verdict report verifier verdict := by
  have reached := verifyReport_verdict report verifier
  constructor
  · rintro rfl
    exact reached
  · exact fun given => reached.unique given

theorem verifyReport_eq_ok_iff :
    verifyReport report verifier = .ok () ↔ Report.size ≤ report.length ∧ Report.Padded report ∧
      verifier.admits (Report.carried report) = true ∧
      verifier.accepts (report.take Report.signedSize) (Report.carried report) = true := by
  rw [verifyReport_eq_iff]
  constructor
  · intro verdict
    cases verdict with
    | verified long padded admitted accepted => exact ⟨long, padded, admitted, accepted⟩
  · rintro ⟨long, padded, admitted, accepted⟩
    exact .verified long padded admitted accepted

theorem verifyReport_tooShort_iff :
    verifyReport report verifier = .error (.report (.tooShort report.length)) ↔
      ¬Report.size ≤ report.length := by
  rw [verifyReport_eq_iff]
  constructor
  · intro verdict
    cases verdict with
    | tooShort short => exact Nat.not_le_of_lt short
  · exact fun short => .tooShort (Nat.lt_of_not_le short)

theorem verifyReport_scalarTooLong_iff :
    verifyReport report verifier = .error (.report .scalarTooLong) ↔
      Report.size ≤ report.length ∧ ¬Report.Padded report := by
  rw [verifyReport_eq_iff]
  constructor
  · intro verdict
    cases verdict with
    | unpadded long nonzero => exact ⟨long, nonzero⟩
  · rintro ⟨long, nonzero⟩
    exact .unpadded long nonzero

theorem verifyReport_malformedSignature_iff :
    verifyReport report verifier = .error (.signing .malformedSignature) ↔
      Report.size ≤ report.length ∧ Report.Padded report ∧
      ¬verifier.admits (Report.carried report) = true := by
  rw [verifyReport_eq_iff, Bool.not_eq_true]
  constructor
  · intro verdict
    cases verdict with
    | malformed long padded outside => exact ⟨long, padded, outside⟩
  · rintro ⟨long, padded, outside⟩
    exact .malformed long padded outside

theorem verifyReport_doesNotVerify_iff :
    verifyReport report verifier = .error (.signing .doesNotVerify) ↔
      Report.size ≤ report.length ∧ Report.Padded report ∧
      verifier.admits (Report.carried report) = true ∧
      ¬verifier.accepts (report.take Report.signedSize) (Report.carried report) = true := by
  rw [verifyReport_eq_iff, Bool.not_eq_true]
  constructor
  · intro verdict
    cases verdict with
    | rejected long padded admitted refused => exact ⟨long, padded, admitted, refused⟩
  · rintro ⟨long, padded, admitted, refused⟩
    exact .rejected long padded admitted refused

/-- Reports that agree up to the end of their signatures are told apart by no verifier. -/
theorem verifyReport_congr {other : Bytes} (long : Report.size ≤ report.length)
    (longToo : Report.size ≤ other.length)
    (same : report.take (Report.secondScalarOffset + Report.fieldSize) =
      other.take (Report.secondScalarOffset + Report.fieldSize)) :
    verifyReport report verifier = verifyReport other verifier := by
  have covered : report.take Report.signedSize = other.take Report.signedSize := by
    have prefixes := congrArg (List.take Report.signedSize) same
    rwa [List.take_take, List.take_take] at prefixes
  rw [verifyReport, verifyReport, Report.signature_congr long longToo same,
    Report.signedComponent, Report.signedComponent, if_pos long, if_pos longToo, covered]

/-- The scalars of a report are in range as the numbers in their fields are. -/
theorem Ecdsa.inRange_carried_iff :
    inRange (Report.carried report) = true ↔
      (0 < Report.scalarAt report Report.firstScalarOffset ∧
        Report.scalarAt report Report.firstScalarOffset < Curve.order) ∧
      0 < Report.scalarAt report Report.secondScalarOffset ∧
        Report.scalarAt report Report.secondScalarOffset < Curve.order := by
  simp only [inRange, Report.carried, Report.decode_scalarAt, Bool.and_eq_true, decide_eq_true_eq,
    and_assoc]

theorem PublicKey.admits_verifier (key : PublicKey) : key.verifier.admits = Ecdsa.inRange := by
  simp only [verifier]

theorem PublicKey.accepts_verifier (key : PublicKey) :
    key.verifier.accepts = Ecdsa.verifies key := by
  simp only [verifier]

/-- A report is verified under a key exactly if it is long enough, only zeros stand behind its
scalars, these are in range, and the key accepts them for the signed bytes. Every other report is
refused for the first of these that fails. Bytes behind the signature have no part in it. -/
theorem verifyReport_decides (key : PublicKey) (report : Bytes) :
    let verdict := verifyReport report key.verifier
    let long := 0x4A0 ≤ report.length
    let padded := (∀ byte ∈ Bytes.slice report 0x2D0 0x18, byte = 0) ∧
      ∀ byte ∈ Bytes.slice report 0x318 0x18, byte = 0
    let r := LittleEndian.decode (Bytes.slice report 0x2A0 0x30)
    let s := LittleEndian.decode (Bytes.slice report 0x2E8 0x30)
    let inRange := (0 < r ∧ r < Curve.order) ∧ 0 < s ∧ s < Curve.order
    let accepted := Ecdsa.verifies key (report.take 0x2A0)
      ⟨BigEndian.block _ r, BigEndian.block _ s⟩ = true
    (verdict = .ok () ↔ long ∧ padded ∧ inRange ∧ accepted) ∧
    (verdict = .error (.report (.tooShort report.length)) ↔ ¬long) ∧
    (verdict = .error (.report .scalarTooLong) ↔ long ∧ ¬padded) ∧
    (verdict = .error (.signing .malformedSignature) ↔ long ∧ padded ∧ ¬inRange) ∧
    (verdict = .error (.signing .doesNotVerify) ↔ long ∧ padded ∧ inRange ∧ ¬accepted) ∧
    ∀ other : Bytes, long → 0x4A0 ≤ other.length → report.take 0x330 = other.take 0x330 →
      verifyReport other key.verifier = verdict := by
  intro verdict long padded r s inRange accepted
  have paddedIff : Report.Padded report ↔ padded :=
    ⟨fun zeros => ⟨zeros.first, zeros.second⟩, fun zeros => ⟨zeros.1, zeros.2⟩⟩
  have inRangeIff : key.verifier.admits (Report.carried report) = true ↔ inRange := by
    rw [PublicKey.admits_verifier]
    exact Ecdsa.inRange_carried_iff
  have acceptedIff : key.verifier.accepts (report.take Report.signedSize)
      (Report.carried report) = true ↔ accepted := by
    rw [PublicKey.accepts_verifier]
    exact Iff.rfl
  rw [← paddedIff, ← inRangeIff, ← acceptedIff]
  exact ⟨verifyReport_eq_ok_iff, verifyReport_tooShort_iff, verifyReport_scalarTooLong_iff,
    verifyReport_malformedSignature_iff, verifyReport_doesNotVerify_iff,
    fun other isLong longToo same => (verifyReport_congr isLong longToo same).symm⟩

/-- The key whose secret scalar is 1. -/
def unitKey : PublicKey := ⟨Curve.Point.generator.x, Curve.Point.generator.y⟩

/-- A signature of zeros, as many as a signature covers, under that key. -/
def zerosSignature : Signature where
  r := BigEndian.block _
    0x7e5a89d9f8508742c994ce8dc75913e2cde0f5743a44be7cb6c2a6d4b070334df98d37cdb400580326e5baf916447263
  s := BigEndian.block _
    0x95b762b31b830951644f9216b32ed38be7c0d46631df2b2b6f888764d162cad0c5341e4789adc2bcd783390381d2eb3

/-- A report of zeros with their signature. -/
def signedZeros : Bytes :=
  List.replicate 0x2A0 0 ++ Report.signatureFields zerosSignature ++ List.replicate 0x170 0

theorem verifyReport_decides_signedZeros :
    let other : Bytes := signedZeros.take 0x330 ++ List.replicate 0x200 0xff
    0x4A0 ≤ signedZeros.length ∧ 0x4A0 ≤ other.length ∧
      signedZeros.take 0x330 = other.take 0x330 ∧
      verifyReport signedZeros unitKey.verifier = .ok () ∧
      verifyReport other unitKey.verifier = .ok () := by
  intro other
  obtain ⟨verifiedIff, _, _, _, _, agreeing⟩ := verifyReport_decides unitKey signedZeros
  have long : 0x4A0 ≤ signedZeros.length := by decide +kernel
  have longToo : 0x4A0 ≤ other.length := by decide +kernel
  have same : signedZeros.take 0x330 = other.take 0x330 := by decide +kernel
  have verified := verifiedIff.mpr
    ⟨long, by decide +kernel, by decide +kernel, by decide +kernel⟩
  exact ⟨long, longToo, same, verified, (agreeing other long longToo same).trans verified⟩

end SnpTestbed
