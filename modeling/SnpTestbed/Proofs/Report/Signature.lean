import SnpTestbed.Signer

/-!
# Signatures in reports

A signature is written into the two scalar fields behind the signed bytes, one after the
other, and each field is cleared before it is filled. `writeSignature_of_long` says that
this leaves one window of new bytes in a string that is otherwise the old one, and
`signature_eq_ok_iff` that a signature is read from exactly the bytes that it is written
as. So a report with a signature reads back as that signature, while the signed bytes and
the bytes behind the fields are those of the report before.
-/
namespace SnpTestbed

namespace Report

/-- A scalar is read from the field that it is written as, and from no other. -/
theorem readScalar_eq_ok_iff {report : Bytes} {offset : Nat}
    (inside : offset + fieldSize ≤ report.length) {scalar : Block Curve.scalarSize} :
    readScalar report offset inside = .ok scalar ↔
      Bytes.slice report offset fieldSize = scalarField scalar := by
  have parts : Bytes.slice report offset fieldSize =
      Bytes.slice report offset Curve.scalarSize ++
        Bytes.slice report (offset + Curve.scalarSize) (fieldSize - Curve.scalarSize) :=
    Bytes.slice_add report offset Curve.scalarSize (fieldSize - Curve.scalarSize)
  have reaches : offset + Curve.scalarSize ≤ report.length := by
    have : Curve.scalarSize ≤ fieldSize := by decide
    omega
  have digitsSized : (Bytes.slice report offset Curve.scalarSize).length =
      scalar.val.reverse.length := by
    rw [Bytes.length_slice_of_le reaches, List.length_reverse, scalar.property]
  have paddingSized : (Bytes.slice report (offset + Curve.scalarSize)
      (fieldSize - Curve.scalarSize)).length = fieldSize - Curve.scalarSize :=
    Bytes.length_slice_of_le inside
  rw [parts, scalarField]
  simp only [readScalar]
  generalize Bytes.slice report (offset + Curve.scalarSize) (fieldSize - Curve.scalarSize) =
    padding at paddingSized ⊢
  constructor
  · intro read
    split at read
    · next padded =>
      have zeros : ∀ byte ∈ padding, byte = 0 := by simpa using padded
      injection read with read
      rw [← read, Block.val_reverse, Block.val_ofWindow, List.reverse_reverse,
        List.eq_replicate_of_mem zeros, paddingSized]
    · contradiction
  · intro written
    obtain ⟨digits, rfl⟩ := List.append_inj written digitsSized
    rw [if_pos (by simp)]
    refine congrArg Except.ok (Subtype.ext ?_)
    rw [Block.val_reverse, Block.val_ofWindow, digits, List.reverse_reverse]

/-- The number that stands in the field of a scalar. -/
def scalarAt (report : Bytes) (offset : Nat) : Nat :=
  LittleEndian.decode (Bytes.slice report offset Curve.scalarSize)

/-- Behind the scalar in the field at an offset there are only zeros. -/
def PaddedAt (report : Bytes) (offset : Nat) : Prop :=
  ∀ byte ∈ Bytes.slice report (offset + Curve.scalarSize) (fieldSize - Curve.scalarSize), byte = 0

theorem decode_scalarAt (report : Bytes) (offset : Nat) :
    BigEndian.decode (BigEndian.block Curve.scalarSize (scalarAt report offset)).val =
      scalarAt report offset := by
  have digits : (Bytes.slice report offset Curve.scalarSize).length ≤ Curve.scalarSize := by
    rw [Bytes.length_slice]
    exact Nat.min_le_left _ _
  exact BigEndian.decode_encode_of_lt (Nat.lt_of_lt_of_le (LittleEndian.decode_lt _)
    (Nat.pow_le_pow_right (by decide) digits))

/-- The number in a padded field is read. -/
theorem readScalar_of_padded {report : Bytes} {offset : Nat}
    (inside : offset + fieldSize ≤ report.length) (padded : PaddedAt report offset) :
    readScalar report offset inside = .ok (BigEndian.block _ (scalarAt report offset)) := by
  have reaches : offset + Curve.scalarSize ≤ report.length :=
    Nat.le_trans (Nat.add_le_add_left (by decide) offset) inside
  have digits := LittleEndian.encode_decode (Bytes.slice report offset Curve.scalarSize)
  rw [Bytes.length_slice_of_le reaches] at digits
  have allZero : (Bytes.slice report (offset + Curve.scalarSize)
      (fieldSize - Curve.scalarSize)).all (· == 0) = true := by
    simpa [PaddedAt] using padded
  rw [readScalar, if_pos allZero]
  exact congrArg Except.ok (Subtype.ext (congrArg List.reverse digits.symm))

theorem readScalar_of_unpadded {report : Bytes} {offset : Nat}
    (inside : offset + fieldSize ≤ report.length) (unpadded : ¬PaddedAt report offset) :
    readScalar report offset inside = .error .scalarTooLong := by
  refine if_neg fun allZero => unpadded ?_
  simpa [PaddedAt] using allZero

variable {report : Bytes}

theorem signature_of_long (long : size ≤ report.length)
    (first : firstScalarOffset + fieldSize ≤ report.length)
    (last : secondScalarOffset + fieldSize ≤ report.length) :
    signature report = (do
      let r ← readScalar report firstScalarOffset first
      let s ← readScalar report secondScalarOffset last
      return ⟨r, s⟩) :=
  dif_pos long

/-- A signature is read from the fields that it is written as, in a string that is long enough. -/
theorem signature_eq_ok_iff {written : Signature} :
    signature report = .ok written ↔ size ≤ report.length ∧
      Bytes.slice report firstScalarOffset (fieldSize + fieldSize) = signatureFields written := by
  by_cases long : size ≤ report.length
  · have first : firstScalarOffset + fieldSize ≤ report.length := Nat.le_trans (by decide) long
    have last : secondScalarOffset + fieldSize ≤ report.length := Nat.le_trans (by decide) long
    have sized : (Bytes.slice report firstScalarOffset fieldSize).length =
        (scalarField written.r).length := by
      rw [Bytes.length_slice_of_le first, length_scalarField]
    rw [signature_of_long long first last, Bytes.slice_add, signatureFields]
    constructor
    · intro read
      cases readFirst : readScalar report firstScalarOffset first with
      | error fault =>
        rw [readFirst] at read
        contradiction
      | ok r =>
        cases readSecond : readScalar report secondScalarOffset last with
        | error fault =>
          rw [readFirst, readSecond] at read
          contradiction
        | ok s =>
          rw [readFirst, readSecond] at read
          injection read with read
          subst read
          refine ⟨long, ?_⟩
          rw [(readScalar_eq_ok_iff first).mp readFirst]
          exact congrArg _ ((readScalar_eq_ok_iff last).mp readSecond)
    · rintro ⟨_, fields⟩
      obtain ⟨fieldR, fieldS⟩ := List.append_inj fields sized
      rw [(readScalar_eq_ok_iff first).mpr fieldR, (readScalar_eq_ok_iff last).mpr fieldS]
      rfl
  · rw [signature, dif_neg long]
    exact ⟨fun read => by contradiction, fun fields => absurd fields.1 long⟩

/-- Both scalars have only zeros behind them. -/
structure Padded (report : Bytes) : Prop where
  first : PaddedAt report firstScalarOffset
  second : PaddedAt report secondScalarOffset

/-- The pair of numbers that stand in the two fields. -/
def carried (report : Bytes) : Signature where
  r := BigEndian.block _ (scalarAt report firstScalarOffset)
  s := BigEndian.block _ (scalarAt report secondScalarOffset)

theorem signature_of_padded (long : size ≤ report.length) (padded : Padded report) :
    signature report = .ok (carried report) := by
  have first : firstScalarOffset + fieldSize ≤ report.length := Nat.le_trans (by decide) long
  have last : secondScalarOffset + fieldSize ≤ report.length := Nat.le_trans (by decide) long
  rw [signature_of_long long first last, readScalar_of_padded first padded.first,
    readScalar_of_padded last padded.second]
  rfl

theorem signature_of_unpadded (long : size ≤ report.length) (unpadded : ¬Padded report) :
    signature report = .error .scalarTooLong := by
  have first : firstScalarOffset + fieldSize ≤ report.length := Nat.le_trans (by decide) long
  have last : secondScalarOffset + fieldSize ≤ report.length := Nat.le_trans (by decide) long
  rw [signature_of_long long first last]
  by_cases padded : PaddedAt report firstScalarOffset
  · have unpaddedToo : ¬PaddedAt report secondScalarOffset := fun second =>
      unpadded ⟨padded, second⟩
    rw [readScalar_of_padded first padded, readScalar_of_unpadded last unpaddedToo]
    rfl
  · rw [readScalar_of_unpadded first padded]
    rfl

/-- What follows the fields does not count. -/
theorem signature_congr {other : Bytes} (long : size ≤ report.length)
    (longToo : size ≤ other.length)
    (same : report.take (secondScalarOffset + fieldSize) =
      other.take (secondScalarOffset + fieldSize)) :
    signature report = signature other := by
  have padding (offset : Nat) (inside : offset + fieldSize ≤ secondScalarOffset + fieldSize) :
      PaddedAt report offset ↔ PaddedAt other offset := by
    have padding : offset + Curve.scalarSize + (fieldSize - Curve.scalarSize) =
      offset + fieldSize := rfl
    rw [PaddedAt, PaddedAt, Bytes.slice_congr same (padding ▸ inside)]
  have scalar (offset : Nat) (inside : offset + fieldSize ≤ secondScalarOffset + fieldSize) :
      scalarAt report offset = scalarAt other offset := by
    have digits : offset + Curve.scalarSize ≤ offset + fieldSize :=
      Nat.add_le_add_left (by decide) offset
    rw [scalarAt, scalarAt, Bytes.slice_congr same (Nat.le_trans digits inside)]
  have paddedIff : Padded report ↔ Padded other := by
    have first := padding firstScalarOffset (by decide)
    have second := padding secondScalarOffset (Nat.le_refl _)
    exact ⟨fun padded => ⟨first.mp padded.first, second.mp padded.second⟩,
      fun padded => ⟨first.mpr padded.first, second.mpr padded.second⟩⟩
  by_cases padded : Padded report
  · rw [signature_of_padded long padded, signature_of_padded longToo (paddedIff.mp padded), carried,
      carried, scalar firstScalarOffset (by decide), scalar secondScalarOffset (Nat.le_refl _)]
  · rw [signature_of_unpadded long padded,
      signature_of_unpadded longToo (mt paddedIff.mpr padded)]

/-- Nothing of what a field held is left in it. -/
theorem fillField_of_length {field : Bytes} (sized : field.length = fieldSize)
    (scalar : Block Curve.scalarSize) : fillField scalar field = scalarField scalar := by
  have digits : scalar.val.reverse.length = Curve.scalarSize := by
    rw [List.length_reverse, scalar.property]
  have fits : scalar.val.reverse.length ≤ fieldSize := by
    rw [digits]
    decide
  rw [fillField, sized, List.take_of_length_le fits, List.drop_replicate, digits, scalarField]

theorem writeScalar_eq_overwrite {offset : Nat}
    (inside : offset + fieldSize ≤ report.length) (scalar : Block Curve.scalarSize) :
    writeScalar scalar offset report = Bytes.overwrite report offset (scalarField scalar) := by
  rw [writeScalar, fillField_of_length (Bytes.length_slice_of_le inside)]

/-- The two fields of a string that is long enough are written as one window. -/
theorem writeSignature_of_long (long : size ≤ report.length) (written : Signature) :
    writeSignature written report =
      ⟨.ok (), Bytes.overwrite report firstScalarOffset (signatureFields written)⟩ := by
  have reaches : firstScalarOffset ≤ report.length := Nat.le_trans (by decide) long
  have first : firstScalarOffset + fieldSize ≤ report.length := Nat.le_trans (by decide) long
  have last : secondScalarOffset + fieldSize ≤ report.length := Nat.le_trans (by decide) long
  have kept := length_writeScalar first written.r
  have adjacent : secondScalarOffset = firstScalarOffset + (scalarField written.r).length := by
    rw [length_scalarField, secondScalarOffset]
  rw [writeSignature, if_pos long, writeScalar_eq_overwrite (kept ▸ last),
    writeScalar_eq_overwrite first, adjacent, Bytes.overwrite_append _ _ reaches, signatureFields]

theorem writeSignature_of_short (short : report.length < size) (written : Signature) :
    writeSignature written report = ⟨.error (.tooShort report.length), report⟩ :=
  if_neg (Nat.not_le_of_lt short)

/-- A signature written into a long enough string reads back. -/
theorem signature_overwrite (long : size ≤ report.length) (written : Signature) :
    signature (Bytes.overwrite report firstScalarOffset (signatureFields written)) =
      .ok written := by
  have sized : (signatureFields written).length = fieldSize + fieldSize := by
    rw [length_signatureFields, Nat.two_mul]
  have reaches : firstScalarOffset ≤ report.length := Nat.le_trans (by decide) long
  have fits : firstScalarOffset + (signatureFields written).length ≤ report.length := by
    rw [sized]
    exact Nat.le_trans (by decide) long
  refine signature_eq_ok_iff.mpr ⟨?_, ?_⟩
  · rw [Bytes.length_overwrite_of_le fits]
    exact long
  · have window := Bytes.slice_overwrite_of_inside
      (Nat.le_of_eq ((Nat.zero_add _).trans sized.symm)) reaches
    rw [Nat.add_zero] at window
    rw [window, Bytes.slice, List.drop_zero, List.take_of_length_le (Nat.le_of_eq sized)]

variable (written : Signature) (body : Body)

/-- A signature is put into a whole report as one window. -/
theorem val_embed :
    (embed written body).val =
      Bytes.overwrite body.val firstScalarOffset (signatureFields written) :=
  congrArg Written.after (writeSignature_of_long (Nat.le_of_eq body.property.symm) written)

/-- A signature put into a report reads back. -/
theorem signature_embed : signature (embed written body).val = .ok written := by
  rw [val_embed]
  exact signature_overwrite (Nat.le_of_eq body.property.symm) written

/-- A signature put into a report leaves the bytes before its fields. -/
theorem take_embed {count : Nat} (before : count ≤ firstScalarOffset) :
    (embed written body).val.take count = body.val.take count := by
  have reaches : firstScalarOffset ≤ body.val.length := by
    rw [body.property]
    decide
  rw [val_embed]
  exact Bytes.take_overwrite _ before reaches

/-- A signature put into a report leaves the bytes behind its fields. -/
theorem drop_embed {count : Nat} (behind : secondScalarOffset + fieldSize ≤ count) :
    (embed written body).val.drop count = body.val.drop count := by
  have reaches : firstScalarOffset ≤ body.val.length := by
    rw [body.property]
    decide
  rw [val_embed]
  refine Bytes.drop_overwrite ?_ reaches
  rw [length_signatureFields]
  exact behind

/-- A signature put into a report leaves the bytes that it covers. -/
theorem signedComponent_embed :
    signedComponent (embed written body).val = .ok (signedBytes body) := by
  have long : size ≤ (embed written body).val.length :=
    Nat.le_of_eq (embed written body).property.symm
  rw [signedComponent, if_pos long, take_embed written body (by decide)]
  rfl

/-- A string that is long enough holds the data in its window for them. -/
theorem data_eq_ok_iff {report : Bytes} {carried : Data} :
    data report = .ok carried ↔
      size ≤ report.length ∧ Bytes.slice report dataOffset dataSize = carried.val := by
  unfold data
  by_cases long : size ≤ report.length
  · rw [dif_pos long]
    constructor
    · rintro ⟨⟩
      exact ⟨long, rfl⟩
    · rintro ⟨_, window⟩
      exact congrArg Except.ok (Subtype.ext window)
  · rw [dif_neg long]
    exact ⟨fun read => by contradiction, fun fields => absurd fields.1 long⟩

/-- A template carries its data, also when a signature is put into it. -/
theorem data_embed_template (carried : Data) :
    data (embed written (template carried)).val = .ok carried := by
  have headed (body : Body) : dataOffset ≤ body.val.length := by
    rw [body.property]
    decide
  have covered : firstScalarOffset ≤ (template carried).val.length := by
    rw [(template carried).property]
    decide
  refine data_eq_ok_iff.mpr ⟨Nat.le_of_eq (embed written (template carried)).property.symm, ?_⟩
  rw [val_embed]
  have kept := Bytes.slice_overwrite_of_before (signatureFields written)
    (show dataOffset + dataSize ≤ firstScalarOffset by decide) covered
  refine kept.trans ?_
  have window := Bytes.slice_overwrite_of_inside
    (Nat.le_of_eq ((Nat.zero_add dataSize).trans carried.property.symm))
    (headed (withWord algorithmOffset 1 (by decide) (withWord 0 2 (by decide) (Block.zeros size))))
  refine window.trans ?_
  rw [Bytes.slice, List.drop_zero, List.take_of_length_le (Nat.le_of_eq carried.property)]

end Report

/-- A report with an accepted signature of its signed bytes is verified. -/
theorem verifyReport_embed {verifier : Verifier} {signature : Signature} {body : Report.Body}
    (admitted : verifier.admits signature = true)
    (accepted : verifier.accepts (Report.signedBytes body) signature = true) :
    verifyReport (Report.embed signature body).val verifier = .ok () := by
  rw [verifyReport, Report.signature_embed, Report.signedComponent_embed]
  show (do
    if !verifier.admits signature then throw (GuestError.signing .malformedSignature)
    if !verifier.accepts (Report.signedBytes body) signature then
      throw (GuestError.signing .doesNotVerify)) = Except.ok ()
  rw [admitted, accepted]
  rfl

end SnpTestbed
