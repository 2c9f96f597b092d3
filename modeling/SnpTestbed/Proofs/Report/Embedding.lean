import SnpTestbed.Proofs.Report.Signature

/-!
# Signatures in and out of a report

Writing and reading a signature are inverse to each other: what was written is read, and
what is read stands there as it would be written. Beyond its fields, writing changes
nothing, and a string that is too short is refused by both.
-/
namespace SnpTestbed.Report

variable {report : Bytes}

/-- Where a signature was read, writing it changes nothing. -/
theorem overwrite_of_signature {read : Signature} (found : signature report = .ok read) :
    Bytes.overwrite report firstScalarOffset (signatureFields read) = report := by
  obtain ⟨long, fields⟩ := signature_eq_ok_iff.mp found
  rw [← fields]
  exact Bytes.overwrite_slice (Nat.le_trans (by decide) long)

/-- No signature is read from a string that is long enough only for bytes behind a scalar. -/
theorem signature_eq_error_iff (long : size ≤ report.length) {fault : Fault} :
    signature report = .error fault ↔ fault = .scalarTooLong ∧ ¬Padded report := by
  by_cases padded : Padded report
  · rw [signature_of_padded long padded]
    exact iff_of_false nofun fun unpadded => unpadded.2 padded
  · rw [signature_of_unpadded long padded, Except.error.injEq, and_iff_left padded, eq_comm]

theorem not_padded_iff :
    ¬Padded report ↔
      ∃ byte ∈ Bytes.slice report 0x2D0 0x18 ++ Bytes.slice report 0x318 0x18, byte ≠ 0 := by
  have zeros : Padded report ↔
      ∀ byte ∈ Bytes.slice report 0x2D0 0x18 ++ Bytes.slice report 0x318 0x18, byte = 0 := by
    rw [List.forall_mem_append]
    exact ⟨fun padded => ⟨padded.first, padded.second⟩, fun padded => ⟨padded.1, padded.2⟩⟩
  rw [zeros]
  simp only [Classical.not_forall, exists_prop, ne_eq]

/-- In a string that is long enough, a signature is written over its own bytes only, outside of
what it covers, and is what is read then. A signature that was read is written back without a
change, and reading fails only for bytes behind a scalar. A string that is too short is refused by
both and stays as it is. -/
theorem signature_lossless (written : Signature) (report : Bytes) :
    let write := writeSignature written report
    (0x4A0 ≤ report.length →
      write.result = .ok () ∧
      write.after.length = report.length ∧
      write.after.take 0x2A0 = report.take 0x2A0 ∧
      write.after.drop 0x330 = report.drop 0x330 ∧
      signedComponent write.after = signedComponent report ∧
      signature write.after = .ok written ∧
      ∀ fault, signature report = .error fault ↔ fault = .scalarTooLong ∧
        ∃ byte ∈ Bytes.slice report 0x2D0 0x18 ++ Bytes.slice report 0x318 0x18, byte ≠ 0) ∧
    (signature report = .ok written → write = ⟨.ok (), report⟩) ∧
    (report.length < 0x4A0 →
      write = ⟨.error (.tooShort report.length), report⟩ ∧
      signature report = .error (.tooShort report.length)) := by
  refine ⟨fun long => ?written, fun found => ?unchanged, fun short => ?refused⟩
  case written =>
    have reaches : firstScalarOffset ≤ report.length := Nat.le_trans (by decide) long
    have inside : firstScalarOffset + (signatureFields written).length ≤ report.length := by
      rw [length_signatureFields]
      exact Nat.le_trans (by decide) long
    have sized := Bytes.length_overwrite_of_le inside
    have before := Bytes.take_overwrite (signatureFields written)
      (Nat.le_refl firstScalarOffset) reaches
    have behind : (Bytes.overwrite report firstScalarOffset (signatureFields written)).drop 0x330 =
        report.drop 0x330 := by
      refine Bytes.drop_overwrite ?_ reaches
      rw [length_signatureFields]
      decide
    have covered : signedComponent (Bytes.overwrite report firstScalarOffset
        (signatureFields written)) = signedComponent report := by
      unfold signedComponent
      rw [sized, show signedSize = firstScalarOffset from rfl, before]
    rw [writeSignature_of_long long]
    refine ⟨rfl, sized, before, behind, covered, signature_overwrite long written, fun fault => ?_⟩
    rw [signature_eq_error_iff long, not_padded_iff]
  case unchanged =>
    have long := (signature_eq_ok_iff.mp found).1
    rw [writeSignature_of_long long, overwrite_of_signature found]
  case refused =>
    exact ⟨writeSignature_of_short short written, dif_neg (Nat.not_le_of_lt short)⟩

/-- A signature whose scalars tell their ends apart. -/
def unevenSignature : Signature where
  r := ⟨0x01 :: List.replicate 46 0 ++ [0xab], by decide⟩
  s := ⟨0x22 :: List.replicate 47 0x33, by decide⟩

theorem signature_lossless_overlong :
    let garbage : Bytes := List.replicate 0x500 0xff
    let cut := garbage.take 0x49F
    let write := writeSignature unevenSignature garbage
    0x4A0 ≤ garbage.length ∧ cut.length < 0x4A0 ∧
      signature garbage = .error .scalarTooLong ∧
      write.after.drop 0x330 = garbage.drop 0x330 ∧
      signature write.after = .ok unevenSignature ∧
      writeSignature unevenSignature write.after = ⟨.ok (), write.after⟩ ∧
      writeSignature unevenSignature cut = ⟨.error (.tooShort cut.length), cut⟩ := by
  intro garbage cut write
  have long : 0x4A0 ≤ garbage.length := by decide +kernel
  have short : cut.length < 0x4A0 := by decide +kernel
  have dirty : ∃ byte ∈ Bytes.slice garbage 0x2D0 0x18 ++ Bytes.slice garbage 0x318 0x18,
      byte ≠ 0 := ⟨0xff, by decide +kernel, by decide⟩
  obtain ⟨fits, _, _⟩ := signature_lossless unevenSignature garbage
  obtain ⟨_, _, _, behind, _, read, fails⟩ := fits long
  obtain ⟨_, unchanged, _⟩ := signature_lossless unevenSignature write.after
  obtain ⟨_, _, refused⟩ := signature_lossless unevenSignature cut
  exact ⟨long, short, (fails .scalarTooLong).mpr ⟨rfl, dirty⟩, behind, read, unchanged read,
    (refused short).1⟩

end SnpTestbed.Report
