import SnpTestbed.Proofs.Certificate.Order
import SnpTestbed.Proofs.Client.Errors
import SnpTestbed.Proofs.Device.CallerBuffer

/-!
# Certificates in canonical order

A client hands out certificates in ascending order, and there is only one such order of
them. So hosts that differ in nothing but how their tables arrange the same certificates
cannot be told apart by a client: `certificateOrder_canonical` joins the laws of the
order with what follows from them for clients.
-/
namespace SnpTestbed

open Certificate (Ascending sort)

namespace Client

variable {client : Client ProgrammedDevice} {data : Option Report.Data} {vmpl : Option UInt32}
  {first second : Bytes} {firstRead secondRead : List Certificate}

/-- The client of a device with this table in place of its own. -/
def restocked (client : Client ProgrammedDevice) (table : Bytes) : Client ProgrammedDevice :=
  client.holding (client.device.withCertificates table)

@[simp] theorem certificates_restocked (client : Client ProgrammedDevice) (table : Bytes) :
    (client.restocked table).device.certificates = table := rfl

/-- A plain report is the same whatever table the device holds. -/
theorem getReport_restocked (table : Bytes) :
    ((client.restocked table).getReport data vmpl).result =
      (client.getReport data vmpl).result := by
  cases made : ReportRequest.make data vmpl with
  | error fault => simp only [getReport, made]
  | ok base =>
    cases isOpen : client.device.isOpen with
    | false =>
      have isClosed : (client.restocked table).device.isOpen = false := isOpen
      rw [getReport_of_isClosed isClosed made, getReport_of_isClosed isOpen made]
    | true =>
      have isOpenToo : (client.restocked table).device.isOpen = true := isOpen
      rw [getReport_of_isOpen isOpenToo made, getReport_of_isOpen isOpen made]
      rfl

/-- A table that reads adds its certificates to the plain report, in ascending order. -/
theorem getExtendedReport_restocked (stocked : first ≠ []) (small : first.length < UInt32.size)
    (read : CertificateTable.parse first = .ok firstRead) :
    ((client.restocked first).getExtendedReport data vmpl).result =
      (client.getReport data vmpl).result.map (·, some (sort firstRead)) := by
  rw [getExtendedReport_eq_directReport _ _ small, directReport, getReport_restocked,
    certificates_restocked, read]
  cases (client.getReport data vmpl).result with
  | error error => rfl
  | ok report =>
    simp only [if_neg stocked]
    rfl

/-- Tables with the same certificates come out the same. -/
theorem getExtendedReport_of_perm (stocked : first ≠ []) (stockedToo : second ≠ [])
    (small : first.length < UInt32.size) (smallToo : second.length < UInt32.size)
    (read : CertificateTable.parse first = .ok firstRead)
    (readToo : CertificateTable.parse second = .ok secondRead) (same : firstRead.Perm secondRead) :
    ((client.restocked first).getExtendedReport data vmpl).result =
      ((client.restocked second).getExtendedReport data vmpl).result := by
  rw [getExtendedReport_restocked stocked small read,
    getExtendedReport_restocked stockedToo smallToo readToo, Certificate.sort_eq_of_perm same]

/-- The order of certificates is total, goes by the rank of their kinds, then by given GUIDs and
then by data, and tells all certificates apart. So sorting has only one outcome, and clients of
devices whose tables hold the same certificates get the same answers. -/
theorem certificateOrder_canonical :
    (∀ left right : Certificate, compare left right =
      ((compare left.kind.rank right.kind.rank).then
        (compare left.kind.given right.kind.given)).then (compare left.data right.data)) ∧
    (∀ left right : Certificate, compare left right = .eq ↔ left = right) ∧
    (∀ left right : Certificate, (compare left right).isLE = true →
      (compare right left).isLE = true → left = right) ∧
    (∀ earlier middle later : Certificate, (compare earlier middle).isLE = true →
      (compare middle later).isLE = true → (compare earlier later).isLE = true) ∧
    (∀ left right : Certificate,
      (compare left right).isLE = true ∨ (compare right left).isLE = true) ∧
    (∀ certificates ordered : List Certificate,
      ordered = sort certificates ↔ ordered.Perm certificates ∧ Ascending ordered) ∧
    ∀ (client : Client ProgrammedDevice) (first second : Bytes)
      (firstRead secondRead : List Certificate), first ≠ [] → second ≠ [] →
      first.length < UInt32.size → second.length < UInt32.size →
      CertificateTable.parse first = .ok firstRead →
      CertificateTable.parse second = .ok secondRead → firstRead.Perm secondRead →
      (∀ data vmpl, ((client.restocked first).getExtendedReport data vmpl).result =
        ((client.restocked second).getExtendedReport data vmpl).result) ∧
      ∀ data, ((client.restocked first).getCertificates data).result =
        ((client.restocked second).getCertificates data).result := by
  refine ⟨fun left right => ?_, fun left right => Std.LawfulEqOrd.compare_eq_iff_eq,
    fun left right => Certificate.isLE_antisymm,
    fun earlier middle later => Std.TransCmp.isLE_trans, Certificate.isLE_total,
    fun certificates ordered => Certificate.eq_sort_iff, ?_⟩
  · rw [Certificate.compare_eq, CertificateKind.compare_eq]
  · intro client first second firstRead secondRead stocked stockedToo small smallToo read readToo
      same
    refine ⟨fun data vmpl =>
      getExtendedReport_of_perm stocked stockedToo small smallToo read readToo same, fun data => ?_⟩
    unfold getCertificates
    dsimp only
    rw [getExtendedReport_of_perm stocked stockedToo small smallToo read readToo same]

theorem certificateOrder_canonical_swapped :
    let client : Client ProgrammedDevice := ⟨ProgrammedDevice.stampingDevice, none⟩
    let first := pairTable .ark .crl [1, 2]
    let second := pairTable .crl .ark [2, 1]
    CertificateTable.parse first = .ok [⟨.ark, [1]⟩, ⟨.crl, [2]⟩] ∧
      CertificateTable.parse second = .ok [⟨.crl, [2]⟩, ⟨.ark, [1]⟩] ∧
      [⟨.ark, [1]⟩, ⟨.crl, [2]⟩] = sort [⟨.crl, [2]⟩, ⟨.ark, [1]⟩] ∧
      ((client.restocked first).getCertificates (Block.zeros _)).result =
        ((client.restocked second).getCertificates (Block.zeros _)).result := by
  intro client first second
  have read : CertificateTable.parse first = .ok [⟨.ark, [1]⟩, ⟨.crl, [2]⟩] := by cbv
  have readToo : CertificateTable.parse second = .ok [⟨.crl, [2]⟩, ⟨.ark, [1]⟩] := by cbv
  have swapped : List.Perm (α := Certificate) [⟨.ark, [1]⟩, ⟨.crl, [2]⟩]
      [⟨.crl, [2]⟩, ⟨.ark, [1]⟩] := .swap ..
  obtain ⟨_, _, _, _, _, sorted, clients⟩ := certificateOrder_canonical
  have ascending : Ascending [⟨.ark, [1]⟩, ⟨.crl, [2]⟩] := by decide
  obtain ⟨_, same⟩ := clients client first second _ _ (by decide) (by decide) (by decide)
    (by decide) read readToo swapped
  exact ⟨read, readToo, (sorted _ _).mpr ⟨swapped, ascending⟩, same _⟩

end Client

end SnpTestbed
