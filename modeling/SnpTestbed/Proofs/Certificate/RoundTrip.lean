import Mathlib.Data.List.TakeWhile
import SnpTestbed.Proofs.Certificate.Rows

/-!
# What a built certificate table reads back as

`placed` gives the rows that building writes, with the running offset of the data
behind them. `layOut_eq_ok_iff` tells exactly what is written, and `parse_of_build`
reads it back. The only entries that building accepts and reading loses are those
given by the nil GUID: their row ends the table for its reader.
-/
namespace SnpTestbed

/-- What a table keeps of an entry. -/
def Certificate.content (certificate : Certificate) : Guid × Bytes :=
  (certificate.kind.guid, certificate.data)

/-- A kind whose GUID is nil is the empty one, or given by that GUID. -/
theorem CertificateKind.isNil_guid_iff {kind : CertificateKind} :
    kind.guid.isNil = true ↔ kind = .empty ∨ kind = .other Guid.nil := by
  cases kind with
  | other own => simp [CertificateKind.guid, Guid.isNil_iff]
  | empty => simp [CertificateKind.guid, Guid.isNil_iff]
  | _ => exact ⟨fun isNil => absurd isNil (by decide), by simp⟩

namespace CertificateTable

/-- The data of entries, one behind the other. -/
def stored (certificates : List Certificate) : Bytes := certificates.flatMap (·.data)

/-- The rows of entries whose data stand one behind the other from `offset` on. -/
def placed (offset : Nat) : List Certificate → List Row
  | [] => []
  | certificate :: rest =>
    ⟨certificate.kind.guid, offset, certificate.data.length⟩ ::
      placed (offset + certificate.data.length) rest

/-- The entries before the first one with the nil GUID. -/
def visible (certificates : List Certificate) : List Certificate :=
  certificates.takeWhile fun certificate => !certificate.kind.guid.isNil

/-- The table reads as these entries: as many, in this order, each with its GUID and its data. -/
def ReadsAs (table : Bytes) (certificates : List Certificate) : Prop :=
  ∃ parsed, parse table = .ok parsed ∧
    parsed.map Certificate.content = certificates.map Certificate.content

@[simp] theorem length_placed (offset : Nat) (certificates : List Certificate) :
    (placed offset certificates).length = certificates.length := by
  induction certificates generalizing offset with
  | nil => rfl
  | cons certificate rest hypothesis => simp [placed, hypothesis]

/-- Laying out entries succeeds exactly when the first of them passes its checks and the others
are laid out behind it. -/
theorem layOut_cons_eq_ok_iff {offset : Nat} {certificate : Certificate}
    {rest : List Certificate} {header data : Bytes} :
    layOut offset (certificate :: rest) = .ok (header, data) ↔
      certificate.kind ≠ .empty ∧
      Row.Fits ⟨certificate.kind.guid, offset, certificate.data.length⟩ ∧
      ∃ laterHeader laterData,
        layOut (offset + certificate.data.length) rest = .ok (laterHeader, laterData) ∧
        header = rowBytes certificate.kind.guid offset certificate.data.length ++ laterHeader ∧
        data = certificate.data ++ laterData := by
  rw [layOut]
  constructor
  · intro laid
    split at laid
    · contradiction
    next named =>
    split at laid
    · contradiction
    next offsetFits =>
    split at laid
    · contradiction
    next lengthFits =>
    cases later : layOut (offset + certificate.data.length) rest with
    | error fault =>
      rw [later] at laid
      contradiction
    | ok pair =>
      rw [later] at laid
      injection laid with laid
      injection laid with headerEq dataEq
      exact ⟨named, ⟨Nat.lt_of_not_le offsetFits, Nat.lt_of_not_le lengthFits⟩, pair.1, pair.2,
        rfl, headerEq.symm, dataEq.symm⟩
  · rintro ⟨named, fits, laterHeader, laterData, later, rfl, rfl⟩
    rw [if_neg named, if_neg (Nat.not_le_of_lt fits.offset),
      if_neg (Nat.not_le_of_lt fits.length), later]
    rfl

/-- Laying out succeeds exactly when no entry is empty and every row fits its words; it gives the
rows at their running offsets, a zero row behind them, and the data one behind the other. -/
theorem layOut_eq_ok_iff {offset : Nat} {certificates : List Certificate} {header data : Bytes} :
    layOut offset certificates = .ok (header, data) ↔
      (∀ certificate ∈ certificates, certificate.kind ≠ .empty) ∧
      (∀ row ∈ placed offset certificates, row.Fits) ∧
      header = bytesOfRows (placed offset certificates) ++ List.replicate rowSize 0 ∧
      data = stored certificates := by
  induction certificates generalizing offset header data with
  | nil =>
    simp only [layOut, placed, stored, bytesOfRows_nil, List.flatMap_nil, List.nil_append,
      Except.ok.injEq, Prod.mk.injEq, List.not_mem_nil, false_imp_iff, implies_true, true_and]
    exact ⟨fun same => ⟨same.1.symm, same.2.symm⟩, fun same => ⟨same.1.symm, same.2.symm⟩⟩
  | cons certificate rest hypothesis =>
    rw [layOut_cons_eq_ok_iff]
    constructor
    · rintro ⟨named, fits, laterHeader, laterData, later, rfl, rfl⟩
      obtain ⟨laterNamed, laterFit, rfl, rfl⟩ := hypothesis.mp later
      refine ⟨List.forall_mem_cons.mpr ⟨named, laterNamed⟩,
        List.forall_mem_cons.mpr ⟨fits, laterFit⟩, ?_, rfl⟩
      simp only [placed, bytesOfRows_cons, List.append_assoc]
      rfl
    · rintro ⟨named, fit, rfl, rfl⟩
      obtain ⟨firstNamed, laterNamed⟩ := List.forall_mem_cons.mp named
      obtain ⟨firstFits, laterFit⟩ := List.forall_mem_cons.mp fit
      refine ⟨firstNamed, firstFits, _, _, hypothesis.mpr ⟨laterNamed, laterFit, rfl, rfl⟩, ?_, rfl⟩
      simp only [placed, bytesOfRows_cons, List.append_assoc]
      rfl

/-- A table is built exactly when no entry is empty and every row fits its words, and then it is
the rows, a zero row, and the data. -/
theorem build_eq_ok_iff {certificates : List Certificate} {table : Bytes} :
    build certificates = .ok table ↔
      (∀ certificate ∈ certificates, certificate.kind ≠ .empty) ∧
      (∀ row ∈ placed ((certificates.length + 1) * rowSize) certificates, row.Fits) ∧
      table = bytesOfRows (placed ((certificates.length + 1) * rowSize) certificates) ++
        List.replicate rowSize 0 ++ stored certificates := by
  unfold build
  constructor
  · intro built
    cases laid : layOut ((certificates.length + 1) * rowSize) certificates with
    | error fault =>
      rw [laid] at built
      contradiction
    | ok pair =>
      obtain ⟨header, data⟩ := pair
      obtain ⟨named, fit, rfl, rfl⟩ := layOut_eq_ok_iff.mp laid
      rw [laid] at built
      injection built with built
      exact ⟨named, fit, built.symm⟩
  · rintro ⟨named, fit, rfl⟩
    rw [layOut_eq_ok_iff.mpr ⟨named, fit, rfl, rfl⟩]
    rfl

/-- The data of placed entries lie one behind the other from their common start on. -/
theorem placed_bounds {offset : Nat} {certificates : List Certificate} {row : Row}
    (member : row ∈ placed offset certificates) :
    offset ≤ row.offset ∧ row.offset + row.length ≤ offset + (stored certificates).length := by
  induction certificates generalizing offset with
  | nil => simp [placed] at member
  | cons certificate rest hypothesis =>
    simp only [stored, List.flatMap_cons, List.length_append]
    rcases List.mem_cons.mp member with rfl | later
    · simp only [Nat.le_refl, true_and]
      omega
    · have bounds := hypothesis later
      simp only [stored] at bounds
      omega

/-- Placed rows locate the data of their entries wherever these stand in a string. -/
theorem locate_placed (front back : Bytes) (certificates : List Certificate) :
    (placed front.length certificates).map
        (Row.locate (front ++ (stored certificates ++ back))) =
      certificates.map fun certificate =>
        Certificate.ofGuid certificate.kind.guid certificate.data := by
  induction certificates generalizing front with
  | nil => rfl
  | cons certificate rest hypothesis =>
    have later := hypothesis (front ++ certificate.data)
    have window := Bytes.slice_append_append front certificate.data (stored rest ++ back)
    have whole : front ++ (stored (certificate :: rest) ++ back) =
        front ++ certificate.data ++ (stored rest ++ back) := by
      simp [stored]
    rw [whole]
    rw [List.length_append] at later
    rw [← List.append_assoc] at window
    simp only [placed, List.map_cons, later, Row.locate, window]

/-- Reading placed rows stops at the first entry with the nil GUID, or else at the row behind
them. -/
theorem placed_append_terminator (offset : Nat) (certificates : List Certificate)
    (beyond : List Row) :
    ∃ last after, last.guid.isNil = true ∧
      placed offset certificates ++ Row.terminator :: beyond =
        placed offset (visible certificates) ++ last :: after := by
  induction certificates generalizing offset with
  | nil => exact ⟨Row.terminator, beyond, rfl, rfl⟩
  | cons certificate rest hypothesis =>
    by_cases isNil : certificate.kind.guid.isNil = true
    · have stops : visible (certificate :: rest) = [] := by simp [visible, isNil]
      rw [stops]
      exact ⟨_, _, isNil, rfl⟩
    · obtain ⟨last, after, ends, split⟩ := hypothesis (offset + certificate.data.length)
      have continues : visible (certificate :: rest) = certificate :: visible rest := by
        simp [visible, isNil]
      refine ⟨last, after, ends, ?_⟩
      rw [continues]
      simp only [placed, List.cons_append, split]

/-- A placed row carries the GUID of one of the entries. -/
theorem exists_mem_of_mem_placed {offset : Nat} {certificates : List Certificate} {row : Row}
    (member : row ∈ placed offset certificates) :
    ∃ certificate ∈ certificates, certificate.kind.guid = row.guid := by
  induction certificates generalizing offset with
  | nil => simp [placed] at member
  | cons certificate rest hypothesis =>
    rcases List.mem_cons.mp member with rfl | later
    · exact ⟨certificate, List.mem_cons_self .., rfl⟩
    · obtain ⟨other, inside, same⟩ := hypothesis later
      exact ⟨other, List.mem_cons_of_mem _ inside, same⟩

theorem isNil_of_mem_visible {certificates : List Certificate} {certificate : Certificate}
    (member : certificate ∈ visible certificates) : certificate.kind.guid.isNil = false := by
  have kept := List.mem_takeWhile_imp member
  simpa using kept

/-- The visible entries come first, with their data. -/
theorem stored_eq_append (certificates : List Certificate) :
    ∃ back, stored certificates = stored (visible certificates) ++ back := by
  refine ⟨stored (certificates.dropWhile fun certificate => !certificate.kind.guid.isNil), ?_⟩
  rw [stored, stored, stored, visible, ← List.flatMap_append, List.takeWhile_append_dropWhile]

/-- The data of a built table start behind a row for each entry and one more. -/
theorem header_of_build {certificates : List Certificate} {table : Bytes}
    (built : build certificates = .ok table) :
    ∃ header : Bytes, header.length = (certificates.length + 1) * rowSize ∧
      table = header ++ stored certificates := by
  obtain ⟨_, _, rfl⟩ := build_eq_ok_iff.mp built
  refine ⟨_, ?_, rfl⟩
  simp only [List.length_append, length_bytesOfRows, length_placed, List.length_replicate,
    Nat.succ_mul]

/-- Bytes in the table of entries: a row for each of them and one more, and their data. -/
def builtLength (certificates : List Certificate) : Nat :=
  (certificates.length + 1) * rowSize + (stored certificates).length

theorem length_of_build {certificates : List Certificate} {table : Bytes}
    (built : build certificates = .ok table) : table.length = builtLength certificates := by
  obtain ⟨header, sized, rfl⟩ := header_of_build built
  rw [List.length_append, sized, builtLength]

/-- Offsets and lengths of a table below 4 GiB fit their words, so that nothing but an empty entry
keeps it from being built. -/
theorem build_of_small {certificates : List Certificate}
    (named : ∀ certificate ∈ certificates, certificate.kind ≠ .empty)
    (small : builtLength certificates < UInt32.size) :
    ∃ table, build certificates = .ok table := by
  refine ⟨_, build_eq_ok_iff.mpr ⟨named, fun row member => ?_, rfl⟩⟩
  have bounds := placed_bounds member
  unfold builtLength at small
  constructor <;> omega

theorem ne_nil_of_build {certificates : List Certificate} {table : Bytes}
    (built : build certificates = .ok table) : table ≠ [] := by
  obtain ⟨header, sized, rfl⟩ := header_of_build built
  have long : 0 < header.length := by
    rw [sized]
    exact Nat.mul_pos (Nat.succ_pos _) (by decide)
  exact List.append_ne_nil_of_left_ne_nil (List.ne_nil_of_length_pos long) _

/-- A built table has the rows of its entries and a zero row at its start. -/
theorem rows_of_build {certificates : List Certificate} {table : Bytes}
    (built : build certificates = .ok table) :
    ∃ beyond, rows (table.length / rowSize) table =
      placed ((certificates.length + 1) * rowSize) certificates ++ Row.terminator :: beyond := by
  obtain ⟨_, fit, rfl⟩ := build_eq_ok_iff.mp built
  generalize (certificates.length + 1) * rowSize = offset at fit ⊢
  have count : (bytesOfRows (placed offset certificates) ++ List.replicate rowSize 0 ++
      stored certificates).length / rowSize =
        (placed offset certificates).length + ((stored certificates).length / rowSize + 1) := by
    simp only [List.length_append, length_bytesOfRows, List.length_replicate, rowSize]
    omega
  refine ⟨rows ((stored certificates).length / rowSize) (stored certificates), ?_⟩
  rw [count, List.append_assoc, rows_append_bytesOfRows fit]
  have zeroRow := rows_append_block (Block.zeros rowSize)
    ((stored certificates).length / rowSize) (stored certificates)
  rw [Row.ofBlock_zeros] at zeroRow
  rw [← zeroRow, Block.val_zeros]

/-- A built table reads as the entries before the first one with the nil GUID, each as the
certificate of its GUID. -/
theorem parse_of_build {certificates : List Certificate} {table : Bytes}
    (built : build certificates = .ok table) :
    parse table = .ok ((visible certificates).map fun certificate =>
      Certificate.ofGuid certificate.kind.guid certificate.data) := by
  obtain ⟨beyond, read⟩ := rows_of_build built
  obtain ⟨header, sized, layout⟩ := header_of_build built
  obtain ⟨back, storedSplit⟩ := stored_eq_append certificates
  rw [storedSplit] at layout
  rw [← sized] at read
  obtain ⟨last, after, ends, split⟩ := placed_append_terminator header.length certificates beyond
  have sound : ∀ row ∈ placed header.length (visible certificates), row.Sound table := by
    intro row member
    obtain ⟨certificate, visible, same⟩ := exists_mem_of_mem_placed member
    have named := isNil_of_mem_visible visible
    rw [same] at named
    refine ⟨Guid.isNil_eq_false_iff.mp named, ?_⟩
    have bounds := placed_bounds member
    simp only [Row.Inside, layout, List.length_append]
    omega
  have located := locate_placed header back (visible certificates)
  rw [← layout] at located
  rw [parse, if_neg (ne_nil_of_build built), read, split, entries_of_terminated sound ends, located]

theorem map_content_ofGuid (certificates : List Certificate) :
    (certificates.map fun certificate =>
        Certificate.ofGuid certificate.kind.guid certificate.data).map Certificate.content =
      certificates.map Certificate.content := by
  simp [Certificate.content]

theorem visible_eq_self_iff {certificates : List Certificate} :
    visible certificates = certificates ↔
      ∀ certificate ∈ certificates, certificate.kind.guid.isNil = false := by
  simp [visible, List.takeWhile_eq_self_iff]

/-- A built table reads as the entries before the first one with the nil GUID, so it reads as the
entries that it was built of exactly when none of them is given by that GUID. -/
theorem build_readsAs_iff {certificates : List Certificate} {table : Bytes}
    (built : build certificates = .ok table) :
    ReadsAs table (visible certificates) ∧
      (ReadsAs table certificates ↔
        ∀ certificate ∈ certificates, certificate.kind ≠ .other Guid.nil) := by
  have parsed := parse_of_build built
  refine ⟨⟨_, parsed, map_content_ofGuid _⟩, ?_, ?_⟩
  · rintro ⟨entries, read, same⟩
    rw [parsed] at read
    injection read with read
    rw [← read, map_content_ofGuid] at same
    have sameLength := congrArg List.length same
    simp only [List.length_map] at sameLength
    have whole : visible certificates = certificates :=
      (List.takeWhile_prefix _).eq_of_length sameLength
    intro certificate member given
    have named := visible_eq_self_iff.mp whole certificate member
    rw [given] at named
    exact absurd named (by decide)
  · intro named
    have whole : visible certificates = certificates := by
      refine visible_eq_self_iff.mpr fun certificate member => ?_
      have notEmpty := (build_eq_ok_iff.mp built).1 certificate member
      exact Bool.eq_false_iff.mpr fun isNil =>
        (CertificateKind.isNil_guid_iff.mp isNil).elim notEmpty (named certificate member)
    rw [whole] at parsed
    exact ⟨_, parsed, map_content_ofGuid _⟩

theorem build_readsAs_iff_knownGuid_as_other :
    ∃ table,
      build [⟨.vcek, [1, 2]⟩, ⟨.other CertificateKind.ark.guid, []⟩, ⟨.ark, [3]⟩] = .ok table ∧
        ReadsAs table [⟨.vcek, [1, 2]⟩, ⟨.other CertificateKind.ark.guid, []⟩, ⟨.ark, [3]⟩] :=
  ⟨_, rfl, (build_readsAs_iff rfl).2.mpr (by decide)⟩

/-- An entry given by the nil GUID is built into a table, and reads as the end of that table. -/
theorem build_nilGuid_not_readsAs :
    ∃ table, build [⟨.other Guid.nil, [0xaa]⟩, ⟨.ark, [0xbb]⟩] = .ok table ∧
      parse table = .ok [] ∧ ¬ ReadsAs table [⟨.other Guid.nil, [0xaa]⟩, ⟨.ark, [0xbb]⟩] := by
  obtain ⟨table, built⟩ :
      ∃ table, build [⟨.other Guid.nil, [0xaa]⟩, ⟨.ark, [0xbb]⟩] = .ok table := ⟨_, rfl⟩
  have cut : parse table = .ok [] := parse_of_build built
  refine ⟨table, built, cut, ?_⟩
  rintro ⟨entries, read, same⟩
  rw [cut] at read
  injection read with read
  rw [← read] at same
  exact absurd same (by decide)

end CertificateTable

end SnpTestbed
