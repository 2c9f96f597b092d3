import Mathlib.Algebra.Ring.Nat
import SnpTestbed.Proofs.Certificate.Grammar
import SnpTestbed.Proofs.Certificate.RoundTrip

/-!
# Where a built certificate table holds what

The rows of a built table come first, one for each entry and a zero row, and the data
follow in the order of the entries. `dataStart` counts where the data of an entry have
to start. `build_layout` says that the rows point there, that the data are there, and
that they fill the table from the end of its rows to its own end without a gap or an
overlap.
-/
namespace SnpTestbed.CertificateTable

/-- Where the data of the entry at an index start: behind a row for each entry and one more, and
behind the data of the entries before it. -/
def dataStart (certificates : List Certificate) (index : Nat) : Nat :=
  rowSize * (certificates.length + 1) + ((certificates.take index).map (·.data.length)).sum

/-- A position in the table of entries holds a byte of the data of the entry at an index. -/
def Holds (certificates : List Certificate) (index position : Nat) : Prop :=
  ∃ inside : index < certificates.length, dataStart certificates index ≤ position ∧
    position < dataStart certificates index + certificates[index].data.length

variable {certificates : List Certificate} {table : Bytes}

theorem length_stored (certificates : List Certificate) :
    (stored certificates).length = (certificates.map (·.data.length)).sum :=
  List.length_flatMap

theorem builtLength_eq (certificates : List Certificate) :
    builtLength certificates =
      rowSize * (certificates.length + 1) + (certificates.map (·.data.length)).sum := by
  rw [builtLength, length_stored, Nat.mul_comm]

@[simp] theorem dataStart_zero (certificates : List Certificate) :
    dataStart certificates 0 = rowSize * (certificates.length + 1) := by
  simp [dataStart]

/-- The data of the next entry start where those of an entry end. -/
theorem dataStart_succ {index : Nat} (inside : index < certificates.length) :
    dataStart certificates (index + 1) =
      dataStart certificates index + certificates[index].data.length := by
  simp only [dataStart, List.take_succ_eq_append_getElem inside, List.map_append, List.sum_append,
    List.map_cons, List.map_nil, List.sum_cons, List.sum_nil, Nat.add_zero, Nat.add_assoc]

/-- The data of the last entry end where the table ends. -/
theorem dataStart_length (certificates : List Certificate) :
    dataStart certificates certificates.length = builtLength certificates := by
  rw [dataStart, List.take_length, builtLength_eq]

theorem dataStart_mono {first second : Nat} (ordered : first ≤ second)
    (inside : second ≤ certificates.length) :
    dataStart certificates first ≤ dataStart certificates second := by
  induction ordered with
  | refl => exact Nat.le_refl _
  | @step second ordered ih =>
    have before := ih (Nat.le_of_succ_le inside)
    rw [dataStart_succ inside]
    omega

/-- The data of an entry end before those of any later one start. -/
theorem dataStart_disjoint {first second : Nat} (ordered : first < second)
    (inside : second < certificates.length) :
    dataStart certificates first + certificates[first].data.length ≤
      dataStart certificates second := by
  rw [← dataStart_succ (Nat.lt_trans ordered inside)]
  exact dataStart_mono ordered (Nat.le_of_lt inside)

/-- Up to where the data of an entry start, every position behind the rows holds a byte of an entry
before it. -/
theorem exists_holds {index position : Nat} (inside : index ≤ certificates.length)
    (behind : rowSize * (certificates.length + 1) ≤ position)
    (before : position < dataStart certificates index) :
    ∃ earlier, Holds certificates earlier position := by
  induction index with
  | zero =>
    rw [dataStart_zero] at before
    omega
  | succ index ih =>
    by_cases reached : dataStart certificates index ≤ position
    · rw [dataStart_succ inside] at before
      exact ⟨index, inside, reached, before⟩
    · exact ih (Nat.le_of_succ_le inside) (Nat.lt_of_not_le reached)

/-- The positions of data are those behind the rows. -/
theorem exists_holds_iff {position : Nat} :
    (∃ index, Holds certificates index position) ↔
      rowSize * (certificates.length + 1) ≤ position ∧ position < builtLength certificates := by
  rw [← dataStart_length]
  constructor
  · rintro ⟨index, inside, reached, before⟩
    have first := dataStart_mono (Nat.zero_le index) (Nat.le_of_lt inside)
    have last := dataStart_mono (Nat.succ_le_of_lt inside) (Nat.le_refl _)
    rw [dataStart_zero] at first
    rw [dataStart_succ inside] at last
    omega
  · rintro ⟨behind, before⟩
    exact exists_holds (Nat.le_refl _) behind before

/-- The row of an entry locates its data behind those of the entries before it. -/
theorem getElem?_placed (offset : Nat) (certificates : List Certificate) (index : Nat) :
    (placed offset certificates)[index]? = certificates[index]?.map fun certificate =>
      ⟨certificate.kind.guid, offset + ((certificates.take index).map (·.data.length)).sum,
        certificate.data.length⟩ := by
  induction certificates generalizing offset index with
  | nil => rfl
  | cons certificate rest ih =>
    cases index with
    | zero => rfl
    | succ index =>
      simp only [placed, List.getElem?_cons_succ, ih, List.take_succ_cons, List.map_cons,
        List.sum_cons, Nat.add_assoc]

/-- The row of an entry stands at the index of that entry. -/
theorem rowAt?_of_build (built : build certificates = .ok table) {index : Nat}
    (inside : index < certificates.length) :
    rowAt? table index = some ⟨certificates[index].kind.guid, dataStart certificates index,
      certificates[index].data.length⟩ := by
  obtain ⟨beyond, read⟩ := rows_of_build built
  have among : index < (placed ((certificates.length + 1) * rowSize) certificates).length := by
    rw [length_placed]
    exact inside
  rw [← getElem?_rows, read, List.getElem?_append_left among, getElem?_placed,
    List.getElem?_eq_getElem inside, Option.map_some, dataStart, Nat.mul_comm rowSize]

/-- The parts of a row are read from the windows that hold them. -/
theorem windows_of_rowAt? {index : Nat} {row : Row} (found : rowAt? table index = some row) :
    Bytes.slice table (rowSize * index) 16 = row.guid.octets.val ∧
      LittleEndian.decode (Bytes.slice table (rowSize * index + 16) 4) = row.offset ∧
      LittleEndian.decode (Bytes.slice table (rowSize * index + 20) 4) = row.length := by
  simp only [rowAt?, Option.bind_eq_bind, Option.bind_eq_some_iff, Option.pure_def,
    Option.some.injEq, Block.window?_eq_some_iff] at found
  obtain ⟨guid, ⟨_, guidShown⟩, offset, ⟨_, offsetShown⟩, length, ⟨_, lengthShown⟩, rfl⟩ := found
  rw [← guidShown, ← offsetShown, ← lengthShown]
  exact ⟨rfl, rfl, rfl⟩

/-- Behind the rows of the entries stands a zero row. -/
theorem zeroRow_of_build (built : build certificates = .ok table) :
    Bytes.slice table (rowSize * certificates.length) rowSize = List.replicate rowSize 0 := by
  obtain ⟨_, _, rfl⟩ := build_eq_ok_iff.mp built
  have located := Bytes.slice_append_append
    (bytesOfRows (placed ((certificates.length + 1) * rowSize) certificates))
    (List.replicate rowSize 0) (stored certificates)
  rw [length_bytesOfRows, length_placed, List.length_replicate,
    Nat.mul_comm certificates.length] at located
  rw [List.append_assoc]
  exact located

/-- The data of an entry are where its row says. -/
theorem data_of_build (built : build certificates = .ok table) {index : Nat}
    (inside : index < certificates.length) :
    Bytes.slice table (dataStart certificates index) certificates[index].data.length =
      certificates[index].data := by
  obtain ⟨header, sized, rfl⟩ := header_of_build built
  have split : stored certificates = stored (certificates.take index) ++
      (certificates[index].data ++ stored (certificates.drop (index + 1))) := by
    have parts := congrArg stored (List.take_append_drop index certificates)
    rw [List.drop_eq_getElem_cons inside] at parts
    simp only [stored, List.flatMap_append, List.flatMap_cons] at parts ⊢
    exact parts.symm
  have located := Bytes.slice_append_append (header ++ stored (certificates.take index))
    certificates[index].data (stored (certificates.drop (index + 1)))
  rw [List.length_append, sized, length_stored, Nat.mul_comm, ← dataStart] at located
  rw [split, ← List.append_assoc]
  exact located

/-- An empty entry is what keeps a table below 4 GiB from being laid out. -/
theorem layOut_of_empty {offset : Nat} (small : offset + (stored certificates).length < UInt32.size)
    (unnamed : ∃ certificate ∈ certificates, certificate.kind = .empty) :
    layOut offset certificates = .error .emptyEntry := by
  induction certificates generalizing offset with
  | nil =>
    obtain ⟨certificate, member, _⟩ := unnamed
    contradiction
  | cons certificate rest ih =>
    have sized : (stored (certificate :: rest)).length =
        certificate.data.length + (stored rest).length := by
      rw [stored, List.flatMap_cons, List.length_append, ← stored]
    rw [layOut]
    by_cases isEmpty : certificate.kind = .empty
    · rw [if_pos isEmpty]
    · have offsetFits : ¬UInt32.size ≤ offset := by omega
      have lengthFits : ¬UInt32.size ≤ certificate.data.length := by omega
      have later : ∃ other ∈ rest, other.kind = .empty := by
        obtain ⟨other, member, otherEmpty⟩ := unnamed
        rcases List.mem_cons.mp member with rfl | inRest
        · exact absurd otherEmpty isEmpty
        · exact ⟨other, inRest, otherEmpty⟩
      rw [if_neg isEmpty, if_neg offsetFits, if_neg lengthFits, ih (by omega) later]
      rfl

/-- A table below 4 GiB is refused for an empty entry, and for nothing else. -/
theorem build_eq_error_iff (small : builtLength certificates < UInt32.size) {fault : Fault} :
    build certificates = .error fault ↔
      fault = .emptyEntry ∧ ∃ certificate ∈ certificates, certificate.kind = .empty := by
  have refused (unnamed : ∃ certificate ∈ certificates, certificate.kind = .empty) :
      build certificates = .error .emptyEntry := by
    rw [build, layOut_of_empty small unnamed]
    rfl
  constructor
  · intro failed
    by_cases unnamed : ∃ certificate ∈ certificates, certificate.kind = .empty
    · rw [refused unnamed] at failed
      injection failed with same
      exact ⟨same.symm, unnamed⟩
    · obtain ⟨table, built⟩ := build_of_small
        (fun certificate member isEmpty => unnamed ⟨certificate, member, isEmpty⟩) small
      rw [built] at failed
      contradiction
  · rintro ⟨rfl, unnamed⟩
    exact refused unnamed

/-- Entries of which none is empty are built into a table, as long as it stays below 4 GiB. Row by
row it holds their GUIDs, where their data start and how long they are, and then a zero row; the
data are there, one behind the other from the end of the rows to the end of the table. -/
theorem build_layout (certificates : List Certificate)
    (small : rowSize * (certificates.length + 1) + (certificates.map (·.data.length)).sum <
      UInt32.size) :
    (∀ fault, build certificates = .error fault ↔
      fault = .emptyEntry ∧ ∃ certificate ∈ certificates, certificate.kind = .empty) ∧
    ((∀ certificate ∈ certificates, certificate.kind ≠ .empty) →
      ∃ table, build certificates = .ok table ∧
        table.length =
          rowSize * (certificates.length + 1) + (certificates.map (·.data.length)).sum ∧
        (∀ index (inside : index < certificates.length),
          let certificate := certificates[index]
          let start := dataStart certificates index
          Bytes.slice table (rowSize * index) 16 = certificate.kind.guid.octets.val ∧
          LittleEndian.decode (Bytes.slice table (rowSize * index + 16) 4) = start ∧
          LittleEndian.decode (Bytes.slice table (rowSize * index + 20) 4) =
            certificate.data.length ∧
          Bytes.slice table start certificate.data.length = certificate.data ∧
          dataStart certificates (index + 1) = start + certificate.data.length) ∧
        Bytes.slice table (rowSize * certificates.length) rowSize = List.replicate rowSize 0 ∧
        (∀ first second (inside : second < certificates.length) (ordered : first < second),
          dataStart certificates first + certificates[first].data.length ≤
            dataStart certificates second) ∧
        ∀ position, (∃ index, Holds certificates index position) ↔
          rowSize * (certificates.length + 1) ≤ position ∧ position < table.length) := by
  rw [← builtLength_eq] at small ⊢
  refine ⟨fun fault => build_eq_error_iff small, fun named => ?_⟩
  obtain ⟨table, built⟩ := build_of_small named small
  have sized := length_of_build built
  refine ⟨table, built, sized, fun index inside => ?_, zeroRow_of_build built, ?_, ?_⟩
  · obtain ⟨guid, offset, length⟩ := windows_of_rowAt? (rowAt?_of_build built inside)
    exact ⟨guid, offset, length, data_of_build built inside, dataStart_succ inside⟩
  · exact fun first second inside ordered => dataStart_disjoint ordered inside
  · rw [sized]
    exact fun position => exists_holds_iff

/-- An entry without data shares its place with the next one. -/
theorem build_layout_withoutData :
    let certificates : List Certificate := [⟨.vcek, [1, 2]⟩, ⟨.other Guid.nil, []⟩, ⟨.ark, [3]⟩]
    builtLength certificates < UInt32.size ∧
      (∀ certificate ∈ certificates, certificate.kind ≠ .empty) ∧
      ∃ table, build certificates = .ok table ∧ table.length = 99 ∧
        LittleEndian.decode (Bytes.slice table 40 4) = 98 ∧
        LittleEndian.decode (Bytes.slice table 64 4) = 98 ∧ Bytes.slice table 98 1 = [3] := by
  intro certificates
  have small : builtLength certificates < UInt32.size := by decide
  have named : ∀ certificate ∈ certificates, certificate.kind ≠ .empty := by decide
  obtain ⟨table, built, sized, rows, _⟩ := (build_layout certificates (by decide)).2 named
  obtain ⟨_, bareStart, _⟩ := rows 1 (by decide)
  obtain ⟨_, arkStart, _, arkData, _⟩ := rows 2 (by decide)
  exact ⟨small, named, table, built, sized, bareStart, arkStart, arkData⟩

end SnpTestbed.CertificateTable
