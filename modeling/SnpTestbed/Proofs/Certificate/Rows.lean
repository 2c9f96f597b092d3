import SnpTestbed.Certificate.Table

/-!
# Rows of certificate tables

`rows_append_bytesOfRows` reads back the rows that were written at the start of a
string, and `entries_append` tells what sound rows locate in a table, whatever
stands behind them. Between them a reader of a table never has to look at row
bytes again.
-/
namespace SnpTestbed.CertificateTable

/-- The bytes of a row are as many as a row has. -/
@[simp] theorem length_rowBytes (guid : Guid) (offset length : Nat) :
    (rowBytes guid offset length).length = rowSize := by
  simp [rowBytes, guid.octets.property, rowSize]

namespace Row

/-- The bytes of a row as a block of its size. -/
def block (row : Row) : Block rowSize :=
  ⟨rowBytes row.guid row.offset row.length, length_rowBytes ..⟩

/-- The row that ends a table. -/
def terminator : Row := ⟨Guid.nil, 0, 0⟩

/-- Offset and length are 32-bit words. -/
structure Fits (row : Row) : Prop where
  offset : row.offset < UInt32.size
  length : row.length < UInt32.size

/-- The data that a row locates lie in the table. -/
def Inside (table : Bytes) (row : Row) : Prop := row.offset + row.length ≤ table.length

/-- The row names data, and they lie in the table. -/
structure Sound (table : Bytes) (row : Row) : Prop where
  named : row.guid ≠ Guid.nil
  inside : row.Inside table

/-- What a row locates in a table that it lies in. -/
def locate (table : Bytes) (row : Row) : Certificate :=
  Certificate.ofGuid row.guid (Bytes.slice table row.offset row.length)

/-- A row reads back from its own bytes. -/
theorem ofBlock_block {row : Row} (fits : row.Fits) : ofBlock row.block = row := by
  obtain ⟨⟨octets, sized⟩, offset, length⟩ := row
  have offsetFits : offset < Nat.pow 256 4 := fits.offset
  have lengthFits : length < Nat.pow 256 4 := fits.length
  have guidRead : Bytes.slice (rowBytes ⟨octets, sized⟩ offset length) 0 16 = octets := by
    simp [rowBytes, Bytes.slice, sized]
  have offsetRead : Bytes.slice (rowBytes ⟨octets, sized⟩ offset length) 16 4 =
      LittleEndian.encode 4 offset := by
    have located := Bytes.slice_append_append octets (LittleEndian.encode 4 offset)
      (LittleEndian.encode 4 length)
    rw [sized, LittleEndian.length_encode] at located
    rw [rowBytes, List.append_assoc]
    exact located
  have lengthRead : Bytes.slice (rowBytes ⟨octets, sized⟩ offset length) 20 4 =
      LittleEndian.encode 4 length := by
    have located := Bytes.slice_append_append (octets ++ LittleEndian.encode 4 offset)
      (LittleEndian.encode 4 length) []
    rw [List.length_append, sized, LittleEndian.length_encode, LittleEndian.length_encode,
      List.append_nil] at located
    exact located
  simp only [ofBlock, block, Block.ofWindow, guidRead, offsetRead, lengthRead,
    LittleEndian.decode_encode_of_lt offsetFits, LittleEndian.decode_encode_of_lt lengthFits]

theorem ofBlock_zeros : ofBlock (Block.zeros rowSize) = terminator := by
  decide

end Row

/-- The bytes of rows, one behind the other. -/
def bytesOfRows (written : List Row) : Bytes := written.flatMap (·.block.val)

@[simp] theorem bytesOfRows_nil : bytesOfRows [] = [] := rfl

@[simp] theorem bytesOfRows_cons (row : Row) (later : List Row) :
    bytesOfRows (row :: later) = row.block.val ++ bytesOfRows later := rfl

@[simp] theorem length_bytesOfRows (written : List Row) :
    (bytesOfRows written).length = written.length * rowSize := by
  induction written with
  | nil => simp
  | cons row later hypothesis =>
    have sized := row.block.property
    simp only [bytesOfRows_cons, List.length_append, List.length_cons, hypothesis, sized,
      Nat.succ_mul]
    omega

/-- A block at the start of a string is its first row. -/
theorem rows_append_block (block : Block rowSize) (count : Nat) (rest : Bytes) :
    rows (count + 1) (block.val ++ rest) = Row.ofBlock block :: rows count rest := by
  have taken : (block.val ++ rest).take rowSize = block.val := List.take_left' block.property
  have dropped : (block.val ++ rest).drop rowSize = rest := List.drop_left' block.property
  have read : Block.ofBytes? rowSize block.val = some block := dif_pos block.property
  simp only [rows, taken, dropped, read]

/-- Rows written at the start of a string are its first rows. -/
theorem rows_append_bytesOfRows {written : List Row} (fit : ∀ row ∈ written, row.Fits) (count : Nat)
    (rest : Bytes) :
    rows (written.length + count) (bytesOfRows written ++ rest) = written ++ rows count rest := by
  induction written with
  | nil => simp
  | cons row later hypothesis =>
    have laterFit : ∀ row ∈ later, row.Fits := fun row member =>
      fit row (List.mem_cons_of_mem _ member)
    have counted : (row :: later).length + count = (later.length + count) + 1 := by
      simp only [List.length_cons]
      omega
    rw [counted, bytesOfRows_cons, List.append_assoc, rows_append_block,
      Row.ofBlock_block (fit row (List.mem_cons_self ..)), hypothesis laterFit, List.cons_append]

/-- Sound rows before others are located in the table, and the others decide how reading ends. -/
theorem entries_append {table : Bytes} {leading rest : List Row}
    (sound : ∀ row ∈ leading, row.Sound table) :
    entries table (leading ++ rest) =
      (entries table rest).map (leading.map (Row.locate table) ++ ·) := by
  induction leading with
  | nil =>
    rw [List.nil_append]
    cases entries table rest with
    | error fault => rfl
    | ok certificates => rfl
  | cons row later hypothesis =>
    obtain ⟨first, others⟩ := List.forall_mem_cons.mp sound
    have named : row.guid.isNil = false := Guid.isNil_eq_false_iff.mpr first.named
    have located : entry table row = .ok (Row.locate table row) := if_pos first.inside
    simp only [List.cons_append, entries, named, located, hypothesis others]
    cases entries table rest with
    | error fault => rfl
    | ok certificates => rfl

/-- Rows that locate data in the table, up to a row with the nil GUID, give what they locate;
what comes after that row is not looked at. -/
theorem entries_of_terminated {table : Bytes} {before after : List Row} {last : Row}
    (sound : ∀ row ∈ before, row.Sound table) (ends : last.guid.isNil = true) :
    entries table (before ++ last :: after) = .ok (before.map (Row.locate table)) := by
  rw [entries_append sound, entries, if_pos ends]
  exact congrArg Except.ok (List.append_nil _)

end SnpTestbed.CertificateTable
