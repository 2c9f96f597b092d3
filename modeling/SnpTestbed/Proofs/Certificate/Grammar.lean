import Mathlib.Data.List.TakeWhile
import SnpTestbed.Proofs.Certificate.Rows

/-!
# What is read as a certificate table

A row is found at its index: `rowAt?` takes it from the table by windows that have to
lie in the table. `Reading` tells by these rows how reading a table ends, without
following the reader: at the first row with the nil GUID, at a row before it whose
data lie beyond the table, or where there is no further row. `parse_eq_iff_reading`
says that there is no other way, and that a reader whose every access is checked
against the table never fails a check.
-/
namespace SnpTestbed

namespace Block

variable {size : Nat} {bytes : Bytes} {offset : Nat}

/-- The window of `size` bytes at `offset`, if the string reaches that far. -/
def window? (size : Nat) (bytes : Bytes) (offset : Nat) : Option (Block size) :=
  if inside : offset + size ≤ bytes.length then some (ofWindow bytes offset inside) else none

theorem window?_of_le (inside : offset + size ≤ bytes.length) :
    window? size bytes offset = some (ofWindow bytes offset inside) :=
  dif_pos inside

theorem window?_of_lt (outside : bytes.length < offset + size) :
    window? size bytes offset = none :=
  dif_neg (Nat.not_le_of_lt outside)

theorem window?_eq_some_iff {window : Block size} :
    window? size bytes offset = some window ↔
      offset + size ≤ bytes.length ∧ window.val = Bytes.slice bytes offset size := by
  by_cases inside : offset + size ≤ bytes.length
  · rw [window?_of_le inside, Option.some.injEq, Subtype.ext_iff, eq_comm]
    exact (and_iff_right inside).symm
  · rw [window?_of_lt (Nat.lt_of_not_le inside)]
    exact iff_of_false nofun fun both => inside both.1

/-- A window that a string reaches is the same one in any string that goes on from there. -/
theorem window?_append {window : Block size} (found : window? size bytes offset = some window)
    (rest : Bytes) : window? size (bytes ++ rest) offset = some window := by
  obtain ⟨inside, shown⟩ := window?_eq_some_iff.mp found
  refine window?_eq_some_iff.mpr ⟨?_, ?_⟩
  · rw [List.length_append]
    omega
  · rw [shown, Bytes.slice_append_of_le inside]

/-- A window of some size is whole exactly if the string reaches that far. -/
theorem ofBytes?_slice (positive : 0 < size) :
    ofBytes? size (Bytes.slice bytes offset size) = window? size bytes offset := by
  by_cases inside : offset + size ≤ bytes.length
  · rw [window?_of_le inside, ofBytes?, dif_pos (Bytes.length_slice_of_le inside)]
    rfl
  · have short : (Bytes.slice bytes offset size).length ≠ size := by
      rw [Bytes.length_slice]
      omega
    rw [window?_of_lt (Nat.lt_of_not_le inside), ofBytes?, dif_neg short]

end Block

namespace CertificateTable

/-- The row at an index of a table, if the table holds all of it: a GUID of 16 bytes and two
little-endian words of 4 bytes. -/
def rowAt? (table : Bytes) (index : Nat) : Option Row := do
  let guid ← Block.window? 16 table (rowSize * index)
  let offset ← Block.window? 4 table (rowSize * index + 16)
  let length ← Block.window? 4 table (rowSize * index + 20)
  return ⟨⟨guid⟩, LittleEndian.decode offset.val, LittleEndian.decode length.val⟩

/-- A table starts with these rows, and all of them are sound. -/
structure Leads (table : Bytes) (leading : List Row) : Prop where
  found : ∀ index (before : index < leading.length), rowAt? table index = some leading[index]
  sound : ∀ row ∈ leading, row.Sound table

/-- How reading a table that is not empty ends. -/
inductive Reading (table : Bytes) : Except Fault (List Certificate) → Prop
  | terminated {leading : List Row} {last : Row} (leads : Leads table leading)
    (found : rowAt? table leading.length = some last) (ends : last.guid = Guid.nil) :
    Reading table (.ok (leading.map (Row.locate table)))
  | exceeded {leading : List Row} {row : Row} (leads : Leads table leading)
    (found : rowAt? table leading.length = some row) (named : row.guid ≠ Guid.nil)
    (outside : table.length < row.offset + row.length) :
    Reading table (.error (.outOfBounds row.guid row.offset row.length table.length))
  | unterminated {leading : List Row} (leads : Leads table leading)
    (spent : rowAt? table leading.length = none) : Reading table (.error .unterminated)

variable {table : Bytes}

/-- All parts of a row are found where the whole of it lies in the table. -/
theorem rowAt?_eq_map (table : Bytes) (index : Nat) :
    rowAt? table index = (Block.window? rowSize table (rowSize * index)).map Row.ofBlock := by
  have parts : rowSize = 24 := rfl
  by_cases inside : rowSize * index + rowSize ≤ table.length
  · have guidInside : rowSize * index + 16 ≤ table.length := by omega
    have offsetInside : rowSize * index + 16 + 4 ≤ table.length := by omega
    have lengthInside : rowSize * index + 20 + 4 ≤ table.length := by omega
    have part (start length : Nat) (fits : start + length ≤ rowSize) :
        Bytes.slice (Bytes.slice table (rowSize * index) rowSize) start length =
          Bytes.slice table (rowSize * index + start) length := Bytes.slice_slice fits
    simp only [rowAt?, Block.window?_of_le inside, Block.window?_of_le guidInside,
      Block.window?_of_le offsetInside, Block.window?_of_le lengthInside, Option.map_some,
      Row.ofBlock, Block.ofWindow, part 0 16 (by decide), part 16 4 (by decide),
      part 20 4 (by decide)]
    rfl
  · have outside : table.length < rowSize * index + rowSize := Nat.lt_of_not_le inside
    rw [Block.window?_of_lt outside, Option.map_none, rowAt?,
      Block.window?_of_lt (show table.length < rowSize * index + 20 + 4 by omega)]
    cases Block.window? 16 table (rowSize * index) with
    | none => rfl
    | some guid =>
      cases Block.window? 4 table (rowSize * index + 16) with
      | none => rfl
      | some offset => rfl

theorem rowAt?_eq_none_iff {index : Nat} :
    rowAt? table index = none ↔ table.length < rowSize * (index + 1) := by
  rw [rowAt?_eq_map, Option.map_eq_none_iff, Nat.mul_succ]
  by_cases inside : rowSize * index + rowSize ≤ table.length
  · rw [Block.window?_of_le inside]
    exact iff_of_false nofun (Nat.not_lt_of_le inside)
  · have outside := Nat.lt_of_not_le inside
    rw [Block.window?_of_lt outside]
    exact iff_of_true rfl outside

/-- The rows from an index on are the row at that index and those behind it. -/
theorem rows_drop (table : Bytes) (count index : Nat) :
    rows (count + 1) (table.drop (rowSize * index)) =
      match rowAt? table index with
      | none => []
      | some row => row :: rows count (table.drop (rowSize * (index + 1))) := by
  have first : Block.ofBytes? rowSize ((table.drop (rowSize * index)).take rowSize) =
      Block.window? rowSize table (rowSize * index) := Block.ofBytes?_slice (by decide)
  rw [rows, first, rowAt?_eq_map, List.drop_drop, Nat.mul_succ]
  cases Block.window? rowSize table (rowSize * index) with
  | none => rfl
  | some block => rfl

theorem getElem?_rows_drop (table : Bytes) (count start index : Nat) :
    (rows count (table.drop (rowSize * start)))[index]? =
      if index < count then rowAt? table (start + index) else none := by
  induction count generalizing start index with
  | zero => rfl
  | succ count ih =>
    rw [rows_drop]
    cases found : rowAt? table start with
    | none =>
      -- Behind a row that the table does not hold there are no others.
      have beyond : rowAt? table (start + index) = none := by
        rw [rowAt?_eq_none_iff] at found ⊢
        refine Nat.lt_of_lt_of_le found (Nat.mul_le_mul_left _ ?_)
        omega
      simp only [List.getElem?_nil, beyond, ite_self]
    | some row =>
      cases index with
      | zero => simp [found]
      | succ index =>
        have shifted : start + 1 + index = start + (index + 1) := by omega
        simp only [List.getElem?_cons_succ, ih, shifted, Nat.add_lt_add_iff_right]

/-- The rows of a table are those that are found at its indices. -/
theorem getElem?_rows (table : Bytes) (index : Nat) :
    (rows (table.length / rowSize) table)[index]? = rowAt? table index := by
  have read := getElem?_rows_drop table (table.length / rowSize) 0 index
  rw [Nat.mul_zero, List.drop_zero, Nat.zero_add] at read
  rw [read]
  split
  · rfl
  · next beyond =>
    symm
    rw [rowAt?_eq_none_iff]
    unfold rowSize at beyond ⊢
    omega

/-- Rows lead a table if they stand at its start and are sound. -/
theorem leads_iff {leading : List Row} :
    Leads table leading ↔
      leading <+: rows (table.length / rowSize) table ∧ ∀ row ∈ leading, row.Sound table := by
  rw [List.prefix_iff_getElem?]
  simp only [getElem?_rows]
  exact ⟨fun leads => ⟨leads.found, leads.sound⟩, fun both => ⟨both.1, both.2⟩⟩

instance (table : Bytes) (row : Row) : Decidable (row.Sound table) :=
  decidable_of_iff (row.guid ≠ Guid.nil ∧ row.offset + row.length ≤ table.length)
    ⟨fun both => ⟨both.1, both.2⟩, fun sound => ⟨sound.named, sound.inside⟩⟩

/-- Behind the sound rows at its start, a table has no row or one that is not sound. -/
theorem exists_leads (table : Bytes) :
    ∃ leading rest, Leads table leading ∧
      rows (table.length / rowSize) table = leading ++ rest ∧
      ∀ row ∈ rest.head?, ¬row.Sound table := by
  let sound (row : Row) : Bool := row.Sound table
  let all := rows (table.length / rowSize) table
  have split : all.takeWhile sound ++ all.dropWhile sound = all := List.takeWhile_append_dropWhile
  refine ⟨all.takeWhile sound, all.dropWhile sound, leads_iff.mpr ⟨?_, ?_⟩, split.symm, ?_⟩
  · exact List.takeWhile_prefix sound
  · intro row member
    have kept : sound row = true := List.mem_takeWhile_imp member
    exact of_decide_eq_true kept
  · intro row first
    have stopped := List.head?_dropWhile_not sound all
    rw [show (all.dropWhile sound).head? = some row from first] at stopped
    exact of_decide_eq_false stopped

theorem rowAt?_length_leading {leading rest : List Row}
    (split : rows (table.length / rowSize) table = leading ++ rest) :
    rowAt? table leading.length = rest.head? := by
  rw [← getElem?_rows, split, List.getElem?_append_right (Nat.le_refl _), Nat.sub_self,
    List.head?_eq_getElem?]

/-- Every table that is not empty is read in one of the three ways. -/
theorem reading_parse (nonempty : table ≠ []) : Reading table (parse table) := by
  obtain ⟨leading, rest, leads, split, stops⟩ := exists_leads table
  have next := rowAt?_length_leading split
  rw [parse, if_neg nonempty, split, entries_append leads.sound]
  cases rest with
  | nil => exact .unterminated leads next
  | cons row after =>
    have unsound : ¬row.Sound table := stops row rfl
    rw [entries]
    by_cases isNil : row.guid = Guid.nil
    · rw [if_pos (Guid.isNil_iff.mpr isNil)]
      have located := Reading.terminated leads next isNil
      rw [← List.append_nil (leading.map _)] at located
      exact located
    · have outside : ¬row.offset + row.length ≤ table.length := fun inside =>
        unsound ⟨isNil, inside⟩
      rw [if_neg (mt Guid.isNil_iff.mp isNil), entry, if_neg outside]
      exact .exceeded leads next isNil (Nat.lt_of_not_le outside)

theorem Leads.split {leading : List Row} (leads : Leads table leading) :
    ∃ rest, rows (table.length / rowSize) table = leading ++ rest ∧
      rowAt? table leading.length = rest.head? := by
  obtain ⟨rest, split⟩ := (leads_iff.mp leads).1
  exact ⟨rest, split.symm, rowAt?_length_leading split.symm⟩

/-- A table that is not empty is not read in any other way than one of the three. -/
theorem parse_of_reading {result : Except Fault (List Certificate)} (nonempty : table ≠ [])
    (reading : Reading table result) : parse table = result := by
  rw [parse, if_neg nonempty]
  cases reading with
  | terminated leads found ends =>
    obtain ⟨rest, split, next⟩ := leads.split
    rw [found] at next
    obtain ⟨after, rfl⟩ := List.head?_eq_some_iff.mp next.symm
    rw [split, entries_append leads.sound, entries, if_pos (Guid.isNil_iff.mpr ends)]
    exact congrArg Except.ok (List.append_nil _)
  | exceeded leads found named outside =>
    obtain ⟨rest, split, next⟩ := leads.split
    rw [found] at next
    obtain ⟨after, rfl⟩ := List.head?_eq_some_iff.mp next.symm
    rw [split, entries_append leads.sound, entries, if_neg (mt Guid.isNil_iff.mp named), entry,
      if_neg (Nat.not_le_of_lt outside)]
    rfl
  | unterminated leads spent =>
    obtain ⟨rest, split, next⟩ := leads.split
    rw [spent] at next
    rw [split, entries_append leads.sound, List.head?_eq_none_iff.mp next.symm]
    rfl

section Trailing

variable {row : Row}

/-- A row that a table holds stays where it is when bytes are put behind the table. -/
theorem rowAt?_append {index : Nat} (found : rowAt? table index = some row) (rest : Bytes) :
    rowAt? (table ++ rest) index = some row := by
  rw [rowAt?_eq_map] at found ⊢
  obtain ⟨block, window, read⟩ := Option.map_eq_some_iff.mp found
  rw [Block.window?_append window rest, Option.map_some, read]

theorem Row.Sound.append (sound : row.Sound table) (rest : Bytes) : row.Sound (table ++ rest) where
  named := sound.named
  inside := by
    have inside : row.offset + row.length ≤ table.length := sound.inside
    rw [Row.Inside, List.length_append]
    omega

/-- A sound row locates the same data whatever is put behind its table. -/
theorem Row.locate_append (sound : row.Sound table) (rest : Bytes) :
    row.locate (table ++ rest) = row.locate table := by
  rw [Row.locate, Row.locate, Bytes.slice_append_of_le sound.inside rest]

theorem Leads.append {leading : List Row} (leads : Leads table leading) (rest : Bytes) :
    Leads (table ++ rest) leading where
  found index before := rowAt?_append (leads.found index before) rest
  sound row member := (leads.sound row member).append rest

/-- The row that ends a table is met before any row of the bytes behind the table, and all rows
before it locate what they located. -/
theorem parse_append {certificates : List Certificate} (nonempty : table ≠ [])
    (read : parse table = .ok certificates) (rest : Bytes) :
    parse (table ++ rest) = .ok certificates := by
  have reading := reading_parse nonempty
  rw [read] at reading
  have nonemptyToo : table ++ rest ≠ [] := List.append_ne_nil_of_left_ne_nil nonempty rest
  cases reading with
  | @terminated leading last leads found ends =>
    have located : leading.map (Row.locate (table ++ rest)) = leading.map (Row.locate table) :=
      List.map_congr_left fun row member => Row.locate_append (leads.sound row member) rest
    rw [← located]
    exact parse_of_reading nonemptyToo
      (.terminated (leads.append rest) (rowAt?_append found rest) ends)

end Trailing

/-- Reads `count` rows from an index on, with every access to the table checked: where one would
reach beyond it, nothing is given. -/
def readChecked? (table : Bytes) : (count index : Nat) → Option (Except Fault (List Certificate))
  | 0, _ => some (.error .unterminated)
  | count + 1, index => do
    let row ← rowAt? table index
    if row.guid.isNil then return .ok []
    else if row.offset + row.length ≤ table.length then do
      let data ← Block.window? row.length table row.offset
      let later ← readChecked? table count (index + 1)
      return later.map (Certificate.ofGuid row.guid data.val :: ·)
    else return .error (.outOfBounds row.guid row.offset row.length table.length)

/-- No check fails among the rows that a table holds. -/
theorem readChecked?_eq {count index : Nat} (held : rowSize * (index + count) ≤ table.length) :
    readChecked? table count index =
      some (entries table (rows count (table.drop (rowSize * index)))) := by
  induction count generalizing index with
  | zero => rfl
  | succ count ih =>
    have heldLater : rowSize * (index + 1 + count) ≤ table.length := by
      rwa [Nat.add_right_comm]
    have later := ih heldLater
    have here : rowAt? table index ≠ none := by
      rw [Ne, rowAt?_eq_none_iff, Nat.not_lt]
      refine Nat.le_trans (Nat.mul_le_mul_left _ ?_) held
      omega
    obtain ⟨row, found⟩ := Option.ne_none_iff_exists'.mp here
    rw [rows_drop, readChecked?, found]
    simp only [Option.bind_eq_bind, Option.bind_some, entries]
    by_cases isNil : row.guid.isNil = true
    · rw [if_pos isNil, if_pos isNil]
      rfl
    · rw [if_neg isNil, if_neg isNil]
      by_cases inside : row.offset + row.length ≤ table.length
      · rw [if_pos inside, Block.window?_of_le inside, later, entry, if_pos inside]
        cases entries table (rows count (table.drop (rowSize * (index + 1)))) with
        | error fault => rfl
        | ok certificates => rfl
      · rw [if_neg inside, entry, if_neg inside]
        rfl

/-- Reads a table with every access checked. -/
def parseChecked? (table : Bytes) : Option (Except Fault (List Certificate)) :=
  if table = [] then some (.ok []) else readChecked? table (table.length / rowSize) 0

/-- The rows that a table holds are all that is read of it, and they lie in it. -/
theorem parseChecked?_eq (table : Bytes) : parseChecked? table = some (parse table) := by
  have held : rowSize * (0 + table.length / rowSize) ≤ table.length := by
    rw [Nat.zero_add]
    exact Nat.mul_div_le ..
  unfold parseChecked? parse
  by_cases empty : table = []
  · rw [if_pos empty, if_pos empty]
  · rw [if_neg empty, if_neg empty, readChecked?_eq held, Nat.mul_zero, List.drop_zero]

end CertificateTable

end SnpTestbed
