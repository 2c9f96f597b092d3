import SnpTestbed.Proofs.Request.LookupKey

/-!
# Field selections, bit by bit

A setter writes one bit of a selection, the lowest of the value it is given, and leaves
the others as they are (`testBit_set`). Each field has a bit of its own below the
reserved ones, so after any sequence of setters the bit of a field is the lowest of what
its own setter was given last, and no setter reaches a reserved bit. A lookup key writes
all 64 bits, the reserved ones included, so it tells any two selections apart.
-/
namespace SnpTestbed

namespace Word64

variable {word other : UInt64} {index : Nat}

/-- Behind the end of a word no bit is set. -/
theorem testBit_of_ge (word : UInt64) (beyond : 64 ≤ index) : word.toNat.testBit index = false := by
  apply Nat.testBit_lt_two_pow
  exact Nat.lt_of_lt_of_le word.toNat_lt (Nat.pow_le_pow_right (by decide) beyond)

/-- Words are told apart by their bits. -/
theorem eq_iff_testBit :
    word = other ↔ ∀ index < 64, word.toNat.testBit index = other.toNat.testBit index := by
  constructor
  · rintro rfl index -
    rfl
  · intro same
    apply UInt64.toNat_inj.mp
    apply Nat.eq_of_testBit_eq
    intro index
    rcases Nat.lt_or_ge index 64 with inside | beyond
    · exact same index inside
    · rw [testBit_of_ge word beyond, testBit_of_ge other beyond]

/-- What a mask shows is cleared by its complement. -/
theorem testBit_and_not (word mask : UInt64) (index : Nat) :
    (word &&& ~~~mask).toNat.testBit index =
      (word.toNat.testBit index && !mask.toNat.testBit index) := by
  rcases Nat.lt_or_ge index 64 with inside | beyond
  · -- A number has no complement, so this bit is read on the vector behind the word.
    have complement : (~~~mask).toNat.testBit index = !mask.toNat.testBit index := by
      change (~~~mask.toBitVec).toNat.testBit index = !mask.toBitVec.toNat.testBit index
      rw [BitVec.testBit_toNat, BitVec.getLsbD_not, BitVec.testBit_toNat, decide_eq_true inside,
        Bool.true_and]
    rw [UInt64.toNat_and, Nat.testBit_and, complement]
  · rw [testBit_of_ge _ beyond, testBit_of_ge word beyond, Bool.false_and]

/-- The lowest bit of a word, moved up inside the word, shows there alone. -/
theorem testBit_lowest_shiftLeft (word : UInt64) {place : UInt64} (inside : place.toNat < 64)
    (index : Nat) :
    ((word &&& 1) <<< place).toNat.testBit index =
      (decide (index = place.toNat) && word.toNat.testBit 0) := by
  have lowest (index : Nat) : Nat.testBit 1 index = decide (index = 0) := by
    rw [Bool.eq_iff_iff, Nat.testBit_one_eq_true_iff_self_eq_zero, decide_eq_true_iff]
  rw [UInt64.toNat_shiftLeft, UInt64.toNat_and, Nat.mod_eq_of_lt inside, Nat.testBit_mod_two_pow,
    Nat.testBit_shiftLeft, Nat.testBit_and, UInt64.toNat_one, lowest]
  by_cases here : index = place.toNat
  · simp [here, inside]
  · by_cases reached : place.toNat ≤ index
    · have above : index - place.toNat ≠ 0 := by omega
      simp [here, above]
    · simp [here, reached]

end Word64

namespace MixedField

/-- A field stands in the list of all fields at the place of its bit. -/
theorem getElem?_all_toNat_bit (field : MixedField) : all[field.bit.toNat]? = some field := by
  cases field with
  | _ => rfl

/-- The bits of fields lie below the reserved ones. -/
theorem toNat_bit_lt (field : MixedField) : field.bit.toNat < 6 := by
  obtain ⟨inside, -⟩ := List.getElem?_eq_some_iff.mp field.getElem?_all_toNat_bit
  exact inside

/-- Fields do not share a bit. -/
theorem toNat_bit_inj {field other : MixedField} :
    field.bit.toNat = other.bit.toNat ↔ field = other := by
  constructor
  · intro same
    rw [← Option.some_inj, ← getElem?_all_toNat_bit, ← getElem?_all_toNat_bit, same]
  · rintro rfl
    rfl

end MixedField

/-- A call of the setter of a field. -/
structure FieldChange where
  field : MixedField
  value : UInt64
  deriving DecidableEq, Repr

namespace FieldSelect

variable {select other : FieldSelect} {field otherField : MixedField} {index : Nat}

/-- The selection after a sequence of setters. -/
def setAll (start : FieldSelect) (changes : List FieldChange) : FieldSelect :=
  changes.foldl (fun select change => select.set change.field change.value) start

theorem raw_inj : select.raw = other.raw ↔ select = other := by
  cases select
  cases other
  simp

/-- Selections are told apart by their bits. -/
theorem eq_iff_testBit :
    select = other ↔
      ∀ index < 64, select.raw.toNat.testBit index = other.raw.toNat.testBit index := by
  rw [← raw_inj, Word64.eq_iff_testBit]

/-- A setter writes the lowest bit of its value to the bit of its field, and nothing else. -/
theorem testBit_set (select : FieldSelect) (field : MixedField) (value : UInt64) (index : Nat) :
    (select.set field value).raw.toNat.testBit index =
      if index = field.bit.toNat then value.toNat.testBit 0
      else select.raw.toNat.testBit index := by
  have inside : field.bit.toNat < 64 := Nat.lt_trans field.toNat_bit_lt (by decide)
  have mask := Word64.testBit_lowest_shiftLeft 1 inside index
  rw [UInt64.and_self] at mask
  rw [set, UInt64.toNat_or, Nat.testBit_or, Word64.testBit_and_not, mask,
    Word64.testBit_lowest_shiftLeft value inside]
  by_cases own : index = field.bit.toNat
  · simp [own]
  · simp [own]

/-- Setters of different fields commute. -/
theorem set_comm (different : field ≠ otherField) (value otherValue : UInt64) :
    (select.set field value).set otherField otherValue =
      (select.set otherField otherValue).set field value := by
  have apart : field.bit.toNat ≠ otherField.bit.toNat := mt MixedField.toNat_bit_inj.mp different
  rw [eq_iff_testBit]
  intro index _
  simp only [testBit_set]
  by_cases own : index = field.bit.toNat
  · have notOther : index ≠ otherField.bit.toNat := own ▸ apart
    rw [if_neg notOther, if_pos own, if_pos own]
  · rw [if_neg own, if_neg own]

/-- After a sequence of setters, a bit is what it was set to last, if it was set. -/
theorem testBit_setAll (start : FieldSelect) (changes : List FieldChange) (index : Nat) :
    (start.setAll changes).raw.toNat.testBit index =
      match (changes.filter fun change => index = change.field.bit.toNat).getLast? with
      | some change => change.value.toNat.testBit 0
      | none => start.raw.toNat.testBit index := by
  induction changes generalizing start with
  | nil => rfl
  | cons change rest hypothesis =>
    rw [setAll, List.foldl_cons, ← setAll, hypothesis, testBit_set, List.filter_cons]
    by_cases own : index = change.field.bit.toNat
    · -- The head counts only if no later setter writes the same bit.
      rw [if_pos own, if_pos (decide_eq_true own), List.getLast?_cons]
      cases (rest.filter fun change => index = change.field.bit.toNat).getLast? with
      | none => rfl
      | some later => rfl
    · rw [if_neg own, if_neg (by simpa using own)]

/-- The setters of a field are those of its bit. -/
theorem filter_bit_eq (field : MixedField) (changes : List FieldChange) :
    (changes.filter fun change => field.bit.toNat = change.field.bit.toNat) =
      changes.filter fun change => change.field = field := by
  apply List.filter_congr
  intro change _
  rw [decide_eq_decide, MixedField.toNat_bit_inj, eq_comm]

/-- No setter writes a reserved bit. -/
theorem testBit_setAll_of_reserved (start : FieldSelect) (changes : List FieldChange)
    (reserved : 6 ≤ index) :
    (start.setAll changes).raw.toNat.testBit index = start.raw.toNat.testBit index := by
  have untouched : (changes.filter fun change => index = change.field.bit.toNat) = [] := by
    rw [List.filter_eq_nil_iff]
    intro change _
    have below := change.field.toNat_bit_lt
    rw [decide_eq_true_iff]
    omega
  rw [testBit_setAll, untouched]
  rfl

end FieldSelect

/-- Choices that differ in nothing but their selections share a lookup key exactly if the
selections are equal. -/
theorem DerivedKeyChoice.lookupKey_fields_inj (choice : DerivedKeyChoice)
    {select other : FieldSelect} :
    { choice with fields := select }.request.lookupKey =
        { choice with fields := other }.request.lookupKey ↔
      select = other := by
  rw [DerivedKeyRequest.lookupKey_inj]
  constructor
  · intro same
    have words : select.raw = other.raw := congrArg DerivedKeyRequest.fields same
    exact FieldSelect.raw_inj.mp words
  · rintro rfl
    rfl

/-- Each setter has a bit of its own. After any sequence of setters, the bit of a field is the
lowest bit of the value that its setter was given last, or what it was if its setter was not
called, and the reserved bits are what they were; setters of different fields commute. Keys that
are chosen alike but for their selections have the same lookup key exactly if the selections agree
in all 64 bits. -/
theorem fieldBits_independent :
    (∀ (start : FieldSelect) (changes : List FieldChange),
      (∀ position ∈ [(MixedField.guestPolicy, 0), (.imageId, 1), (.familyId, 2),
          (.measurement, 3), (.securityVersion, 4), (.tcbVersion, 5)],
        (start.setAll changes).raw.toNat.testBit position.2 =
          match (changes.filter fun change => change.field = position.1).getLast? with
          | some change => change.value.toNat.testBit 0
          | none => start.raw.toNat.testBit position.2) ∧
      ∀ index, 6 ≤ index →
        (start.setAll changes).raw.toNat.testBit index = start.raw.toNat.testBit index) ∧
    (∀ (select : FieldSelect) (field otherField : MixedField) (value otherValue : UInt64),
      field ≠ otherField →
        (select.set field value).set otherField otherValue =
          (select.set otherField otherValue).set field value) ∧
    ∀ (choice : DerivedKeyChoice) (select other : FieldSelect),
      { choice with fields := select }.request.lookupKey =
          { choice with fields := other }.request.lookupKey ↔
        ∀ index < 64, select.raw.toNat.testBit index = other.raw.toNat.testBit index := by
  refine ⟨fun start changes => ⟨fun position listed => ?fields, fun index reserved =>
      FieldSelect.testBit_setAll_of_reserved start changes reserved⟩,
    fun select field otherField value otherValue different =>
      FieldSelect.set_comm different value otherValue,
    fun choice select other => ?keys⟩
  case fields =>
    have placed : position.2 = position.1.bit.toNat := by
      revert position
      decide
    rw [placed, FieldSelect.testBit_setAll, FieldSelect.filter_bit_eq]
  case keys => rw [choice.lookupKey_fields_inj, FieldSelect.eq_iff_testBit]

theorem fieldBits_independent_overwritten :
    let start : FieldSelect := ⟨0x80000000000000CC⟩
    let changes : List FieldChange :=
      [⟨.guestPolicy, 3⟩, ⟨.measurement, 0xFFFFFFFFFFFFFFFE⟩, ⟨.tcbVersion, 0x21⟩,
        ⟨.guestPolicy, 2⟩]
    let select := start.setAll changes
    let choice : DerivedKeyChoice := ⟨false, start, 1, 0, 4⟩
    select.raw.toNat.testBit 0 = false ∧ select.raw.toNat.testBit 2 = true ∧
      select.raw.toNat.testBit 3 = false ∧ select.raw.toNat.testBit 5 = true ∧
      6 ≤ 63 ∧ select.raw.toNat.testBit 63 = true ∧
      MixedField.guestPolicy ≠ .measurement ∧
      (start.set .guestPolicy 3).set .measurement 6 =
        (start.set .measurement 6).set .guestPolicy 3 ∧
      { choice with fields := select }.request.lookupKey ≠ choice.request.lookupKey := by
  intro start changes select choice
  obtain ⟨settled, commute, keys⟩ := fieldBits_independent
  obtain ⟨fields, reserved⟩ := settled start changes
  have stored : ∀ index ∈ [2, 3, 63], (0x80000000000000CC : UInt64).toNat.testBit index = true := by
    decide
  have guestPolicy : select.raw.toNat.testBit 0 = false := fields (.guestPolicy, 0) (by decide)
  have familyId : select.raw.toNat.testBit 2 = true :=
    (fields (.familyId, 2) (by decide)).trans (stored 2 (by decide))
  have measurement : select.raw.toNat.testBit 3 = false := fields (.measurement, 3) (by decide)
  have tcbVersion : select.raw.toNat.testBit 5 = true := fields (.tcbVersion, 5) (by decide)
  have topBit : select.raw.toNat.testBit 63 = true :=
    (reserved 63 (by decide)).trans (stored 63 (by decide))
  have different : MixedField.guestPolicy ≠ .measurement := by decide
  refine ⟨guestPolicy, familyId, measurement, tcbVersion, by decide, topBit, different,
    commute start _ _ 3 6 different, ?_⟩
  intro same
  have kept : select.raw.toNat.testBit 3 = true :=
    ((keys choice select start).mp same 3 (by decide)).trans (stored 3 (by decide))
  rw [measurement] at kept
  contradiction

end SnpTestbed
