import SnpTestbed.Proofs.Json.Tokens

/-!
# Compact texts read back

Every value that can be written has a document, with the same items and members in the
same order, and its compact text is read as that document to the end. The reader runs on
fuel, one unit for each level and each item; the text is as long as it needs.
-/
namespace SnpTestbed.Json

namespace Value

mutual

/-- The document that a value is read back as. -/
def document : Value → Document
  | .null => .null
  | .natural value => .number (.ofNat value)
  | .string content => .string (some content.toList)
  | .array items => .array (itemDocuments items) true
  | .object members => .object (memberDocuments members) true

/-- The documents of items. -/
def itemDocuments : List Value → List Document
  | [] => []
  | item :: rest => document item :: itemDocuments rest

/-- The documents of members. -/
def memberDocuments : List (String × Value) → List (Option (List Char) × Document)
  | [] => []
  | (key, value) :: rest => (some key.toList, document value) :: memberDocuments rest

end

end Value

section Blanks

theorem isSpace_of_isDigit {c : Char} (digit : c.isDigit = true) : isSpace c = false := by
  rw [Bool.eq_false_iff]
  intro space
  simp only [isSpace, Bool.or_eq_true, beq_iff_eq] at space
  rcases space with ((rfl | rfl) | rfl) | rfl <;> contradiction

/-- No blank stands before anything that was written. -/
theorem skipSpace_cons {first : Char} (visible : isSpace first = false) (later : List Char) :
    skipSpace (first :: later) = first :: later := by
  rw [skipSpace, List.dropWhile_cons_of_neg (Bool.eq_false_iff.mp visible)]

/-- The text of a value starts with a character that is neither blank nor the end of an array. -/
theorem Value.characters_eq_cons (value : Value) :
    ∃ first later, characters value = first :: later ∧ isSpace first = false ∧ first ≠ ']' := by
  cases value with
  | null => exact ⟨'n', ['u', 'l', 'l'], rfl, rfl, by decide⟩
  | natural value =>
    obtain ⟨first, later, starts, digit⟩ := toDigits_eq_cons value
    refine ⟨first, later, starts, isSpace_of_isDigit digit, ?_⟩
    rintro rfl
    contradiction
  | string content => exact ⟨'"', _, rfl, rfl, by decide⟩
  | array items => exact ⟨'[', _, rfl, rfl, by decide⟩
  | object members => exact ⟨'\x7b', _, rfl, rfl, by decide⟩

end Blanks

namespace Document

theorem readString_quoted (content : String) (rest : List Char) :
    readString (content.toList.flatMap Value.escape ++ '"' :: rest) =
      (.string (some content.toList), some rest) := by
  obtain ⟨pieces, read, same⟩ := pieces?_quoted content.toList rest
  rw [readString, read]
  simp only [same]

/-- What starts with a digit is read as a number. -/
theorem readValue_of_isDigit {first : Char} (digit : first.isDigit = true) (fuel : Nat)
    (later : List Char) : readValue (fuel + 1) (first :: later) = readNumber (first :: later) := by
  rw [readValue, skipSpace_cons (isSpace_of_isDigit digit)]
  split
  case h_7 => rfl
  all_goals
    next starts =>
      rw [List.head_eq_of_cons_eq starts] at digit
      contradiction

theorem readValue_natural (value fuel : Nat) {rest : List Char} (delimited : Delimited rest) :
    readValue (fuel + 1) (Nat.toDigits 10 value ++ rest) = (.number (.ofNat value), some rest) := by
  obtain ⟨first, later, starts, digit⟩ := toDigits_eq_cons value
  have read := Numeral.read?_toDigits value delimited
  rw [starts] at read ⊢
  rw [List.cons_append] at read ⊢
  rw [readValue_of_isDigit digit, readNumber, read]

/-- What does not close an array at once is read as its items. -/
theorem readValue_bracket (fuel : Nat) {first : Char} (visible : isSpace first = false)
    (opens : first ≠ ']') (later : List Char) :
    readValue (fuel + 1) ('[' :: first :: later) =
      (.array (readItems fuel (first :: later)).1 (readItems fuel (first :: later)).2.1,
        (readItems fuel (first :: later)).2.2) := by
  rw [readValue, skipSpace_cons rfl]
  simp only [skipSpace_cons visible]
  split
  · next closes => exact absurd (List.head_eq_of_cons_eq closes) opens
  · rfl

/-- An object whose first member is there is read by its members. -/
theorem readValue_brace (fuel : Nat) (later : List Char) :
    readValue (fuel + 1) ('\x7b' :: '"' :: later) =
      (.object (readMembers fuel ('"' :: later)).1 (readMembers fuel ('"' :: later)).2.1,
        (readMembers fuel ('"' :: later)).2.2) := by
  rw [readValue, skipSpace_cons rfl]
  simp only [@skipSpace_cons '"' rfl]
  rfl

theorem readItems_last {fuel : Nat} {text rest : List Char} {item : Document}
    (read : readValue fuel text = (item, some (']' :: rest))) :
    readItems (fuel + 1) text = ([item], true, some rest) := by
  rw [readItems, read]
  simp only [@skipSpace_cons ']' rfl]

theorem readItems_comma {fuel : Nat} {text rest after : List Char} {item : Document}
    {items : List Document} {closed : Bool}
    (read : readValue fuel text = (item, some (',' :: rest)))
    (later : readItems fuel rest = (items, closed, some after)) :
    readItems (fuel + 1) text = (item :: items, closed, some after) := by
  rw [readItems, read]
  simp only [@skipSpace_cons ',' rfl, later]

theorem readMembers_last {fuel : Nat} {key : String} {text rest : List Char} {value : Document}
    (read : readValue fuel text = (value, some ('\x7d' :: rest))) :
    readMembers (fuel + 1) (Value.quote key ++ ':' :: text) =
      ([(some key.toList, value)], true, some rest) := by
  obtain ⟨pieces, readKey, same⟩ := pieces?_quoted key.toList (':' :: text)
  rw [Value.quote, List.cons_append, List.append_assoc, List.singleton_append, readMembers,
    skipSpace_cons rfl]
  simp only [readKey, same, @skipSpace_cons ':' rfl, read, @skipSpace_cons '\x7d' rfl]

theorem readMembers_comma {fuel : Nat} {key : String} {text rest after : List Char}
    {value : Document} {members : List (Option (List Char) × Document)} {closed : Bool}
    (read : readValue fuel text = (value, some (',' :: rest)))
    (later : readMembers fuel rest = (members, closed, some after)) :
    readMembers (fuel + 1) (Value.quote key ++ ':' :: text) =
      ((some key.toList, value) :: members, closed, some after) := by
  obtain ⟨pieces, readKey, same⟩ := pieces?_quoted key.toList (':' :: text)
  rw [Value.quote, List.cons_append, List.append_assoc, List.singleton_append, readMembers,
    skipSpace_cons rfl]
  simp only [readKey, same, @skipSpace_cons ':' rfl, read, @skipSpace_cons ',' rfl, later]

end Document

namespace Value

/-- The text of items starts as the text of the first one does. -/
theorem itemCharacters_eq_cons (item : Value) (items : List Value) :
    ∃ first later, itemCharacters (item :: items) = first :: later ∧ isSpace first = false ∧
      first ≠ ']' := by
  obtain ⟨first, later, starts, visible, opens⟩ := characters_eq_cons item
  cases items with
  | nil => exact ⟨first, later, starts, visible, opens⟩
  | cons next rest =>
    refine ⟨first, later ++ ',' :: itemCharacters (next :: rest), ?_, visible, opens⟩
    rw [itemCharacters, starts]
    · rfl
    · nofun

/-- The text of members starts with the quote of the first key. -/
theorem memberCharacters_eq_cons (member : String × Value) (members : List (String × Value)) :
    ∃ later, memberCharacters (member :: members) = '"' :: later := by
  obtain ⟨key, value⟩ := member
  cases members with
  | nil => exact ⟨_, rfl⟩
  | cons next rest => exact ⟨_, rfl⟩

end Value

namespace Document

mutual

/-- A value is read from its text, whatever delimits it. -/
theorem readValue_characters : ∀ (value : Value) {fuel : Nat} {rest : List Char},
    value.characters.length ≤ fuel → Delimited rest →
      readValue fuel (value.characters ++ rest) = (value.document, some rest)
  | value, 0, rest, enough, _ => by
    obtain ⟨first, later, starts, _, _⟩ := value.characters_eq_cons
    rw [starts] at enough
    contradiction
  | .null, fuel + 1, rest, _, _ => rfl
  | .natural value, fuel + 1, rest, _, delimited => readValue_natural value fuel delimited
  | .string content, fuel + 1, rest, _, _ => by
    rw [Value.characters, Value.quote, List.cons_append, List.append_assoc, List.singleton_append,
      readValue, skipSpace_cons rfl]
    exact readString_quoted content rest
  | .array [], fuel + 1, rest, _, _ => rfl
  | .array (item :: items), fuel + 1, rest, enough, _ => by
    have enoughInside : (Value.itemCharacters (item :: items)).length + 1 ≤ fuel := by
      simpa [Value.characters] using enough
    have read : readItems fuel (Value.itemCharacters (item :: items) ++ ']' :: rest) =
        (Value.itemDocuments (item :: items), true, some rest) :=
      readItems_characters (item :: items) nofun enoughInside
    obtain ⟨first, later, starts, visible, opens⟩ := Value.itemCharacters_eq_cons item items
    rw [Value.characters, List.cons_append, List.append_assoc, List.singleton_append, starts,
      List.cons_append, readValue_bracket fuel visible opens, ← List.cons_append, ← starts, read]
    rfl
  | .object [], fuel + 1, rest, _, _ => rfl
  | .object (member :: members), fuel + 1, rest, enough, _ => by
    have enoughInside : (Value.memberCharacters (member :: members)).length + 1 ≤ fuel := by
      simpa [Value.characters] using enough
    have read : readMembers fuel (Value.memberCharacters (member :: members) ++ '\x7d' :: rest) =
        (Value.memberDocuments (member :: members), true, some rest) :=
      readMembers_characters (member :: members) nofun enoughInside
    obtain ⟨later, starts⟩ := Value.memberCharacters_eq_cons member members
    rw [Value.characters, List.cons_append, List.append_assoc, List.singleton_append, starts,
      List.cons_append, readValue_brace, ← List.cons_append, ← starts, read]
    rfl

/-- Items are read up to the end of their array. -/
theorem readItems_characters : ∀ (items : List Value), items ≠ [] → ∀ {fuel : Nat}
    {rest : List Char}, (Value.itemCharacters items).length + 1 ≤ fuel →
      readItems fuel (Value.itemCharacters items ++ ']' :: rest) =
        (Value.itemDocuments items, true, some rest)
  | [], nonempty, _, _, _ => absurd rfl nonempty
  | [item], _, fuel + 1, rest, enough =>
    readItems_last (readValue_characters item (Nat.le_of_succ_le_succ enough) (.bracket rest))
  | item :: next :: later, _, fuel + 1, rest, enough => by
    rw [Value.itemCharacters] at enough ⊢
    · simp only [List.length_append, List.length_cons] at enough
      rw [List.append_assoc, List.cons_append]
      exact readItems_comma
        (readValue_characters item (by omega) (.comma _))
        (readItems_characters (next :: later) nofun (by omega))
    · nofun
    · nofun

/-- Members are read up to the end of their object. -/
theorem readMembers_characters : ∀ (members : List (String × Value)), members ≠ [] →
    ∀ {fuel : Nat} {rest : List Char}, (Value.memberCharacters members).length + 1 ≤ fuel →
      readMembers fuel (Value.memberCharacters members ++ '\x7d' :: rest) =
        (Value.memberDocuments members, true, some rest)
  | [], nonempty, _, _, _ => absurd rfl nonempty
  | [(key, value)], _, fuel + 1, rest, enough => by
    simp only [Value.memberCharacters, List.length_append, List.length_cons] at enough
    rw [Value.memberCharacters, List.append_assoc, List.cons_append]
    exact readMembers_last (readValue_characters value (by omega) (.brace rest))
  | (key, value) :: next :: later, _, fuel + 1, rest, enough => by
    rw [Value.memberCharacters] at enough ⊢
    · simp only [List.length_append, List.length_cons] at enough
      rw [List.append_assoc, List.cons_append, List.append_assoc, List.cons_append]
      exact readMembers_comma
        (readValue_characters value (by omega) (.comma _))
        (readMembers_characters (next :: later) nofun (by omega))
    · nofun
    · nofun

end

/-- The compact text of a value is read as its document, and nothing is left over. -/
theorem read_text (value : Value) : read value.text = (value.document, true) := by
  have enough : value.characters.length ≤ 2 * value.characters.length + 2 := by omega
  have whole := readValue_characters value enough .finished
  rw [List.append_nil] at whole
  simp only [read, Value.text, String.toList_ofList, whole]
  rfl

end Document

end SnpTestbed.Json
