import SnpTestbed.Json.Document
import SnpTestbed.Json.Value

/-!
# Numbers and strings read back

The two tokens whose text depends on a value. A natural number is written in as few
digits as it takes, and is read as those digits wherever a text ends that could go on with
more of them. A string is written with its escapes and is read as the characters that it
had, whichever they were.
-/
namespace SnpTestbed.Json

/-- What can follow a value: the end of the text, or the character behind an item or a member. -/
inductive Delimited : List Char → Prop
  | finished : Delimited []
  | comma (rest : List Char) : Delimited (',' :: rest)
  | bracket (rest : List Char) : Delimited (']' :: rest)
  | brace (rest : List Char) : Delimited ('\x7d' :: rest)

section Numbers

theorem le_foldl_digits (digits : List Nat) (value : Nat) :
    value ≤ digits.foldl (fun value digit => value * 10 + digit) value := by
  induction digits generalizing value with
  | nil => exact Nat.le_refl value
  | cons digit rest hypothesis =>
    have next := hypothesis (value * 10 + digit)
    rw [List.foldl_cons]
    omega

/-- As long as the number fits, every digit counts. -/
theorem appendDigits_of_le {digits : List Nat} {value : Nat}
    (fits : digits.foldl (fun value digit => value * 10 + digit) value ≤ wordLimit) :
    appendDigits value digits =
      (digits.foldl (fun value digit => value * 10 + digit) value, digits.length) := by
  induction digits generalizing value with
  | nil => rfl
  | cons digit rest hypothesis =>
    rw [List.foldl_cons] at fits ⊢
    have next : value * 10 + digit ≤ wordLimit := Nat.le_trans (le_foldl_digits rest _) fits
    simp only [appendDigits, if_pos next, hypothesis fits, List.length_cons]

/-- A positive number has no leading zero. -/
theorem head?_toDigits_ne {value : Nat} (positive : 0 < value) :
    (Nat.toDigits 10 value).head? ≠ some '0' := by
  induction value using Nat.base_induction 10 (by decide) with
  | single digit small =>
    rw [Nat.toDigits_of_lt_base small, List.head?_cons]
    intro zero
    exact Nat.ne_of_gt positive (Nat.digitChar_eq_zero.mp (Option.some.inj zero))
  | digit leading last small leadingPositive hypothesis =>
    obtain ⟨first, later, leads⟩ :=
      List.exists_cons_of_ne_nil (Nat.toDigits_ne_nil (n := leading) (b := 10))
    have differs := hypothesis leadingPositive
    rw [leads] at differs
    rw [← Nat.toDigits_append_toDigits (by decide) leadingPositive small, leads]
    exact differs

/-- What a number is written with starts with a digit. -/
theorem toDigits_eq_cons (value : Nat) :
    ∃ first later, Nat.toDigits 10 value = first :: later ∧ first.isDigit = true := by
  obtain ⟨first, later, starts⟩ :=
    List.exists_cons_of_ne_nil (Nat.toDigits_ne_nil (n := value) (b := 10))
  have inside : first ∈ Nat.toDigits 10 value := starts ▸ List.mem_cons_self
  exact ⟨first, later, starts, Nat.isDigit_of_mem_toDigits (by decide) (by decide) inside⟩

namespace Numeral

/-- The numeral of a natural number. -/
def ofNat (value : Nat) : Numeral where
  negative := false
  whole := (Nat.toDigits 10 value).map fun c => c.toNat - 48
  fraction := none
  exponent := none

theorem number_ofNat (value : Nat) : number (ofNat value).whole = value := by
  have same := Nat.ofDigitChars_ten_toDigits (n := value)
  simp only [Nat.ofDigitChars_eq_foldl, Nat.mul_comm 10] at same
  rw [number, ofNat, List.foldl_map]
  exact same

/-- A number that 64 bits hold stands for itself. -/
theorem value?_ofNat {value : Nat} (fits : value ≤ wordLimit) :
    (ofNat value).value? = some (.natural value) := by
  have whole := number_ofNat value
  have appended : appendDigits 0 (ofNat value).whole = (value, (ofNat value).whole.length) := by
    rw [appendDigits_of_le]
    · exact Prod.ext whole rfl
    · exact Nat.le_trans (Nat.le_of_eq whole) fits
  simp only [value?, appended]
  rfl

theorem isDigit_head_of_delimited {rest : List Char} (delimited : Delimited rest) :
    rest.takeWhile Char.isDigit = [] ∧ rest.dropWhile Char.isDigit = rest := by
  cases delimited with
  | finished => exact ⟨rfl, rfl⟩
  | comma rest => exact ⟨rfl, rfl⟩
  | bracket rest => exact ⟨rfl, rfl⟩
  | brace rest => exact ⟨rfl, rfl⟩

theorem digits_toDigits (value : Nat) {rest : List Char} (delimited : Delimited rest) :
    digits (Nat.toDigits 10 value ++ rest) = ((ofNat value).whole, rest) := by
  have allDigits : ∀ c ∈ Nat.toDigits 10 value, c.isDigit = true := fun c inside =>
    Nat.isDigit_of_mem_toDigits (by decide) (by decide) inside
  obtain ⟨taken, left⟩ := isDigit_head_of_delimited delimited
  rw [digits, List.takeWhile_append_of_pos allDigits, List.dropWhile_append_of_pos allDigits,
    taken, left, List.append_nil]
  rfl

theorem readFraction?_of_delimited {rest : List Char} (delimited : Delimited rest) :
    readFraction? rest = some (none, rest) := by
  cases delimited <;> rfl

theorem readExponent?_of_delimited {rest : List Char} (delimited : Delimited rest) :
    readExponent? rest = some (none, rest) := by
  cases delimited <;> rfl

/-- Zero is the only number whose digits start with zero. -/
theorem length_whole_of_head? {value : Nat} (zero : (ofNat value).whole.head? = some 0) :
    (ofNat value).whole.length = 1 := by
  cases value with
  | zero => rfl
  | succ value =>
    rw [ofNat, List.head?_map, Option.map_eq_some_iff] at zero
    obtain ⟨first, isFirst, code⟩ := zero
    have digit : first.isDigit = true :=
      Nat.isDigit_of_mem_toDigits (by decide) (by decide) (List.mem_of_head? isFirst)
    have first_eq : first = '0' := by
      obtain ⟨least, _⟩ := Char.isDigit_iff_toNat.mp digit
      apply Char.toNat_inj.mp
      exact Nat.le_antisymm (Nat.sub_eq_zero_iff_le.mp code) least
    rw [first_eq] at isFirst
    exact absurd isFirst (head?_toDigits_ne (Nat.succ_pos value))

theorem readUnsigned?_toDigits (value : Nat) {rest : List Char} (delimited : Delimited rest) :
    readUnsigned? false (Nat.toDigits 10 value ++ rest) = some (ofNat value, rest) := by
  have nonempty : (ofNat value).whole ≠ [] := by simp [ofNat]
  have wellFormed : guard (f := Option) ((ofNat value).whole ≠ [] ∧
      ((ofNat value).whole.head? = some 0 → (ofNat value).whole.length = 1)) = some () :=
    if_pos ⟨nonempty, length_whole_of_head?⟩
  rw [readUnsigned?, digits_toDigits value delimited]
  dsimp only
  rw [wellFormed]
  simp only [readFraction?_of_delimited delimited, readExponent?_of_delimited delimited,
    Option.pure_def, Option.bind_eq_bind, Option.bind_some]
  rfl

/-- A natural number is read from its digits. -/
theorem read?_toDigits (value : Nat) {rest : List Char} (delimited : Delimited rest) :
    read? (Nat.toDigits 10 value ++ rest) = some (ofNat value, rest) := by
  obtain ⟨first, later, starts, digit⟩ := toDigits_eq_cons value
  have unsigned := readUnsigned?_toDigits value delimited
  unfold read?
  split
  · next _ sign =>
    rw [starts] at sign
    rw [List.head_eq_of_cons_eq sign] at digit
    contradiction
  · exact unsigned

end Numeral

end Numbers

section Strings

/-- How a character is written inside a string, and the piece that it is read as. -/
inductive Escaped (c : Char) : List Char → Piece → Prop
  | letter {letter : Char} (escapes : escaped? letter = some c) :
    Escaped c ['\\', letter] (.char c)
  | code (control : c.toNat < 32) :
    Escaped c ('\\' :: 'u' :: '0' :: '0' :: Hex.digitPair (UInt8.ofNat c.toNat)) (.unit c.toNat)
  | plain (noQuote : c ≠ '"') (noBackslash : c ≠ '\\') (printable : ¬c < ' ') :
    Escaped c [c] (.char c)

theorem escaped_escape (c : Char) : ∃ piece, Escaped c (Value.escape c) piece := by
  by_cases lettered : c ∈ ['"', '\\', '\x08', '\t', '\n', '\x0c', '\r']
  · simp only [List.mem_cons, List.not_mem_nil, or_false] at lettered
    rcases lettered with rfl | rfl | rfl | rfl | rfl | rfl | rfl <;> exact ⟨_, .letter rfl⟩
  · simp only [List.mem_cons, List.not_mem_nil, or_false, not_or] at lettered
    obtain ⟨quote, backslash, backspace, tab, newline, feed, carriage⟩ := lettered
    simp only [Value.escape, if_neg quote, if_neg backslash, if_neg backspace, if_neg tab,
      if_neg newline, if_neg feed, if_neg carriage]
    by_cases control : c < ' '
    · rw [if_pos control]
      exact ⟨_, .code control⟩
    · rw [if_neg control]
      exact ⟨_, .plain quote backslash control⟩

/-- The two digits of a control character are read as its code. -/
theorem hexUnit?_digitPair {code : Nat} (control : code < 32) :
    hexUnit? '0' '0' (Hex.digit (code / 16)) (Hex.digit (code % 16)) = some code := by
  have table : ∀ code : Fin 32,
      hexUnit? '0' '0' (Hex.digit (code / 16)) (Hex.digit (code % 16)) = some code.val := by decide
  exact table ⟨code, control⟩

theorem pieces?_of_escaped {c : Char} {written : List Char} {piece : Piece}
    (escaped : Escaped c written piece) {text rest : List Char} {later : List Piece}
    (read : pieces? text = some (later, rest)) :
    pieces? (written ++ text) = some (piece :: later, rest) := by
  cases escaped with
  | @letter letter escapes =>
    show pieces? ('\\' :: letter :: text) = _
    rw [pieces?, escapes, read]
    · rfl
    · rintro a b c d rest rfl
      contradiction
  | code control =>
    have small : c.toNat < UInt8.size := Nat.lt_trans control (by decide)
    have code := hexUnit?_digitPair control
    show pieces? ('\\' :: 'u' :: '0' :: '0' :: Hex.digit ((UInt8.ofNat c.toNat).toNat / 16) ::
      Hex.digit ((UInt8.ofNat c.toNat).toNat % 16) :: text) = _
    rw [pieces?, UInt8.toNat_ofNat_of_lt' small, code, read]
    rfl
  | plain noQuote noBackslash printable =>
    show pieces? (c :: text) = _
    rw [pieces?, if_neg printable, read]
    · rfl
    · exact noQuote
    · rintro a b c d rest rfl
      contradiction
    · rintro letter rest rfl
      contradiction

/-- A code below the halves of characters stands for its character, whatever follows. -/
theorem content?_unit {code : Nat} (low : code < 0xD800) (later : List Piece) :
    content? (.unit code :: later) = (content? later).map (Char.ofNat code :: ·) := by
  have notHigh : isHighHalf code = false := by
    rw [isHighHalf, decide_eq_false (Nat.not_le_of_lt low), Bool.false_and]
  have notLow : isLowHalf code = false := by
    rw [isLowHalf, decide_eq_false (Nat.not_le_of_lt (Nat.lt_trans low (by decide))),
      Bool.false_and]
  -- A code is only looked at together with the next one if that is a code, too.
  cases later with
  | nil => simp only [content?, notHigh, notLow, Bool.or_self, Bool.false_eq_true, if_false]
  | cons next later =>
    cases next with
    | char c => simp only [content?, notHigh, notLow, Bool.or_self, Bool.false_eq_true, if_false]
    | unit next =>
      simp only [content?, notHigh, notLow, Bool.false_and, Bool.or_self, Bool.false_eq_true,
        if_false]

theorem content?_of_escaped {c : Char} {written : List Char} {piece : Piece}
    (escaped : Escaped c written piece) {later : List Piece} {content : List Char}
    (read : content? later = some content) : content? (piece :: later) = some (c :: content) := by
  cases escaped with
  | letter escapes => rw [content?, read, Option.map_some]
  | plain noQuote noBackslash printable => rw [content?, read, Option.map_some]
  | code control =>
    rw [content?_unit (Nat.lt_trans control (by decide)), read, Option.map_some, Char.ofNat_toNat]

/-- The pieces of a string that was written give its characters again. -/
theorem pieces?_quoted (content rest : List Char) :
    ∃ pieces, pieces? (content.flatMap Value.escape ++ '"' :: rest) = some (pieces, rest) ∧
      content? pieces = some content := by
  induction content with
  | nil => exact ⟨[], by rw [List.flatMap_nil, List.nil_append, pieces?], rfl⟩
  | cons c later hypothesis =>
    obtain ⟨pieces, read, same⟩ := hypothesis
    obtain ⟨piece, escaped⟩ := escaped_escape c
    refine ⟨piece :: pieces, ?_, content?_of_escaped escaped same⟩
    rw [List.flatMap_cons, List.append_assoc]
    exact pieces?_of_escaped escaped read

end Strings

end SnpTestbed.Json
