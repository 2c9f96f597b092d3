import SnpTestbed.Json.Numeral

/-!
# Documents as far as they can be read

Reading a JSON text never fails here: it yields what stands in the text in
order, up to the first spot where no well-formed text goes on, and marks that
spot. Whoever walks the document in order meets the marks exactly where a
one-pass reader would stop, so the first complaint in the walk is the first one
of the text.

Numbers stay as written, and a string with an escape for half a character has no
content: both matter only to those who look at the value.
-/
namespace SnpTestbed.Json

/-- What stands in a text. -/
inductive Document
  | null
  | boolean (value : Bool)
  | number (numeral : Numeral)
  | string (content : Option (List Char))
  | array (items : List Document) (closed : Bool)
  | object (members : List (Option (List Char) × Document)) (closed : Bool)
  | damaged

/-- Whether a character may stand between the parts of a text. -/
def isSpace (c : Char) : Bool := c == ' ' || c == '\n' || c == '\t' || c == '\r'

/-- A text from its first part on. -/
def skipSpace (text : List Char) : List Char := text.dropWhile isSpace

/-- A piece of a string: a character, or the number of an escape. -/
inductive Piece
  | char (c : Char)
  | unit (code : Nat)

/-- The value of a hexadecimal digit. -/
def hexValue? (c : Char) : Option Nat :=
  if '0' ≤ c ∧ c ≤ '9' then some (c.toNat - 48)
  else if 'a' ≤ c ∧ c ≤ 'f' then some (c.toNat - 87)
  else if 'A' ≤ c ∧ c ≤ 'F' then some (c.toNat - 55)
  else none

/-- The number of four hexadecimal digits. -/
def hexUnit? (a b c d : Char) : Option Nat := do
  return ((← hexValue? a) * 16 + (← hexValue? b)) * 256 + ((← hexValue? c) * 16 + (← hexValue? d))

/-- The character that a letter behind a backslash stands for. -/
def escaped? : Char → Option Char
  | '"' => some '"'
  | '\\' => some '\\'
  | '/' => some '/'
  | 'b' => some '\x08'
  | 'f' => some '\x0c'
  | 'n' => some '\n'
  | 'r' => some '\r'
  | 't' => some '\t'
  | _ => none

/-- The pieces of a string behind its opening quote, and what follows its closing one. -/
def pieces? : List Char → Option (List Piece × List Char)
  | [] => none
  | '"' :: rest => some ([], rest)
  | '\\' :: 'u' :: a :: b :: c :: d :: rest => do
    let code ← hexUnit? a b c d
    let (later, rest) ← pieces? rest
    return (.unit code :: later, rest)
  | '\\' :: letter :: rest => do
    let c ← escaped? letter
    let (later, rest) ← pieces? rest
    return (.char c :: later, rest)
  | c :: rest =>
    if c < ' ' then none
    else do
      let (later, rest) ← pieces? rest
      return (.char c :: later, rest)

/-- Whether a number is the first half of a character beyond 16 bits. -/
def isHighHalf (code : Nat) : Bool := 0xD800 ≤ code && code ≤ 0xDBFF

/-- Whether a number is the second half of a character beyond 16 bits. -/
def isLowHalf (code : Nat) : Bool := 0xDC00 ≤ code && code ≤ 0xDFFF

/-- The characters of the pieces, unless a half stands alone. -/
def content? : List Piece → Option (List Char)
  | [] => some []
  | .char c :: rest => (content? rest).map (c :: ·)
  | .unit high :: .unit low :: rest =>
    if isHighHalf high && isLowHalf low then
      (content? rest).map (Char.ofNat (0x10000 + (high - 0xD800) * 0x400 + (low - 0xDC00)) :: ·)
    else if isHighHalf high || isLowHalf high then none
    else (content? (.unit low :: rest)).map (Char.ofNat high :: ·)
  | .unit code :: rest =>
    if isHighHalf code || isLowHalf code then none
    else (content? rest).map (Char.ofNat code :: ·)

namespace Document

/-- A document and, unless reading stopped inside it, what follows it. -/
abbrev Reading := Document × Option (List Char)

/-- Reads a string behind its opening quote. -/
def readString (text : List Char) : Reading :=
  match pieces? text with
  | none => (.damaged, none)
  | some (pieces, rest) => (.string (content? pieces), some rest)

/-- Reads a numeral. -/
def readNumber (text : List Char) : Reading :=
  match Numeral.read? text with
  | none => (.damaged, none)
  | some (numeral, rest) => (.number numeral, some rest)

mutual

/-- Reads one value; blanks before it are skipped. -/
def readValue : (fuel : Nat) → List Char → Reading
  | 0, _ => (.damaged, none)
  | fuel + 1, text =>
    match skipSpace text with
    | 'n' :: 'u' :: 'l' :: 'l' :: rest => (.null, some rest)
    | 't' :: 'r' :: 'u' :: 'e' :: rest => (.boolean true, some rest)
    | 'f' :: 'a' :: 'l' :: 's' :: 'e' :: rest => (.boolean false, some rest)
    | '"' :: rest => readString rest
    | '[' :: rest =>
      match skipSpace rest with
      | ']' :: rest => (.array [] true, some rest)
      | _ =>
        let (items, closed, rest) := readItems fuel rest
        (.array items closed, rest)
    | '\x7b' :: rest =>
      match skipSpace rest with
      | '\x7d' :: rest => (.object [] true, some rest)
      | _ =>
        let (members, closed, rest) := readMembers fuel rest
        (.object members closed, rest)
    | text => readNumber text

/-- Reads items up to the end of an array, at least one. -/
def readItems : (fuel : Nat) → List Char → List Document × Bool × Option (List Char)
  | 0, _ => ([], false, none)
  | fuel + 1, text =>
    match readValue fuel text with
    | (item, none) => ([item], false, none)
    | (item, some rest) =>
      match skipSpace rest with
      | ']' :: rest => ([item], true, some rest)
      | ',' :: rest =>
        let (items, closed, rest) := readItems fuel rest
        (item :: items, closed, rest)
      | _ => ([item], false, none)

/-- Reads members up to the end of an object, at least one. -/
def readMembers : (fuel : Nat) → List Char →
    List (Option (List Char) × Document) × Bool × Option (List Char)
  | 0, _ => ([], false, none)
  | fuel + 1, text =>
    match skipSpace text with
    | '"' :: rest =>
      match pieces? rest with
      | none => ([], false, none)
      | some (pieces, rest) =>
        let key := content? pieces
        match skipSpace rest with
        | ':' :: rest =>
          match readValue fuel rest with
          | (value, none) => ([(key, value)], false, none)
          | (value, some rest) =>
            match skipSpace rest with
            | '\x7d' :: rest => ([(key, value)], true, some rest)
            | ',' :: rest =>
              let (members, closed, rest) := readMembers fuel rest
              ((key, value) :: members, closed, rest)
            | _ => ([(key, value)], false, none)
        | _ => ([(key, .damaged)], false, none)
    | _ => ([], false, none)

end

mutual

/-- Whether nothing in a document stopped the reading. -/
def isWhole : Document → Bool
  | .null => true
  | .boolean _ => true
  | .number _ => true
  | .string _ => true
  | .array items closed => allWhole items && closed
  | .object members closed => membersWhole members && closed
  | .damaged => false

/-- Whether nothing in any of the documents stopped the reading. -/
def allWhole : List Document → Bool
  | [] => true
  | item :: rest => isWhole item && allWhole rest

/-- Whether nothing in any of the members stopped the reading. -/
def membersWhole : List (Option (List Char) × Document) → Bool
  | [] => true
  | (_, value) :: rest => isWhole value && membersWhole rest

end

/-- Reads a text, and tells whether only blanks follow its first value. -/
def read (text : String) : Document × Bool :=
  let characters := text.toList
  match readValue (2 * characters.length + 2) characters with
  | (document, none) => (document, false)
  | (document, some rest) => (document, skipSpace rest == [])

end Document

end SnpTestbed.Json
