import SnpTestbed.Text.Hex

/-!
# Writing JSON

The values that are ever written, and their compact text: no blanks, members in
the given order, and escapes only for quotes, backslashes and control
characters.
-/
namespace SnpTestbed.Json

/-- A value to write. -/
inductive Value
  | null
  | natural (value : Nat)
  | string (content : String)
  | array (items : List Value)
  | object (members : List (String × Value))

namespace Value

/-- A character inside a string. -/
def escape (c : Char) : List Char :=
  if c = '"' then ['\\', '"']
  else if c = '\\' then ['\\', '\\']
  else if c = '\x08' then ['\\', 'b']
  else if c = '\t' then ['\\', 't']
  else if c = '\n' then ['\\', 'n']
  else if c = '\x0c' then ['\\', 'f']
  else if c = '\r' then ['\\', 'r']
  else if c < ' ' then '\\' :: 'u' :: '0' :: '0' :: Hex.digitPair (UInt8.ofNat c.toNat)
  else [c]

/-- A string in quotes. -/
def quote (content : String) : List Char :=
  '"' :: (content.toList.flatMap escape ++ ['"'])

mutual

/-- The characters of a value. -/
def characters : Value → List Char
  | .null => "null".toList
  | .natural value => Nat.toDigits 10 value
  | .string content => quote content
  | .array items => '[' :: (itemCharacters items ++ [']'])
  | .object members => '\x7b' :: (memberCharacters members ++ ['\x7d'])

/-- The characters of items, with commas between them. -/
def itemCharacters : List Value → List Char
  | [] => []
  | [item] => characters item
  | item :: rest => characters item ++ ',' :: itemCharacters rest

/-- The characters of members, with commas between them. -/
def memberCharacters : List (String × Value) → List Char
  | [] => []
  | [(key, value)] => quote key ++ ':' :: characters value
  | (key, value) :: rest => quote key ++ ':' :: (characters value ++ ',' :: memberCharacters rest)

end

/-- The compact text of a value. -/
def text (value : Value) : String := String.ofList (characters value)

/-- A value or `null`. -/
def optional {α : Type} (write : α → Value) : Option α → Value
  | none => .null
  | some value => write value

end Value

end SnpTestbed.Json
