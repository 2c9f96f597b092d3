import SnpTestbed.Text.Invisible

/-!
# Quoted text

How characters and texts are shown in messages: between quotes, with a backslash
before the quote and the backslash itself, short names for the common controls,
and the code point of whatever else does not show.
-/
namespace SnpTestbed.Quoted

/-- A character between quotes of the given kind. -/
def escape (mark c : Char) : List Char :=
  if c = '\x00' then ['\\', '0']
  else if c = '\t' then ['\\', 't']
  else if c = '\n' then ['\\', 'n']
  else if c = '\r' then ['\\', 'r']
  else if c = '\\' ∨ c = mark then ['\\', c]
  else if Invisible.isInvisible c then
    '\\' :: 'u' :: '\x7b' :: (Nat.toDigits 16 c.toNat ++ ['\x7d'])
  else [c]

/-- Characters between two marks. -/
def enclose (mark : Char) (content : List Char) : String :=
  String.ofList (mark :: (content.flatMap (escape mark) ++ [mark]))

/-- A text in double quotes. -/
def text (content : String) : String := enclose '"' content.toList

/-- A character in single quotes. -/
def character (c : Char) : String := enclose '\'' [c]

end SnpTestbed.Quoted
