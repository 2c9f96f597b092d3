/-!
# Blank characters and lines

The blank characters are those with the Unicode property `White_Space`. Lines
end at a line feed, and a carriage return before it belongs to the line end.
-/
namespace SnpTestbed.Blank

/-- The code points with the property `White_Space`. -/
def isBlankCode (code : Nat) : Bool :=
  (9 ≤ code && code ≤ 13) || code == 0x20 || code == 0x85 || code == 0xA0 || code == 0x1680 ||
    (0x2000 ≤ code && code ≤ 0x200A) || code == 0x2028 || code == 0x2029 || code == 0x202F ||
    code == 0x205F || code == 0x3000

/-- Whether a character is blank. -/
def isBlank (c : Char) : Bool := isBlankCode c.toNat

/-- A text without the blanks at its two ends. -/
def trim (text : List Char) : List Char :=
  ((text.dropWhile isBlank).reverse.dropWhile isBlank).reverse

/-- A line without the carriage return at its end. -/
def withoutReturn (line : List Char) : List Char :=
  if line.getLast? = some '\r' then line.dropLast else line

/-- The lines of a text whose current line, read backwards, is `line`. -/
def linesFrom (line : List Char) : List Char → List (List Char)
  | [] => if line = [] then [] else [line.reverse]
  | c :: rest =>
    if c = '\n' then withoutReturn line.reverse :: linesFrom [] rest
    else linesFrom (c :: line) rest

/-- The lines of a text; nothing follows the last line end. -/
def lines (text : List Char) : List (List Char) := linesFrom [] text

end SnpTestbed.Blank
