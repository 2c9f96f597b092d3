import SnpTestbed.Text.Base64
import SnpTestbed.Text.Blank

/-!
# PEM

A text in PEM form holds blocks between `BEGIN` and `END` lines, and anything
between the blocks is skipped. A block is found by searching for its markers in
order; a text in which one marker is missing holds no further block. Only what
was found is then checked, first block first.
-/
namespace SnpTestbed.Pem

/-- A checked block: its tag, its header lines split at the colon, and its contents. -/
structure Section where
  tag : String
  headers : List (String × String)
  contents : Bytes
  deriving DecidableEq

/-- Why a block is refused. -/
inductive Fault
  | missingBegin
  | missingEnd
  | mismatched (opening closing : String)
  | invalidHeader (line : String)
  | invalidContents
  | notUtf8
  deriving DecidableEq

/-- The text of a fault that has one. -/
def Fault.message? : Fault → Option String
  | .missingBegin => some "missing BEGIN tag"
  | .missingEnd => some "missing END tag"
  | .mismatched opening closing =>
    some ("mismatching BEGIN (\"" ++ opening ++ "\") and END (\"" ++ closing ++ "\") tags")
  | .invalidHeader line => some ("invalid header: " ++ line)
  | .invalidContents => none
  | .notUtf8 => none

/-- How many bytes are read until `marker` is complete, of which `pending` is still to come.
A byte that does not fit is spent, and the search starts over behind it. -/
def markerEnd? (marker : Bytes) (pending : Bytes) : Bytes → Option Nat
  | [] => none
  | byte :: rest =>
    match pending with
    | [] => none
    | [last] => if byte = last then some 1 else (markerEnd? marker marker rest).map (· + 1)
    | next :: later =>
      (markerEnd? marker (if byte = next then later else marker) rest).map (· + 1)

/-- What stands before the first hit of a marker and what follows it. -/
def splitAt? (marker : String) (bytes : Bytes) : Option (Bytes × Bytes) :=
  let sought := Bytes.ofText marker
  (markerEnd? sought sought bytes).map fun position =>
    (bytes.take (position - sought.length), bytes.drop position)

/-- Skips spaces, tabs and line ends. -/
def skipBlank (bytes : Bytes) : Bytes :=
  bytes.dropWhile fun byte => byte == 32 || byte == 9 || byte == 10 || byte == 13

/-- The unchecked parts of a block. -/
structure Candidate where
  opening : Bytes
  payload : Bytes
  closing : Bytes

/-- The first block of a text and what follows it. -/
def nextCandidate? (bytes : Bytes) : Option (Candidate × Bytes) := do
  let (_, bytes) ← splitAt? "-----BEGIN " bytes
  let (opening, bytes) ← splitAt? "-----" bytes
  let (payload, bytes) ← splitAt? "-----END " (skipBlank bytes)
  let (closing, bytes) ← splitAt? "-----" bytes
  return (⟨opening, payload, closing⟩, skipBlank bytes)

/-- At most `fuel` blocks from the start of a text. -/
def candidatesFrom : (fuel : Nat) → Bytes → List Candidate
  | 0, _ => []
  | fuel + 1, bytes =>
    match nextCandidate? bytes with
    | none => []
    | some (candidate, rest) => candidate :: candidatesFrom fuel rest

/-- All blocks of a text; each takes more than one byte. -/
def candidates (bytes : Bytes) : List Candidate := candidatesFrom bytes.length bytes

/-- The header part and the data part of a payload, divided by its first empty line. -/
def divide (payload : Bytes) : Bytes × Bytes :=
  match splitAt? "\n\n" payload with
  | some parts => parts
  | none => (splitAt? "\r\n\r\n" payload).getD ([], payload)

/-- The text of bytes that have to be UTF-8. -/
def text (bytes : Bytes) : Except Fault String :=
  match Bytes.toText? bytes with
  | some text => .ok text
  | none => .error .notUtf8

/-- A header line split at its first colon, both parts trimmed. -/
def header (line : List Char) : Except Fault (String × String) :=
  if line.contains ':' then
    .ok (String.ofList (Blank.trim (line.takeWhile (· != ':'))),
      String.ofList (Blank.trim ((line.dropWhile (· != ':')).drop 1)))
  else .error (.invalidHeader (String.ofList line))

/-- Checks the parts of a block in the order in which their faults are reported. -/
def check (candidate : Candidate) : Except Fault Section := do
  let opening ← text candidate.opening
  if opening = "" then throw .missingBegin
  let closing ← text candidate.closing
  if closing = "" then throw .missingEnd
  if opening ≠ closing then throw (.mismatched opening closing)
  let (headerPart, dataPart) := divide candidate.payload
  let data ← text dataPart
  let some contents := Base64.decode? (data.toList.filter fun c => !Blank.isBlank c)
    | throw .invalidContents
  let headerText ← text headerPart
  let headers ← (Blank.lines headerText.toList).mapM header
  return ⟨opening, headers, contents⟩

/-- Reads all blocks of a text; the first bad block decides. -/
def parse (bytes : Bytes) : Except Fault (List Section) :=
  (candidates bytes).mapM check

end SnpTestbed.Pem
