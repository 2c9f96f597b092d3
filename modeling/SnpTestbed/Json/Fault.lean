import SnpTestbed.Json.Document
import SnpTestbed.Text.Quoted

/-!
# Complaints about documents

A document can be malformed, or well formed so far and not what was expected.
-/
namespace SnpTestbed.Json

/-- What was found in place of something else. -/
inductive Found
  | number (value : NumberValue)
  | boolean (value : Bool)
  | string (content : String)
  | null
  | array
  | object
  | bareVariant
  deriving DecidableEq, Repr

/-- What was expected. -/
inductive Expected
  | string
  | array
  | object
  | record (name : String)
  | word (bits : Nat)
  | unit
  | payload
  | guid
  deriving DecidableEq, Repr

/-- Why a document does not describe a value. -/
inductive Fault
  | malformed
  | wrongKind (found : Found) (expected : Expected)
  | outOfRange (value : NumberValue) (expected : Expected)
  | duplicateField (name : String)
  | missingField (name : String)
  | tooFewItems (count : Nat) (record : String) (fields : Nat)
  | unknownVariant (name : String) (known : List String)
  | invalidGuid
  deriving DecidableEq, Repr

/-- Floating-point numbers in complaints: positional from 0.00001 to below 10^16, and with an
exponent otherwise. -/
def floatStyle : Binary64.Style := ⟨-5, 15⟩

/-- A name between backquotes. -/
def backquoted (name : String) : String := "`" ++ name ++ "`"

/-- A number as it is named in a complaint. -/
def NumberValue.describe : NumberValue → String
  | .natural value => "integer " ++ backquoted (toString value)
  | .negative magnitude => "integer " ++ backquoted ("-" ++ toString magnitude)
  | .floating value => "floating point " ++ backquoted (value.text floatStyle)

/-- What was found, as it is named in a complaint. -/
def Found.describe : Found → String
  | .number value => value.describe
  | .boolean value => "boolean " ++ backquoted (if value then "true" else "false")
  | .string content => "string " ++ Quoted.text content
  | .null => "null"
  | .array => "sequence"
  | .object => "map"
  | .bareVariant => "unit variant"

/-- What was expected, as it is named in a complaint. -/
def Expected.describe : Expected → String
  | .string => "a string"
  | .array => "a sequence"
  | .object => "a map"
  | .record name => "struct " ++ name
  | .word bits => "u" ++ toString bits
  | .unit => "unit"
  | .payload => "newtype variant"
  | .guid => "a formatted UUID string"

/-- The text of a complaint. -/
def Fault.message : Fault → String
  | .malformed => "malformed json"
  | .wrongKind found expected =>
    "invalid type: " ++ found.describe ++ ", expected " ++ expected.describe
  | .outOfRange value expected =>
    "invalid value: " ++ value.describe ++ ", expected " ++ expected.describe
  | .duplicateField name => "duplicate field " ++ backquoted name
  | .missingField name => "missing field " ++ backquoted name
  | .tooFewItems count record fields =>
    "invalid length " ++ toString count ++ ", expected struct " ++ record ++ " with " ++
      toString fields ++ (if fields = 1 then " element" else " elements")
  | .unknownVariant name known =>
    "unknown variant " ++ backquoted name ++ ", expected one of " ++
      ", ".intercalate (known.map backquoted)
  | .invalidGuid => "bad uuid"

end SnpTestbed.Json
