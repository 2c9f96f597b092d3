import SnpTestbed.Json.Fault

/-!
# Reading values out of documents

A decoder walks a document in the order of its text and stops at the first
complaint. Records are read from objects, whose unknown members are skipped, or
from arrays of their fields in order; each field is read where it stands and put
into a draft, and what is still missing is judged at the end.
-/
namespace SnpTestbed.Json

/-- Reads a value out of a document. -/
abbrev Decoder (α : Type) := Document → Except Fault α

namespace Decode

/-- The complaint about a document of another kind than expected. -/
def mismatch (expected : Expected) : Document → Fault
  | .null => .wrongKind .null expected
  | .boolean value => .wrongKind (.boolean value) expected
  | .number numeral =>
    match numeral.value? with
    | some value => .wrongKind (.number value) expected
    | none => .malformed
  | .string (some content) => .wrongKind (.string (String.ofList content)) expected
  | .string none => .malformed
  | .array _ _ => .wrongKind .array expected
  | .object _ _ => .wrongKind .object expected
  | .damaged => .malformed

/-- Reads a string. -/
def text : Decoder String
  | .string (some content) => .ok (String.ofList content)
  | other => .error (mismatch .string other)

/-- Reads a whole number below `2 ^ bits`. -/
def word (bits : Nat) : Decoder Nat
  | .number numeral =>
    match numeral.value? with
    | some (.natural value) =>
      if value < Nat.pow 2 bits then .ok value
      else .error (.outOfRange (.natural value) (.word bits))
    | some (.negative magnitude) => .error (.outOfRange (.negative magnitude) (.word bits))
    | some (.floating value) => .error (.wrongKind (.number (.floating value)) (.word bits))
    | none => .error .malformed
  | other => .error (mismatch (.word bits) other)

/-- Reads a byte. -/
def byte : Decoder UInt8 := fun document => (word 8 document).map UInt8.ofNat

/-- Reads a 32-bit word. -/
def word32 : Decoder UInt32 := fun document => (word 32 document).map UInt32.ofNat

/-- Reads a 64-bit word. -/
def word64 : Decoder UInt64 := fun document => (word 64 document).map UInt64.ofNat

/-- Reads `null`. -/
def unit : Decoder Unit
  | .null => .ok ()
  | other => .error (mismatch .unit other)

/-- Reads a value, or `null` for none. -/
def optional {α : Type} (decoder : Decoder α) : Decoder (Option α)
  | .null => .ok none
  | other => (decoder other).map some

/-- Reads the items of an array. -/
def list {α : Type} (decoder : Decoder α) : Decoder (List α)
  | .array items closed => do
    let values ← items.mapM decoder
    if closed then return values else throw .malformed
  | other => .error (mismatch .array other)

/-- Reads the members of an object with any keys. -/
def members {α : Type} (decoder : Decoder α) : Decoder (List (String × α))
  | .object members closed => do
    let values ← members.mapM fun (key, value) =>
      match key with
      | none => .error .malformed
      | some key => (decoder value).map ((String.ofList key, ·))
    if closed then return values else throw .malformed
  | other => .error (mismatch .object other)

/-- What belongs to a variant: nothing, or a payload. -/
inductive Variant (α : Type)
  | bare (value : α)
  | loaded (decoder : Decoder α)

/-- Reads what stands under the name of a variant. -/
def Variant.read {α : Type} : Variant α → Decoder α
  | .bare value => fun document => (unit document).map fun _ => value
  | .loaded decoder => decoder

/-- The variant of a name. -/
def Variant.named {α : Type} (variants : List (String × Variant α)) (name : String) :
    Except Fault (Variant α) :=
  match variants.lookup name with
  | some variant => .ok variant
  | none => .error (.unknownVariant name (variants.map Prod.fst))

/-- Reads one of several variants: a bare one by its name, any by an object with its name as only
key. -/
def variant {α : Type} (variants : List (String × Variant α)) : Decoder α
  | .string (some name) => do
    match ← Variant.named variants (String.ofList name) with
    | .bare value => return value
    | .loaded _ => throw (.wrongKind .bareVariant .payload)
  | .object ((some name, value) :: later) closed => do
    let chosen ← Variant.named variants (String.ofList name)
    let result ← chosen.read value
    if later.isEmpty && closed then return result else throw .malformed
  | _ => .error .malformed

/-- A field of a record that is drafted as `δ`. -/
structure Field (δ : Type) where
  name : String
  isSet : δ → Bool
  read : Document → δ → Except Fault δ

/-- How the fields of a record were given. -/
inductive Layout
  | named
  | listed (record : String) (fields : Nat)

/-- A field that has no default, the one at `index`. -/
def Layout.require {α : Type} (layout : Layout) (index : Nat) (name : String) :
    Option α → Except Fault α
  | some value => .ok value
  | none =>
    match layout with
    | .named => .error (.missingField name)
    | .listed record fields => .error (.tooFewItems index record fields)

/-- How a record is read: its fields in order, and what a draft amounts to. -/
structure Shape (δ α : Type) where
  name : String
  blank : δ
  fields : List (Field δ)
  finish : Layout → δ → Except Fault α

namespace Shape

variable {δ α : Type}

/-- Reads one member of an object into a draft. -/
def readMember (shape : Shape δ α) (draft : δ) (member : Option (List Char) × Document) :
    Except Fault δ :=
  match member.1 with
  | none => .error .malformed
  | some key =>
    match shape.fields.find? fun field => field.name == String.ofList key with
    | none => if member.2.isWhole then .ok draft else .error .malformed
    | some field =>
      if field.isSet draft then .error (.duplicateField field.name) else field.read member.2 draft

/-- Reads the items of an array into the fields in order; items may run out, fields may not. -/
def readItems (closed : Bool) : List (Field δ) → List Document → δ → Except Fault δ
  | _, [], draft => if closed then .ok draft else .error .malformed
  | [], _ :: _, _ => .error .malformed
  | field :: fields, item :: items, draft => do
    readItems closed fields items (← field.read item draft)

/-- Reads a record. -/
def read (shape : Shape δ α) : Decoder α
  | .object members closed => do
    let draft ← members.foldlM shape.readMember shape.blank
    if closed then shape.finish .named draft else throw .malformed
  | .array items closed => do
    let draft ← readItems closed shape.fields items shape.blank
    shape.finish (.listed shape.name shape.fields.length) draft
  | other => .error (mismatch (.record shape.name) other)

end Shape

/-- Reads a text that holds one document and nothing else. -/
def fromText {α : Type} (decoder : Decoder α) (text : String) : Except Fault α :=
  let (document, clean) := Document.read text
  do
    let value ← decoder document
    if clean then return value else throw .malformed

end Decode

end SnpTestbed.Json
