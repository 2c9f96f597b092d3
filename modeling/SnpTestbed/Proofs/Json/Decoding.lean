import SnpTestbed.Json.Decode
import SnpTestbed.Proofs.Json.Reading

/-!
# Decoders that read back what was written

`Inverts` ties a decoder to a way of writing: whatever value is written, the decoder reads
that value from its document. It holds of the decoders for texts and numbers and is handed
on by those for options, lists and members. A record is read back by `read_of_fills` if its
documents stand in the order of its fields and each field takes up its own.
-/
namespace SnpTestbed.Json

namespace Value

theorem itemDocuments_eq_map (items : List Value) : itemDocuments items = items.map document := by
  induction items with
  | nil => rfl
  | cons item rest hypothesis => rw [itemDocuments, hypothesis, List.map_cons]

theorem memberDocuments_eq_map (members : List (String × Value)) :
    memberDocuments members =
      members.map fun member => (some member.1.toList, document member.2) := by
  induction members with
  | nil => rfl
  | cons member rest hypothesis => rw [memberDocuments, hypothesis, List.map_cons]

end Value

namespace Decode

/-- The decoder reads back every value that is written in this way. -/
def Inverts {α : Type} (decoder : Decoder α) (write : α → Value) : Prop :=
  ∀ value, decoder (write value).document = .ok value

section Parts

variable {α : Type} {decoder : Decoder α} {write : α → Value}

theorem text_inverts : Inverts text Value.string := by
  intro content
  rw [Value.document, text, String.ofList_toList]

/-- A number of at most 64 bits is read back by a decoder for as many bits. -/
theorem word_of_lt {bits value : Nat} (narrow : bits ≤ 64) (small : value < Nat.pow 2 bits) :
    word bits (Value.natural value).document = .ok value := by
  have fits : value ≤ wordLimit := by
    have limit : Nat.pow 2 bits ≤ UInt64.size := Nat.pow_le_pow_right (by decide) narrow
    exact Nat.le_sub_one_of_lt (Nat.lt_of_lt_of_le small limit)
  simp only [Value.document, word, Numeral.value?_ofNat fits, if_pos small]

theorem word32_inverts : Inverts word32 fun word => .natural word.toNat := by
  intro word
  rw [word32, word_of_lt (by decide) word.toNat_lt, Except.map, UInt32.ofNat_toNat]

theorem word64_inverts : Inverts word64 fun word => .natural word.toNat := by
  intro word
  rw [word64, word_of_lt (by decide) word.toNat_lt, Except.map, UInt64.ofNat_toNat]

/-- An optional value is read back if no value looks like the absence of one. -/
theorem optional_inverts (inverts : Inverts decoder write)
    (visible : ∀ value, (write value).document ≠ .null) :
    Inverts (optional decoder) (Value.optional write) := by
  intro value
  cases value with
  | none => rfl
  | some value =>
    rw [Value.optional, optional, inverts value]
    · rfl
    · exact visible value

theorem mapM_map_of_ok {γ : Type} {read : γ → Except Fault α} {describe : α → γ}
    (inverts : ∀ value, read (describe value) = .ok value) (values : List α) :
    (values.map describe).mapM read = .ok values := by
  induction values with
  | nil => rfl
  | cons value rest hypothesis =>
    rw [List.map_cons, List.mapM_cons, inverts value, hypothesis]
    rfl

theorem list_inverts (inverts : Inverts decoder write) :
    Inverts (list decoder) fun values => .array (values.map write) := by
  intro values
  have items : (values.map (Value.document ∘ write)).mapM decoder = .ok values :=
    mapM_map_of_ok inverts values
  rw [Value.document, Value.itemDocuments_eq_map, List.map_map, list, items]
  rfl

theorem members_inverts (inverts : Inverts decoder write) :
    Inverts (members decoder) fun entries =>
      .object (entries.map fun entry => (entry.1, write entry.2)) := by
  intro entries
  rw [Value.document, Value.memberDocuments_eq_map, List.map_map, members, mapM_map_of_ok]
  · rfl
  · rintro ⟨key, value⟩
    simp only [Function.comp_apply, inverts value, String.ofList_toList]
    rfl

/-- A bare variant is read back by its name. -/
theorem variant_of_lookup {variants : List (String × Variant α)} {name : String} {value : α}
    (known : variants.lookup name = some (.bare value)) :
    variant variants (Value.string name).document = .ok value := by
  rw [Value.document, variant, String.ofList_toList, Variant.named, known]
  rfl

/-- A text that holds what was written gives the value back. -/
theorem fromText_of_inverts (inverts : Inverts decoder write) (value : α) :
    fromText decoder (write value).text = .ok value := by
  simp only [fromText, Document.read_text, inverts value]
  rfl

end Parts

namespace Shape

variable {δ α : Type}

/-- Fields that take up documents one after the other and lead from one draft to another. -/
inductive Fills : List (Field δ) → List Document → δ → δ → Prop
  | done (draft : δ) : Fills [] [] draft draft
  | field {field : Field δ} {fields : List (Field δ)} {document : Document}
    {documents : List Document} {draft next final : δ}
    (reads : field.read document draft = .ok next) (unset : field.isSet draft = false)
    (later : Fills fields documents next final) :
    Fills (field :: fields) (document :: documents) draft final

/-- A field that stores what its decoder reads. -/
theorem stores_of_ok {β : Type} {result : Except Fault β} {value : β} (ok : result = .ok value)
    (store : β → δ) : (do return store (← result)) = (.ok (store value) : Except Fault δ) := by
  rw [ok]
  rfl

/-- Documents under the names of fields. -/
def named (fields : List (Field δ)) (documents : List Document) :
    List (Option (List Char) × Document) :=
  List.zipWith (fun field document => (some field.name.toList, document)) fields documents

/-- A field whose name no other field has is found by it. -/
theorem find?_of_nodup {fields : List (Field δ)} (distinct : (fields.map Field.name).Nodup)
    {field : Field δ} (inside : field ∈ fields) :
    (fields.find? fun candidate => candidate.name == field.name) = some field := by
  induction fields with
  | nil => contradiction
  | cons first rest hypothesis =>
    rw [List.map_cons, List.nodup_cons] at distinct
    obtain ⟨fresh, distinct⟩ := distinct
    rcases List.mem_cons.mp inside with rfl | later
    · exact List.find?_cons_of_pos (beq_self_eq_true field.name)
    · have differs : first.name ≠ field.name := fun same =>
        fresh (same ▸ List.mem_map_of_mem later)
      rw [List.find?_cons, beq_eq_false_iff_ne.mpr differs]
      exact hypothesis distinct later

theorem foldlM_readMember {shape : Shape δ α} (distinct : (shape.fields.map Field.name).Nodup)
    {fields : List (Field δ)} (inside : ∀ field ∈ fields, field ∈ shape.fields)
    {documents : List Document} {draft final : δ} (fills : Fills fields documents draft final) :
    (named fields documents).foldlM shape.readMember draft = .ok final := by
  induction fills with
  | done draft => rfl
  | @field field fields document documents draft next final reads unset later hypothesis =>
    obtain ⟨first, others⟩ := List.forall_mem_cons.mp inside
    have taken : shape.readMember draft (some field.name.toList, document) = .ok next := by
      simp only [readMember, String.ofList_toList, find?_of_nodup distinct first, unset,
        Bool.false_eq_true, if_false, reads]
    rw [named, List.zipWith_cons_cons, List.foldlM_cons, taken]
    exact hypothesis others

/-- A record is read from an object with its fields in order. -/
theorem read_of_fills {shape : Shape δ α} (distinct : (shape.fields.map Field.name).Nodup)
    {documents : List Document} {draft : δ}
    (fills : Fills shape.fields documents shape.blank draft) :
    shape.read (.object (named shape.fields documents) true) = shape.finish .named draft := by
  rw [read, foldlM_readMember distinct (fun _ inside => inside) fills]
  rfl

end Shape

end Decode

end SnpTestbed.Json
