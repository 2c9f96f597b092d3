import SnpTestbed.Fixture.Fetcher
import SnpTestbed.Proofs.Json.Decoding

/-!
# Fixtures survive their text

The compact text of a fixture is read as a document with the fields of every record in
their order, and with `null` for what is absent; `document` says which. From that
document the fixture is read back as it was, whatever its texts and numbers are. Field by
field this is an inverse of a decoder, and `fixtures_readBack` only puts the records
together.
-/
namespace SnpTestbed

open Json Decode

namespace Json.Document

/-- A text in a document. -/
def ofText (content : String) : Document := .string (some content.toList)

/-- A natural number in a document. -/
def ofNat (value : Nat) : Document := .number (.ofNat value)

/-- A value in a document, or `null` for none. -/
def ofOption {α : Type} (describe : α → Document) : Option α → Document
  | none => .null
  | some value => describe value

/-- An object with these members, in this order. -/
def record (members : List (String × Document)) : Document :=
  .object (members.map fun member => (some member.1.toList, member.2)) true

end Json.Document

namespace Json.Value

theorem document_optional {α : Type} {write : α → Value} {describe : α → Document}
    (described : ∀ value, (write value).document = describe value) (value : Option α) :
    (optional write value).document = .ofOption describe value := by
  cases value with
  | none => rfl
  | some value => exact described value

theorem document_array {α : Type} {write : α → Value} {describe : α → Document}
    (described : ∀ value, (write value).document = describe value) (values : List α) :
    (array (values.map write)).document = .array (values.map describe) true := by
  rw [document, itemDocuments_eq_map, List.map_map]
  exact congrArg (Document.array · true) (List.map_congr_left fun value _ => described value)

theorem document_object (members : List (String × Value)) :
    (object members).document =
      .record (members.map fun member => (member.1, member.2.document)) := by
  rw [document, memberDocuments_eq_map, Document.record, List.map_map]
  rfl

end Json.Value

theorem ExitResult.decode_inverts : Inverts decode toValue := by
  intro exit
  cases exit <;> exact variant_of_lookup rfl

theorem ProductLine.decode_inverts : Inverts decode toValue := by
  intro line
  cases line <;> exact variant_of_lookup rfl

namespace Product

/-- The document of a product. -/
def document (product : Product) : Document :=
  .record [
    ("name", .ofText product.line.label),
    ("machine_stepping", .ofOption (fun word => .ofNat word.toNat) product.stepping)]

theorem document_toValue (product : Product) : product.toValue.document = product.document := by
  cases product with
  | mk line stepping => cases stepping <;> rfl

theorem decode_inverts : Inverts decode toValue := by
  intro product
  have fills : Shape.Fills shape.fields
      [product.line.toValue.document,
        (Value.optional (fun word => .natural word.toNat) product.stepping).document]
      {} { line := some product.line, stepping := some product.stepping } :=
    .field (Shape.stores_of_ok (ProductLine.decode_inverts product.line) _) rfl <|
    .field (Shape.stores_of_ok (optional_inverts word32_inverts nofun product.stepping) _) rfl <|
    .done _
  exact (Shape.read_of_fills (by decide) fills).trans rfl

end Product

namespace ReportFixture

/-- The document of a described report. -/
def document (fixture : ReportFixture) : Document :=
  .record [
    ("report_data", .ofText fixture.data),
    ("report", .ofOption .ofText fixture.body),
    ("es_result", .ofText fixture.exit.label),
    ("fw_err", .ofNat fixture.status.raw.toNat)]

theorem document_toValue (fixture : ReportFixture) :
    fixture.toValue.document = fixture.document := by
  cases fixture with
  | mk data body exit status => cases body <;> rfl

theorem read_inverts : Inverts shape.read toValue := by
  intro fixture
  have fills : Shape.Fills shape.fields
      [(Value.string fixture.data).document, (Value.optional .string fixture.body).document,
        fixture.exit.toValue.document, (Value.natural fixture.status.raw.toNat).document]
      {} { data := some fixture.data, body := some fixture.body, exit := some fixture.exit,
           status := some fixture.status.raw } :=
    .field (Shape.stores_of_ok (text_inverts fixture.data) _) rfl <|
    .field (Shape.stores_of_ok (optional_inverts text_inverts nofun fixture.body) _) rfl <|
    .field (Shape.stores_of_ok (ExitResult.decode_inverts fixture.exit) _) rfl <|
    .field (Shape.stores_of_ok (word64_inverts fixture.status.raw) _) rfl <|
    .done _
  exact (Shape.read_of_fills (by decide) fills).trans rfl

end ReportFixture

namespace KeyFixture

/-- The document of a described key. -/
def document (fixture : KeyFixture) : Document :=
  .record [
    ("root_key_select", .ofNat fixture.root.toNat),
    ("guest_field_select", .ofNat fixture.fields.toNat),
    ("vmpl", .ofNat fixture.vmpl.toNat),
    ("guest_svn", .ofNat fixture.guestVersion.toNat),
    ("tcb_version", .ofNat fixture.tcbVersion.toNat),
    ("key", .ofText fixture.key)]

theorem document_toValue (fixture : KeyFixture) : fixture.toValue.document = fixture.document := rfl

theorem read_inverts : Inverts shape.read toValue := by
  intro fixture
  have fills : Shape.Fills shape.fields
      [(Value.natural fixture.root.toNat).document,
        (Value.natural fixture.fields.toNat).document,
        (Value.natural fixture.vmpl.toNat).document,
        (Value.natural fixture.guestVersion.toNat).document,
        (Value.natural fixture.tcbVersion.toNat).document,
        (Value.string fixture.key).document]
      {} { root := some fixture.root, fields := some fixture.fields,
           vmpl := some fixture.vmpl, guestVersion := some fixture.guestVersion,
           tcbVersion := some fixture.tcbVersion, key := some fixture.key } :=
    .field (Shape.stores_of_ok (word32_inverts fixture.root) _) rfl <|
    .field (Shape.stores_of_ok (word64_inverts fixture.fields) _) rfl <|
    .field (Shape.stores_of_ok (word32_inverts fixture.vmpl) _) rfl <|
    .field (Shape.stores_of_ok (word32_inverts fixture.guestVersion) _) rfl <|
    .field (Shape.stores_of_ok (word64_inverts fixture.tcbVersion) _) rfl <|
    .field (Shape.stores_of_ok (text_inverts fixture.key) _) rfl <|
    .done _
  exact (Shape.read_of_fills (by decide) fills).trans rfl

end KeyFixture

namespace DeviceFixture

/-- The document of a described device. -/
def document (fixture : DeviceFixture) : Document :=
  .record [
    ("reports", .array (fixture.reports.map ReportFixture.document) true),
    ("keys", .array (fixture.keys.map KeyFixture.document) true),
    ("certs", .ofText fixture.certificates),
    ("product", .ofOption Product.document fixture.product)]

theorem document_toValue (fixture : DeviceFixture) :
    fixture.toValue.document = fixture.document := by
  rw [toValue, Value.document_object]
  simp only [List.map_cons, List.map_nil, Value.document_array ReportFixture.document_toValue,
    Value.document_array KeyFixture.document_toValue,
    Value.document_optional Product.document_toValue]
  rfl

theorem read_inverts : Inverts shape.read toValue := by
  intro fixture
  have fills : Shape.Fills shape.fields
      [(Value.array (fixture.reports.map ReportFixture.toValue)).document,
        (Value.array (fixture.keys.map KeyFixture.toValue)).document,
        (Value.string fixture.certificates).document,
        (Value.optional Product.toValue fixture.product).document]
      {} { reports := some fixture.reports, keys := some fixture.keys,
           certificates := some fixture.certificates, product := some fixture.product } :=
    .field (Shape.stores_of_ok (list_inverts ReportFixture.read_inverts fixture.reports) _) rfl <|
    .field (Shape.stores_of_ok (list_inverts KeyFixture.read_inverts fixture.keys) _) rfl <|
    .field (Shape.stores_of_ok (text_inverts fixture.certificates) _) rfl <|
    .field (Shape.stores_of_ok
      (optional_inverts Product.decode_inverts nofun fixture.product) _) rfl <|
    .done _
  exact (Shape.read_of_fills (by decide) fills).trans rfl

end DeviceFixture

namespace ResponseFixture

/-- The document of a described response. -/
def document (fixture : ResponseFixture) : Document :=
  .record [
    ("occurrences", .ofOption (fun word => .ofNat word.toNat) fixture.occurrences),
    ("body", .ofText fixture.body),
    ("error", .ofOption .ofText fixture.error)]

theorem document_toValue (fixture : ResponseFixture) :
    fixture.toValue.document = fixture.document := by
  cases fixture with
  | mk occurrences body error => cases occurrences <;> cases error <;> rfl

theorem read_inverts : Inverts shape.read toValue := by
  intro fixture
  have fills : Shape.Fills shape.fields
      [(Value.optional (fun word => .natural word.toNat) fixture.occurrences).document,
        (Value.string fixture.body).document, (Value.optional .string fixture.error).document]
      {} { occurrences := some fixture.occurrences, body := some fixture.body,
           error := some fixture.error } :=
    .field (Shape.stores_of_ok (optional_inverts word64_inverts nofun fixture.occurrences) _) rfl <|
    .field (Shape.stores_of_ok (text_inverts fixture.body) _) rfl <|
    .field (Shape.stores_of_ok (optional_inverts text_inverts nofun fixture.error) _) rfl <|
    .done _
  exact (Shape.read_of_fills (by decide) fills).trans rfl

end ResponseFixture

namespace FetcherFixture

/-- The document of a described fetcher: the responses of each URL, in order of the URLs. -/
def document (fixture : FetcherFixture) : Document :=
  .record [
    ("responses", .record (fixture.responses.entries.map fun entry =>
      (entry.1, .array (entry.2.map ResponseFixture.document) true)))]

theorem document_toValue (fixture : FetcherFixture) :
    fixture.toValue.document = fixture.document := by
  rw [toValue, Value.document_object]
  simp only [List.map_cons, List.map_nil, Value.document_object, List.map_map]
  refine congrArg (fun entries => Document.record [("responses", Document.record entries)]) ?_
  refine List.map_congr_left fun entry _ => ?_
  exact congrArg (entry.1, ·) (Value.document_array ResponseFixture.document_toValue entry.2)

theorem read_inverts : Inverts shape.read toValue := by
  intro fixture
  have responses := members_inverts (list_inverts ResponseFixture.read_inverts)
    fixture.responses.entries
  have fills : Shape.Fills shape.fields
      [(Value.object (fixture.responses.entries.map fun entry =>
        (entry.1, .array (entry.2.map ResponseFixture.toValue)))).document]
      {} { responses := some (.ofList fixture.responses.entries) } :=
    .field (Shape.stores_of_ok responses _) rfl <|
    .done _
  refine (Shape.read_of_fills (by decide) fills).trans ?_
  rw [Catalog.ofList_entries]
  rfl

end FetcherFixture

/-- Whatever a fixture describes, its compact text says it field by field, in the order of the
fields and with `null` for what is absent, and the text is read back as the same fixture. -/
theorem fixtures_readBack :
    (∀ fixture : DeviceFixture, DeviceFixture.parse fixture.text = .ok fixture ∧
      Document.read fixture.text = (fixture.document, true)) ∧
    ∀ fixture : FetcherFixture, FetcherFixture.parse fixture.text = .ok fixture ∧
      Document.read fixture.text = (fixture.document, true) := by
  refine ⟨fun fixture => ⟨?parsed, ?said⟩, fun fixture => ⟨?fetcherParsed, ?fetcherSaid⟩⟩
  case parsed =>
    rw [DeviceFixture.parse, DeviceFixture.text, fromText_of_inverts DeviceFixture.read_inverts]
    rfl
  case said =>
    rw [DeviceFixture.text, Document.read_text, DeviceFixture.document_toValue]
  case fetcherParsed =>
    rw [FetcherFixture.parse, FetcherFixture.text, fromText_of_inverts FetcherFixture.read_inverts]
    rfl
  case fetcherSaid =>
    rw [FetcherFixture.text, Document.read_text, FetcherFixture.document_toValue]

end SnpTestbed
