import SnpTestbed.Fetch.Fetcher
import SnpTestbed.Fixture.Device

/-!
# Fetcher fixtures

A fetcher fixture lists the prepared responses of each URL, with bodies in
hexadecimal. A URL that is listed twice keeps its last list.
-/
namespace SnpTestbed

open Json

/-- A described response; without a count it is used without limit. -/
structure ResponseFixture where
  occurrences : Option UInt64
  body : String
  error : Option String
  deriving DecidableEq, Repr

/-- A described fetcher. -/
structure FetcherFixture where
  responses : Catalog (List ResponseFixture)

namespace ResponseFixture

/-- A response in a document. -/
def toValue (fixture : ResponseFixture) : Value :=
  .object [("occurrences", .optional (fun word => .natural word.toNat) fixture.occurrences),
    ("body", .string fixture.body),
    ("error", .optional .string fixture.error)]

/-- A response that is being read. -/
structure Draft where
  occurrences : Option (Option UInt64) := none
  body : Option String := none
  error : Option (Option String) := none

/-- How a response is read. -/
def shape : Decode.Shape Draft ResponseFixture where
  name := "ResponseFixture"
  blank := {}
  fields := [
    { name := "occurrences", isSet := (·.occurrences.isSome),
      read := fun item draft => do
        return { draft with occurrences := some (← Decode.optional Decode.word64 item) } },
    { name := "body", isSet := (·.body.isSome),
      read := fun item draft => do return { draft with body := some (← Decode.text item) } },
    { name := "error", isSet := (·.error.isSome),
      read := fun item draft => do
        return { draft with error := some (← Decode.optional Decode.text item) } }]
  finish _ draft := .ok {
    occurrences := draft.occurrences.getD none
    body := draft.body.getD ""
    error := draft.error.getD none }

/-- The prepared response. -/
def canned (fixture : ResponseFixture) : Except GuestError CannedResponse := do
  let body ← InputFault.decodeHex fixture.body
  let uses : Uses :=
    match fixture.occurrences with
    | some count => .times count.toNat
    | none => .forever
  return { uses, body, error := fixture.error }

end ResponseFixture

namespace FetcherFixture

/-- A fetcher in a document. -/
def toValue (fixture : FetcherFixture) : Value :=
  .object [("responses", .object (fixture.responses.entries.map fun (url, responses) =>
    (url, .array (responses.map ResponseFixture.toValue))))]

/-- A fetcher that is being read. -/
structure Draft where
  responses : Option (Catalog (List ResponseFixture)) := none

/-- How a fetcher is read. -/
def shape : Decode.Shape Draft FetcherFixture where
  name := "GetterFixture"
  blank := {}
  fields := [
    { name := "responses", isSet := (·.responses.isSome),
      read := fun item draft => do
        let responses ← Decode.members (Decode.list ResponseFixture.shape.read) item
        return { draft with responses := some (.ofList responses) } }]
  finish layout draft := do
    return { responses := ← layout.require 0 "responses" draft.responses }

/-- The compact text of a fixture. -/
def text (fixture : FetcherFixture) : String := fixture.toValue.text

/-- Reads the text of a fixture. -/
def parse (text : String) : Except GuestError FetcherFixture :=
  (Decode.fromText shape.read text).mapError fun fault => .input (.document fault)

/-- Queues the response that a fixture describes. -/
def addResponse (fetcher : Fetcher) (entry : String × ResponseFixture) :
    Except GuestError Fetcher := do
  return fetcher.withResponse entry.1 (← entry.2.canned)

/-- The fetcher that a fixture describes. -/
def build (fixture : FetcherFixture) : Except GuestError Fetcher :=
  (fixture.responses.entries.flatMap fun (url, responses) =>
    responses.map fun response => (url, response)).foldlM addResponse {}

end FetcherFixture

end SnpTestbed
