import SnpTestbed.Catalog
import SnpTestbed.Log

/-!
# Queued fetching

A fetcher answers each URL from its own queue of prepared responses. Every fetch
uses the response at the front, and a response leaves its queue with its last
use. A response that may be used without limit never leaves, and what stands
behind it is never reached.
-/
namespace SnpTestbed

/-- How often a response is used; zero times means without limit, as `forever` does. -/
inductive Uses
  | times (count : Nat)
  | forever
  deriving DecidableEq, Repr

/-- What is left after one use; none after the last. -/
def Uses.spend : Uses → Option Uses
  | .forever => some .forever
  | .times 0 => some (.times 0)
  | .times 1 => none
  | .times (count + 2) => some (.times (count + 1))

/-- A prepared response. One with an error still delivers its body with it. -/
structure CannedResponse where
  uses : Uses := .times 1
  body : Bytes := []
  error : Option String := none
  deriving DecidableEq, Repr

/-- Why a fetch gives no body. -/
inductive FetchError
  | notFound (url : String)
  | response (url message : String) (body : Bytes)
  | canceled
  | deadlineExceeded
  deriving DecidableEq, Repr

/-- The text of an error. -/
def FetchError.message : FetchError → String
  | .notFound url => "404: " ++ url
  | .response url message _ => url ++ ": " ++ message
  | .canceled => "context canceled"
  | .deadlineExceeded => "context deadline exceeded"

/-- Queues of prepared responses, by URL. -/
structure Fetcher where
  queues : Catalog (List CannedResponse) := .empty

/-- A fetch that was carried out or refused: its result, the fetcher after it, and its log. -/
structure Fetched (ε α : Type) where
  result : Except ε α
  after : Fetcher
  log : List LogRecord := []

/-- Where a completion check reports its failures. -/
class FailureSink (σ : Type) where
  /-- The sink with one more failure. -/
  report : σ → String → σ

instance : FailureSink (List String) := ⟨fun texts text => texts ++ [text]⟩

/-- A completion check that was carried out: how many failures it reported, the sink after that, and
its log. -/
structure Completion (σ : Type) where
  count : Nat := 0
  sink : σ
  log : List LogRecord := []

namespace CannedResponse

/-- What a use of the response delivers to whoever fetches the URL. -/
def deliver (response : CannedResponse) (url : String) : Except FetchError Bytes :=
  match response.error with
  | none => .ok response.body
  | some message => .error (.response url message response.body)

/-- The front response after a use, with the queue behind it. -/
def spend (front : CannedResponse) (later : List CannedResponse) : List CannedResponse :=
  match front.uses.spend with
  | some uses => { front with uses } :: later
  | none => later

end CannedResponse

namespace Fetcher

/-- A fetcher that answers each URL with one body, forever; the last body of a URL counts. -/
def simple (bodies : List (String × Bytes)) : Fetcher :=
  ⟨.ofList (bodies.map fun (url, body) => (url, [{ uses := .forever, body }]))⟩

/-- The queue of a URL, if it ever had one. -/
def queue? (fetcher : Fetcher) (url : String) : Option (List CannedResponse) :=
  fetcher.queues.find? url

/-- The fetcher with this queue for a URL. -/
def withQueue (fetcher : Fetcher) (url : String) (queue : List CannedResponse) : Fetcher :=
  ⟨fetcher.queues.insert url queue⟩

/-- The fetcher with a response at the end of a URL's queue. -/
def withResponse (fetcher : Fetcher) (url : String) (response : CannedResponse) : Fetcher :=
  fetcher.withQueue url ((fetcher.queue? url).getD [] ++ [response])

/-- How many responses are left for a URL. -/
def remaining (fetcher : Fetcher) (url : String) : Nat :=
  ((fetcher.queue? url).getD []).length

/-- The records of a use of the front response, `left` being the queue after it. -/
def useLog (url : String) (front : CannedResponse) (left : List CannedResponse) : List LogRecord :=
  let exhausted :=
    if front.uses.spend = none then
      [LogRecord.trace
        ("GET " ++ url ++ ": response exhausted, " ++ toString left.length ++ " left")]
    else []
  exhausted ++
    [.debug ("GET " ++ url ++ ": " ++ toString front.body.length ++ " bytes")]

/-- Fetches a URL. -/
def get (fetcher : Fetcher) (url : String) : Fetched FetchError Bytes :=
  match fetcher.queue? url with
  | none =>
    { result := .error (.notFound url), after := fetcher
      log := [.debug ("GET " ++ url ++ ": no responses configured")] }
  | some [] =>
    { result := .error (.notFound url), after := fetcher
      log := [.debug ("GET " ++ url ++ ": responses exhausted")] }
  | some (front :: later) =>
    let left := front.spend later
    { result := front.deliver url
      after := fetcher.withQueue url left
      log := useLog url front left }

/-- The failure that a completion check reports for a URL. -/
def failureText (url : String) : String := "Prepared response for '" ++ url ++ "' not retrieved."

/-- The warning that comes with it, `left` being the queue. -/
def failureWarning (url : String) (left : List CannedResponse) : LogRecord :=
  .warn (toString left.length ++ " prepared response(s) for " ++ url ++ " not retrieved")

/-- Reports a queue in which responses are left. -/
def checkQueue {σ : Type} [FailureSink σ] (completion : Completion σ)
    (entry : String × List CannedResponse) : Completion σ :=
  let (url, queue) := entry
  if queue = [] then completion
  else
    { count := completion.count + 1
      sink := FailureSink.report completion.sink (failureText url)
      log := completion.log ++ [failureWarning url queue] }

/-- The completion check: reports one failure for each URL with responses left. -/
def done {σ : Type} [FailureSink σ] (fetcher : Fetcher) (sink : σ) : Completion σ :=
  fetcher.queues.entries.foldl checkQueue { sink }

/-- Passes if every response was fetched, and otherwise fails with all failures, one on a line. -/
def checkDone (fetcher : Fetcher) : Except String Unit :=
  let completion := fetcher.done ([] : List String)
  if completion.count = 0 then .ok () else .error ("\n".intercalate completion.sink)

end Fetcher

end SnpTestbed
