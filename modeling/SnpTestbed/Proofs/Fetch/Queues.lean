import SnpTestbed.Fetch.Fetcher

/-!
# Queues of single fetches

A fetch finds nothing exactly where a URL has nothing left, and otherwise uses the
front of that URL's queue. It neither looks at the queue of another URL nor changes it.
-/
namespace SnpTestbed

/-- What is delivered is a response, also where it has an error. -/
theorem CannedResponse.deliver_ne_notFound (response : CannedResponse) (url : String) :
    response.deliver url ≠ .error (.notFound url) := by
  intro missing
  unfold deliver at missing
  split at missing
  · contradiction
  · injection missing with failure
    contradiction

namespace Fetcher

/-- The responses left for a URL; without a queue there are none. -/
def queue (fetcher : Fetcher) (url : String) : List CannedResponse :=
  (fetcher.queue? url).getD []

@[simp] theorem queue?_withQueue_self (fetcher : Fetcher) (url : String)
    (queue : List CannedResponse) : (fetcher.withQueue url queue).queue? url = some queue :=
  Catalog.find?_insert_self ..

theorem queue?_withQueue_of_ne (fetcher : Fetcher) {url other : String} (different : url ≠ other)
    (queue : List CannedResponse) :
    (fetcher.withQueue other queue).queue? url = fetcher.queue? url :=
  Catalog.find?_insert_of_ne _ different _

@[simp] theorem queue_withQueue_self (fetcher : Fetcher) (url : String)
    (queue : List CannedResponse) : (fetcher.withQueue url queue).queue url = queue := by
  rw [Fetcher.queue, queue?_withQueue_self]
  rfl

/-- With nothing left for a URL, a fetch finds nothing and changes nothing. -/
theorem get_of_exhausted {fetcher : Fetcher} {url : String} (exhausted : fetcher.queue url = []) :
    (fetcher.get url).result = .error (.notFound url) ∧ (fetcher.get url).after = fetcher := by
  unfold queue at exhausted
  unfold get
  cases found : fetcher.queue? url with
  | none => exact ⟨rfl, rfl⟩
  | some queue =>
    rw [found] at exhausted
    have empty : queue = [] := exhausted
    subst empty
    exact ⟨rfl, rfl⟩

/-- Otherwise it uses the response at the front. -/
theorem get_of_front {fetcher : Fetcher} {url : String} {front : CannedResponse}
    {later : List CannedResponse} (waiting : fetcher.queue url = front :: later) :
    (fetcher.get url).result = front.deliver url ∧
      (fetcher.get url).after = fetcher.withQueue url (front.spend later) := by
  unfold queue at waiting
  unfold get
  cases found : fetcher.queue? url with
  | none =>
    rw [found] at waiting
    contradiction
  | some queue =>
    rw [found] at waiting
    have same : queue = front :: later := waiting
    subst same
    exact ⟨rfl, rfl⟩

/-- A fetch finds nothing exactly where nothing is left. -/
theorem get_eq_notFound_iff (fetcher : Fetcher) (url : String) :
    (fetcher.get url).result = .error (.notFound url) ↔ fetcher.queue url = [] := by
  constructor
  · intro missing
    cases waiting : fetcher.queue url with
    | nil => rfl
    | cons front later =>
      rw [(get_of_front waiting).1] at missing
      exact absurd missing (front.deliver_ne_notFound url)
  · intro exhausted
    exact (get_of_exhausted exhausted).1

theorem queue?_get_of_ne (fetcher : Fetcher) {url other : String} (different : url ≠ other) :
    (fetcher.get other).after.queue? url = fetcher.queue? url := by
  cases waiting : fetcher.queue other with
  | nil => rw [(get_of_exhausted waiting).2]
  | cons front later => rw [(get_of_front waiting).2, queue?_withQueue_of_ne _ different]

/-- What a fetch does for its URL depends on that URL's queue alone. -/
theorem get_congr {first second : Fetcher} {url : String}
    (same : first.queue? url = second.queue? url) :
    (first.get url).result = (second.get url).result ∧
      (first.get url).after.queue? url = (second.get url).after.queue? url := by
  have alike : first.queue url = second.queue url := by rw [queue, queue, same]
  cases waiting : second.queue url with
  | nil =>
    rw [waiting] at alike
    obtain ⟨found, unchanged⟩ := get_of_exhausted alike
    obtain ⟨found', unchanged'⟩ := get_of_exhausted waiting
    rw [found, found', unchanged, unchanged']
    exact ⟨rfl, same⟩
  | cons front later =>
    rw [waiting] at alike
    obtain ⟨served, spent⟩ := get_of_front alike
    obtain ⟨served', spent'⟩ := get_of_front waiting
    rw [served, served', spent, spent']
    simp

end Fetcher

end SnpTestbed
