import SnpTestbed.Proofs.Fetch.Stream

/-!
# What a completion check finds

A completion check walks over the queues and reports those that still hold responses:
`done_eq` puts its loop into a list of URLs. Which URLs these are follows from what was
supplied and served: `mem_leftovers_iff` says that a URL is left over exactly if its
supply reaches further than its fetches did.
-/
namespace SnpTestbed

namespace Fetcher

/-- The URLs with responses left and their queues, in ascending order. -/
def leftovers (fetcher : Fetcher) : List (String × List CannedResponse) :=
  fetcher.queues.entries.filter fun entry => entry.2 ≠ []

/-- The loop of the check reports the queues with responses left, one after the other. -/
theorem foldl_checkQueue {σ : Type} [FailureSink σ] (entries : List (String × List CannedResponse))
    (completion : Completion σ) :
    entries.foldl checkQueue completion =
      let left := entries.filter fun entry => entry.2 ≠ []
      { count := completion.count + left.length
        sink := (left.map fun entry => failureText entry.1).foldl FailureSink.report
          completion.sink
        log := completion.log ++ left.map fun entry => failureWarning entry.1 entry.2 } := by
  induction entries generalizing completion with
  | nil => simp
  | cons entry rest hypothesis =>
    rw [List.foldl_cons, hypothesis, checkQueue]
    by_cases empty : entry.2 = []
    · rw [if_pos empty, List.filter_cons_of_neg (by simp [empty])]
    · rw [if_neg empty, List.filter_cons_of_pos (by simp [empty])]
      simp [Nat.add_assoc, Nat.add_comm 1]

theorem foldl_report (texts sink : List String) :
    texts.foldl FailureSink.report sink = sink ++ texts := by
  induction texts generalizing sink with
  | nil => simp
  | cons text rest hypothesis =>
    rw [List.foldl_cons, hypothesis]
    show sink ++ [text] ++ rest = sink ++ text :: rest
    simp

/-- What a check reports to a list of texts comes behind those that are there. -/
theorem done_eq (fetcher : Fetcher) (sink : List String) :
    fetcher.done sink =
      { count := fetcher.leftovers.length
        sink := sink ++ fetcher.leftovers.map fun entry => failureText entry.1
        log := fetcher.leftovers.map fun entry => failureWarning entry.1 entry.2 } := by
  rw [done, foldl_checkQueue, ← leftovers]
  simp only [foldl_report, Nat.zero_add, List.nil_append]

theorem ascending_leftovers (fetcher : Fetcher) :
    (fetcher.leftovers.map Prod.fst).Pairwise fun earlier later => keyOrder earlier later = .lt :=
  List.pairwise_map.mpr (fetcher.queues.ascending.filter _)

/-- The check finds the queues that are not empty. -/
theorem mem_leftovers_iff {fetcher : Fetcher} {url : String} :
    url ∈ fetcher.leftovers.map Prod.fst ↔ fetcher.queue url ≠ [] := by
  constructor
  · intro reported
    obtain ⟨⟨url, queue⟩, left, rfl⟩ := List.mem_map.mp reported
    obtain ⟨entry, nonempty⟩ := List.mem_filter.mp left
    have found : fetcher.queue? url = some queue := Catalog.find?_eq_some_iff.mpr entry
    rw [Fetcher.queue, found]
    simpa using nonempty
  · intro nonempty
    unfold Fetcher.queue at nonempty
    cases found : fetcher.queue? url with
    | none => exact absurd (by rw [found]; rfl) nonempty
    | some queue =>
      rw [found] at nonempty
      have entry : (url, queue) ∈ fetcher.queues.entries := Catalog.find?_eq_some_iff.mp found
      exact List.mem_map.mpr ⟨_, List.mem_filter.mpr ⟨entry, by simpa using nonempty⟩, rfl⟩

end Fetcher

namespace FetchSession

/-- After any run, a queue is empty exactly if the supply of its URL has an end and was served up
to it. -/
theorem queue_afterQueue_eq_nil_iff (session : FetchSession) (url : String)
    (actions : List QueueAction) :
    (session.afterQueue actions).queue url = [] ↔
      (∀ response ∈ session.supply url actions, response.uses.limit? ≠ none) ∧
        totalLimit (session.supply url actions) ≤ (session.served url actions).length := by
  have remains := (session.followsSupply url actions).left 0
  rw [Nat.add_zero] at remains
  rw [← supplied_zero_eq_none_iff, remains, supplied_eq_none_iff]

/-- A completion check reports the URLs for which something supplied has no limit, or which were
served less often than the limits of all that was supplied add up to: each once, in ascending order,
behind what the sink holds, with one warning. It changes nothing, and to check strictly is to fail
with what it reports. -/
theorem completion_exact (session : FetchSession) (actions : List QueueAction) :
    let reached := session.afterQueue actions
    ∃ reported : List String,
      (∀ url, url ∈ reported ↔
        (∃ response ∈ session.supply url actions,
          response.uses = .forever ∨ response.uses = .times 0) ∨
        (session.served url actions).length < totalLimit (session.supply url actions)) ∧
      reported.Pairwise (fun earlier later => keyOrder earlier later = .lt) ∧
      (∀ sink : List String,
        let check := reached.fetcher.done sink
        check.sink = sink ++ reported.map
            (fun url => "Prepared response for '" ++ url ++ "' not retrieved.") ∧
          check.count = reported.length ∧
          check.log.map LogRecord.level = List.replicate reported.length .warn) ∧
      (reached.step .done).after = reached ∧
      reached.fetcher.checkDone =
        if reported = [] then .ok ()
        else .error ("\n".intercalate (reported.map
          (fun url => "Prepared response for '" ++ url ++ "' not retrieved."))) := by
  intro reached
  refine ⟨reached.fetcher.leftovers.map Prod.fst, fun url => ?reported,
    reached.fetcher.ascending_leftovers, fun sink => ?check, rfl, ?strict⟩
  case reported =>
    rw [Fetcher.mem_leftovers_iff]
    refine (not_congr (session.queue_afterQueue_eq_nil_iff url actions)).trans ?_
    rw [Classical.not_and_iff_not_or_not, Nat.not_le]
    simp only [ne_eq, Classical.not_forall, Classical.not_not, Uses.limit?_eq_none_iff, exists_prop]
  case check =>
    simp only [Fetcher.done_eq, List.map_map, List.length_map]
    refine ⟨rfl, trivial, ?_⟩
    exact List.map_const' ..
  case strict =>
    simp only [Fetcher.checkDone, Fetcher.done_eq, List.nil_append, List.length_eq_zero_iff,
      List.map_eq_nil_iff, List.map_map]
    rfl

end FetchSession

end SnpTestbed
