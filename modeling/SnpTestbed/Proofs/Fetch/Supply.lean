import SnpTestbed.Fetch.Fetcher

/-!
# What a queue supplies

A queue of prepared responses stands for the sequence of their copies, one for each
use. `supplied` indexes that sequence without building it, so that a response without
limit is no exception: it supplies every index from its place on, and what stands
behind it supplies none. A fetch takes the first copy and leaves the others.
-/
namespace SnpTestbed

/-- How many uses there are, unless there is no limit to them. -/
def Uses.limit? : Uses → Option Nat
  | .forever => none
  | .times 0 => none
  | .times (count + 1) => some (count + 1)

/-- The response, to be used once. -/
def CannedResponse.copy (response : CannedResponse) : CannedResponse :=
  { response with uses := .times 1 }

/-- The copy at an index of the sequence that a queue stands for. -/
def supplied : List CannedResponse → (index : Nat) → Option CannedResponse
  | [], _ => none
  | front :: later, index =>
    match front.uses.limit? with
    | none => some front.copy
    | some limit => if index < limit then some front.copy else supplied later (index - limit)

theorem supplied_of_unlimited {front : CannedResponse} (unlimited : front.uses.limit? = none)
    (later : List CannedResponse) (index : Nat) :
    supplied (front :: later) index = some front.copy := by
  simp only [supplied, unlimited]

theorem supplied_of_limited {front : CannedResponse} {limit : Nat}
    (limited : front.uses.limit? = some limit) (later : List CannedResponse) (index : Nat) :
    supplied (front :: later) index =
      if index < limit then some front.copy else supplied later (index - limit) := by
  simp only [supplied, limited]

/-- A limit counts uses that are left, so it is never zero. -/
theorem Uses.limit?_pos {uses : Uses} {limit : Nat} (limited : uses.limit? = some limit) :
    0 < limit := by
  cases uses with
  | forever => contradiction
  | times count =>
    cases count with
    | zero => contradiction
    | succ count =>
      have same : count + 1 = limit := Option.some.inj limited
      omega

/-- A response that stands in a queue supplies it at least once. -/
theorem supplied_front (front : CannedResponse) (later : List CannedResponse) :
    supplied (front :: later) 0 = some front.copy := by
  cases limited : front.uses.limit? with
  | none => exact supplied_of_unlimited limited later 0
  | some limit => rw [supplied_of_limited limited, if_pos (Uses.limit?_pos limited)]

theorem supplied_zero_eq_none_iff {queue : List CannedResponse} :
    supplied queue 0 = none ↔ queue = [] := by
  cases queue with
  | nil => exact iff_of_true rfl rfl
  | cons front later =>
    rw [supplied_front]
    exact iff_of_false (by simp) (by simp)

/-- The sequence of a queue whose responses are all limited is the list of their copies. -/
theorem supplied_eq_getElem? {queue : List CannedResponse} {limit : CannedResponse → Nat}
    (limited : ∀ response ∈ queue, response.uses.limit? = some (limit response)) (index : Nat) :
    supplied queue index =
      (queue.flatMap fun response => List.replicate (limit response) response.copy)[index]? := by
  induction queue generalizing index with
  | nil => rfl
  | cons front later hypothesis =>
    rw [supplied_of_limited (limited front List.mem_cons_self), List.flatMap_cons]
    by_cases inside : index < limit front
    · rw [if_pos inside, List.getElem?_append_left (by simpa using inside),
        List.getElem?_replicate_of_lt inside]
    · rw [if_neg inside, List.getElem?_append_right (by simpa using inside),
        List.length_replicate]
      exact hypothesis (fun response member =>
        limited response (List.mem_cons_of_mem _ member)) _

theorem Uses.limit?_eq_none_iff {uses : Uses} :
    uses.limit? = none ↔ uses = .forever ∨ uses = .times 0 := by
  cases uses with
  | forever => exact iff_of_true rfl (.inl rfl)
  | times count =>
    cases count with
    | zero => exact iff_of_true rfl (.inr rfl)
    | succ count => exact iff_of_false nofun (by simp)

/-- What the limits of responses add up to. -/
def totalLimit (responses : List CannedResponse) : Nat :=
  (responses.filterMap (·.uses.limit?)).foldr (· + ·) 0

/-- The sequence of a queue ends, namely behind as many copies as the limits add up to, unless a
response is without limit. -/
theorem supplied_eq_none_iff {queue : List CannedResponse} {index : Nat} :
    supplied queue index = none ↔
      (∀ response ∈ queue, response.uses.limit? ≠ none) ∧ totalLimit queue ≤ index := by
  induction queue generalizing index with
  | nil => simp [supplied, totalLimit]
  | cons front later hypothesis =>
    rw [List.forall_mem_cons]
    cases limited : front.uses.limit? with
    | none =>
      rw [supplied_of_unlimited limited]
      exact iff_of_false nofun fun endless => endless.1.1 rfl
    | some limit =>
      rw [supplied_of_limited limited]
      have total : totalLimit (front :: later) = limit + totalLimit later := by
        simp only [totalLimit, List.filterMap_cons, limited, List.foldr_cons]
      rw [total]
      by_cases inside : index < limit
      · rw [if_pos inside]
        exact iff_of_false nofun fun ends => by omega
      · rw [if_neg inside, hypothesis, and_iff_right (Option.some_ne_none limit)]
        exact and_congr_right fun _ => by omega

/-- What stands behind a response without limit is never supplied. -/
theorem supplied_append_of_unlimited {last : CannedResponse}
    (unlimited : last.uses.limit? = none) (earlier later : List CannedResponse) (index : Nat) :
    supplied (earlier ++ last :: later) index = supplied (earlier ++ [last]) index := by
  induction earlier generalizing index with
  | nil => simp only [List.nil_append, supplied_of_unlimited unlimited]
  | cons front rest hypothesis =>
    simp only [List.cons_append]
    cases limited : front.uses.limit? with
    | none => simp only [supplied_of_unlimited limited]
    | some limit => rw [supplied_of_limited limited, supplied_of_limited limited, hypothesis]

namespace CannedResponse

@[simp] theorem deliver_copy (response : CannedResponse) (url : String) :
    response.copy.deliver url = response.deliver url := rfl

theorem spend_append (front : CannedResponse) (later added : List CannedResponse) :
    front.spend later ++ added = front.spend (later ++ added) := by
  unfold spend
  split
  · rfl
  · rfl

/-- A use takes one copy off the front. What it leaves of the front has a limit above zero if it had
one before, so the count of a limited response never reaches the spelling of an unlimited one. -/
theorem supplied_spend (front : CannedResponse) (later : List CannedResponse) (index : Nat) :
    supplied (front.spend later) index = supplied (front :: later) (index + 1) := by
  cases uses : front.uses with
  | forever =>
    have unlimited : front.uses.limit? = none := by rw [uses]; rfl
    simp only [spend, uses, Uses.spend]
    rw [supplied_of_unlimited unlimited, supplied_of_unlimited rfl]
    rfl
  | times count =>
    match count with
    | 0 =>
      have unlimited : front.uses.limit? = none := by rw [uses]; rfl
      simp only [spend, uses, Uses.spend]
      rw [supplied_of_unlimited unlimited, supplied_of_unlimited rfl]
      rfl
    | 1 =>
      have limited : front.uses.limit? = some 1 := by rw [uses]; rfl
      simp only [spend, uses, Uses.spend]
      rw [supplied_of_limited limited, if_neg (by omega), Nat.add_sub_cancel]
    | more + 2 =>
      have limited : front.uses.limit? = some (more + 2) := by rw [uses]; rfl
      simp only [spend, uses, Uses.spend]
      rw [supplied_of_limited limited, supplied_of_limited rfl]
      by_cases inside : index < more + 1
      · rw [if_pos inside, if_pos (by omega)]
        rfl
      · rw [if_neg inside, if_neg (by omega), Nat.add_sub_add_right]

end CannedResponse

end SnpTestbed
