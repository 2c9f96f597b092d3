import SnpTestbed.Proofs.Fetch.Queues
import SnpTestbed.Proofs.Fetch.Supply
import SnpTestbed.Session.Fetching

/-!
# Queues as streams

Over any run of fetches and additions a URL is served, in order, the copies of what it
was supplied with: its first queue and the responses added later. `queue_stream` says
so, and that no action for another URL shows in that.
-/
namespace SnpTestbed

/-- Something done with prepared responses. -/
inductive QueueAction
  | get (url : String)
  | add (url : String) (response : CannedResponse)
  | remaining (url : String)
  | done
  deriving DecidableEq, Repr

namespace QueueAction

/-- The action of a session that this is. -/
def action : QueueAction → FetchAction
  | .get url => .get url
  | .add url response => .add url response
  | .remaining url => .remaining url
  | .done => .done

/-- Whether this is done for a URL. -/
def concerns (url : String) : QueueAction → Bool
  | .get other => other == url
  | .add other _ => other == url
  | .remaining other => other == url
  | .done => false

/-- The response that this adds for a URL. -/
def added? (url : String) : QueueAction → Option CannedResponse
  | .add other response => if other = url then some response else none
  | _ => none

end QueueAction

/-- What a fetch of a URL was served, if the answer is to such a fetch. That nothing was found for
this URL is no service; what is said of another one is. -/
def FetchAnswer.served? (url : String) : FetchAnswer → Option (Except FetchError Bytes)
  | .fetched (.error (.notFound missing)) =>
    if missing = url then none else some (.error (.notFound missing))
  | .fetched result => some result
  | _ => none

theorem FetchAnswer.served?_notFound (url : String) :
    (fetched (.error (.notFound url))).served? url = none :=
  if_pos rfl

theorem CannedResponse.served?_deliver (response : CannedResponse) (url : String) :
    (FetchAnswer.fetched (response.deliver url)).served? url = some (response.deliver url) := by
  unfold deliver
  split
  · rfl
  · rfl

namespace FetchSession

/-- The responses left for a URL. -/
def queue (session : FetchSession) (url : String) : List CannedResponse :=
  session.fetcher.queue url

/-- The session after actions in order. -/
def afterQueue (session : FetchSession) (actions : List QueueAction) : FetchSession :=
  session.after (actions.map QueueAction.action)

/-- The answers to the actions for a URL, in order. -/
def answersFor (session : FetchSession) (url : String) (actions : List QueueAction) :
    List FetchAnswer :=
  ((actions.zip (session.run (actions.map QueueAction.action))).filter
    fun (action, _) => action.concerns url).map fun (_, step) => step.answer

/-- What the fetches of a URL were served, in order, without those that found nothing for it. -/
def served (session : FetchSession) (url : String) (actions : List QueueAction) :
    List (Except FetchError Bytes) :=
  (session.answersFor url actions).filterMap (FetchAnswer.served? url)

/-- The responses that a URL is supplied with: those queued at first, and those added later. -/
def supply (session : FetchSession) (url : String) (actions : List QueueAction) :
    List CannedResponse :=
  session.queue url ++ actions.filterMap (QueueAction.added? url)

variable {session : FetchSession} {url : String}

theorem afterQueue_cons (action : QueueAction) (rest : List QueueAction) :
    session.afterQueue (action :: rest) = (session.step action.action).after.afterQueue rest :=
  rfl

theorem answersFor_cons_of_concerns {action : QueueAction} (concerned : action.concerns url = true)
    (rest : List QueueAction) :
    session.answersFor url (action :: rest) =
      (session.step action.action).answer ::
        (session.step action.action).after.answersFor url rest := by
  simp [answersFor, run, concerned]

theorem answersFor_cons_of_not_concerns {action : QueueAction}
    (unconcerned : action.concerns url = false) (rest : List QueueAction) :
    session.answersFor url (action :: rest) =
      (session.step action.action).after.answersFor url rest := by
  simp [answersFor, run, unconcerned]

theorem served_cons (action : QueueAction) (rest : List QueueAction) :
    session.served url (action :: rest) =
      session.served url [action] ++ (session.step action.action).after.served url rest := by
  unfold served
  rw [← List.filterMap_append]
  cases concerned : action.concerns url with
  | true =>
    rw [answersFor_cons_of_concerns concerned, answersFor_cons_of_concerns concerned]
    rfl
  | false =>
    rw [answersFor_cons_of_not_concerns concerned, answersFor_cons_of_not_concerns concerned]
    rfl

/-- What one action makes of the queue of a URL: the response it adds, what it serves, and the
queue after it. -/
inductive SupplyStep (url : String) (queue : List CannedResponse) :
    Option CannedResponse → List (Except FetchError Bytes) → List CannedResponse → Prop
  | unchanged : SupplyStep url queue none [] queue
  | added (response : CannedResponse) :
      SupplyStep url queue (some response) [] (queue ++ [response])
  | served (front : CannedResponse) (later : List CannedResponse)
    (waiting : queue = front :: later) :
      SupplyStep url queue none [front.deliver url] (front.spend later)

/-- An action for another URL, or for none, leaves a URL's queue as it is. -/
theorem queue?_step_of_not_concerns (session : FetchSession) {action : QueueAction}
    (unconcerned : action.concerns url = false) :
    (session.step action.action).after.fetcher.queue? url = session.fetcher.queue? url := by
  cases action with
  | get other =>
    have different : other ≠ url := beq_eq_false_iff_ne.mp unconcerned
    exact session.fetcher.queue?_get_of_ne different.symm
  | add other response =>
    have different : other ≠ url := beq_eq_false_iff_ne.mp unconcerned
    exact session.fetcher.queue?_withQueue_of_ne different.symm _
  | remaining other => rfl
  | done => rfl

/-- What an action for a URL is answered with, and leaves of its queue, depends on that queue
alone. -/
theorem step_congr {first second : FetchSession} {action : QueueAction}
    (concerned : action.concerns url = true)
    (same : first.fetcher.queue? url = second.fetcher.queue? url) :
    (first.step action.action).answer = (second.step action.action).answer ∧
      (first.step action.action).after.fetcher.queue? url =
        (second.step action.action).after.fetcher.queue? url := by
  cases action with
  | get other =>
    obtain rfl : other = url := beq_iff_eq.mp concerned
    obtain ⟨result, after⟩ := Fetcher.get_congr same
    exact ⟨congrArg FetchAnswer.fetched result, after⟩
  | add other response =>
    obtain rfl : other = url := beq_iff_eq.mp concerned
    refine ⟨rfl, ?_⟩
    simp only [QueueAction.action, step, Fetcher.withResponse, Fetcher.queue?_withQueue_self, same]
  | remaining other =>
    obtain rfl : other = url := beq_iff_eq.mp concerned
    refine ⟨?_, same⟩
    simp only [QueueAction.action, step, Fetcher.remaining, same]
  | done => contradiction

/-- Only what is done for a URL shows in its answers and its queue. -/
theorem answersFor_congr {first second : FetchSession} (actions : List QueueAction)
    (same : first.fetcher.queue? url = second.fetcher.queue? url) :
    first.answersFor url actions = second.answersFor url (actions.filter (·.concerns url)) ∧
      (first.afterQueue actions).fetcher.queue? url =
        (second.afterQueue (actions.filter (·.concerns url))).fetcher.queue? url := by
  induction actions generalizing first second with
  | nil => exact ⟨rfl, same⟩
  | cons action rest hypothesis =>
    rw [afterQueue_cons]
    cases concerned : action.concerns url with
    | true =>
      obtain ⟨answer, after⟩ := step_congr concerned same
      obtain ⟨answers, final⟩ := hypothesis after
      rw [List.filter_cons_of_pos concerned, answersFor_cons_of_concerns concerned,
        answersFor_cons_of_concerns concerned, afterQueue_cons, answer, answers]
      exact ⟨rfl, final⟩
    | false =>
      rw [List.filter_cons_of_neg (by simp [concerned]),
        answersFor_cons_of_not_concerns concerned]
      exact hypothesis ((first.queue?_step_of_not_concerns concerned).trans same)

/-- One action adds at the end of a URL's queue, or serves from its front, or neither. -/
theorem step_supply (session : FetchSession) (url : String) (action : QueueAction) :
    SupplyStep url (session.queue url) (action.added? url) (session.served url [action])
      ((session.step action.action).after.queue url) := by
  cases concerned : action.concerns url with
  | false =>
    have untouched : (session.step action.action).after.queue url = session.queue url := by
      unfold queue Fetcher.queue
      rw [session.queue?_step_of_not_concerns concerned]
    have added : action.added? url = none := by
      cases action with
      | add other response => exact if_neg (beq_eq_false_iff_ne.mp concerned)
      | get other => rfl
      | remaining other => rfl
      | done => rfl
    have served : session.served url [action] = [] := by
      rw [served, answersFor_cons_of_not_concerns concerned]
      rfl
    rw [untouched, added, served]
    exact .unchanged
  | true =>
    have answered : session.served url [action] =
        ((session.step action.action).answer.served? url).toList := by
      rw [served, answersFor_cons_of_concerns concerned]
      cases answer : (session.step action.action).answer.served? url with
      | none => exact List.filterMap_cons_none answer
      | some result => exact List.filterMap_cons_some answer
    rw [answered]
    cases action with
    | get other =>
      obtain rfl : other = url := beq_iff_eq.mp concerned
      cases waiting : session.fetcher.queue other with
      | nil =>
        obtain ⟨found, unchanged⟩ := Fetcher.get_of_exhausted waiting
        simp only [QueueAction.action, step, afterFetch, FetchSession.queue, found, unchanged,
          FetchAnswer.served?_notFound]
        exact .unchanged
      | cons front later =>
        obtain ⟨found, spent⟩ := Fetcher.get_of_front waiting
        simp only [QueueAction.action, step, afterFetch, FetchSession.queue, found, spent,
          front.served?_deliver, Fetcher.queue_withQueue_self]
        exact .served front later waiting
    | add other response =>
      obtain rfl : other = url := beq_iff_eq.mp concerned
      simp only [QueueAction.action, QueueAction.added?, step, FetchSession.queue,
        Fetcher.withResponse, Fetcher.queue_withQueue_self]
      exact .added response
    | remaining other => exact .unchanged
    | done => contradiction

/-- What was served and what is left of a queue, put together, are the copies of a supply. -/
structure FollowsSupply (url : String) (supply : List CannedResponse)
    (served : List (Except FetchError Bytes)) (queue : List CannedResponse) : Prop where
  delivered : ∀ index result, served[index]? = some result →
    ∃ copy, supplied supply index = some copy ∧ result = copy.deliver url
  left : ∀ index, supplied queue index = supplied supply (served.length + index)

theorem FollowsSupply.refl (url : String) (queue : List CannedResponse) :
    FollowsSupply url queue [] queue where
  delivered := by
    intro index result found
    contradiction
  left := by
    intro index
    rw [List.length_nil, Nat.zero_add]

/-- A use of the front comes before what the supply without that use serves. -/
theorem FollowsSupply.serve {front : CannedResponse} {later queue : List CannedResponse}
    {served : List (Except FetchError Bytes)}
    (follows : FollowsSupply url (front.spend later) served queue) :
    FollowsSupply url (front :: later) (front.deliver url :: served) queue where
  delivered := by
    intro index result found
    cases index with
    | zero =>
      have same : front.deliver url = result := Option.some.inj found
      refine ⟨front.copy, supplied_front front later, ?_⟩
      rw [front.deliver_copy, same]
    | succ index =>
      rw [← CannedResponse.supplied_spend]
      exact follows.delivered index result found
  left := by
    intro index
    rw [follows.left, CannedResponse.supplied_spend, List.length_cons, Nat.add_right_comm]

/-- Over any run a URL is served its supply, and is left with the rest of it. -/
theorem followsSupply (session : FetchSession) (url : String) (actions : List QueueAction) :
    FollowsSupply url (session.supply url actions) (session.served url actions)
      ((session.afterQueue actions).queue url) := by
  induction actions generalizing session with
  | nil =>
    rw [supply, List.filterMap_nil, List.append_nil]
    exact .refl url (session.queue url)
  | cons action rest hypothesis =>
    -- The rest of the run follows what the step leaves of the queue, with the later additions.
    have follows := hypothesis (session.step action.action).after
    have step := session.step_supply url action
    rw [served_cons, afterQueue_cons]
    unfold supply at follows ⊢
    revert step follows
    generalize session.queue url = queue
    generalize session.served url [action] = result
    generalize (session.step action.action).after.queue url = next
    cases added : action.added? url with
    | none =>
      intro follows step
      rw [List.filterMap_cons_none added]
      cases step with
      | unchanged => exact follows
      | served front later waiting =>
        rw [CannedResponse.spend_append] at follows
        rw [waiting]
        exact follows.serve
    | some response =>
      intro follows step
      rw [List.filterMap_cons_some added]
      cases step with
      | added => rwa [List.append_assoc] at follows

/-- The fetches of a URL are served the copies of its supply, one after the other and each whole;
one finds nothing exactly when the supply so far was served; and answers and queue are those of any
other run that does the same for this URL. -/
theorem queue_stream (session : FetchSession) (url : String) (actions : List QueueAction) :
    (∀ index result, (session.served url actions)[index]? = some result →
      ∃ copy, supplied (session.supply url actions) index = some copy ∧
        (copy.error = none → result = .ok copy.body) ∧
        ∀ message, copy.error = some message →
          result = .error (.response url message copy.body)) ∧
    (((session.afterQueue actions).step (.get url)).answer = .fetched (.error (.notFound url)) ↔
      supplied (session.supply url actions) (session.served url actions).length = none) ∧
    ∀ others : List QueueAction,
      others.filter (·.concerns url) = actions.filter (·.concerns url) →
        session.answersFor url others = session.answersFor url actions ∧
        (session.afterQueue others).fetcher.queue? url =
          (session.afterQueue actions).fetcher.queue? url := by
  have follows := session.followsSupply url actions
  refine ⟨?delivered, ?exhausted, ?alike⟩
  case delivered =>
    intro index result found
    obtain ⟨copy, inSupply, rfl⟩ := follows.delivered index result found
    refine ⟨copy, inSupply, ?_, ?_⟩
    · intro sound
      simp only [CannedResponse.deliver, sound]
    · intro message failed
      simp only [CannedResponse.deliver, failed]
  case exhausted =>
    have remains := follows.left 0
    rw [Nat.add_zero] at remains
    rw [← remains, supplied_zero_eq_none_iff]
    constructor
    · intro missing
      exact (Fetcher.get_eq_notFound_iff _ url).mp (FetchAnswer.fetched.inj missing)
    · intro exhausted
      exact congrArg FetchAnswer.fetched ((Fetcher.get_eq_notFound_iff _ url).mpr exhausted)
  case alike =>
    intro others alike
    have same : session.fetcher.queue? url = session.fetcher.queue? url := rfl
    obtain ⟨answers, final⟩ := answersFor_congr others same
    obtain ⟨answers', final'⟩ := answersFor_congr actions same
    rw [answers, answers', final, final', alike]
    exact ⟨rfl, rfl⟩

/-- A session with a response for one URL that fails twice, and one for another without limit. -/
def twoUrls : FetchSession where
  fetcher := (Fetcher.simple [("open", [2])]).withResponse "busy"
    { uses := .times 2, body := [1], error := some "503" }

theorem queue_stream_twoUrls :
    (twoUrls.served "busy" [.get "open", .get "busy", .get "busy"])[1]? =
        some (.error (.response "busy" "503" [1])) ∧
      (∃ copy, supplied (twoUrls.supply "busy" [.get "open", .get "busy", .get "busy"]) 1 =
        some copy ∧ copy.error = some "503") ∧
      twoUrls.answersFor "busy" [.get "busy", .get "busy"] =
        twoUrls.answersFor "busy" [.get "open", .get "busy", .get "busy"] := by
  obtain ⟨delivered, _, alike⟩ :=
    twoUrls.queue_stream "busy" [.get "open", .get "busy", .get "busy"]
  refine ⟨rfl, ?_, (alike _ rfl).1⟩
  obtain ⟨copy, inSupply, sound, failed⟩ := delivered 1 _ rfl
  refine ⟨copy, inSupply, ?_⟩
  cases failure : copy.error with
  | none => exact absurd (sound failure) (by simp)
  | some message =>
    injection failed message failure with same
    injection same with _ text
    rw [text]

end FetchSession

end SnpTestbed
