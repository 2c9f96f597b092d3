import SnpTestbed.Proofs.Fetch.Stream
import SnpTestbed.Proofs.Kds.Urls

/-!
# What fetches from the key service use

A chain or a key is fetched by a single fetch of its URL, and what becomes of the answer
does not come back to the fetcher: bytes that are no chain have used their response like
any others. So a fetch leaves what a fetch of the URL leaves (`step_of_url`), or everything
as it was where the service has no URL, and over a run the fetches of a URL see the copies
that its queue supplies, one after the other (`answered_run`), whatever they were for.
-/
namespace SnpTestbed

namespace Kds

variable {body : Bytes} {product : Product} {chip : Bytes} {levels : PatchLevels} {url : String}

/-- How the fetch of a chain ends, given what was found for its URL. -/
structure SettlesChain (found : Except FetchError Bytes) (result : Except Error Chain) : Prop where
  chain : ∀ ask ark, result = .ok ⟨ask, ark⟩ ↔
    ∃ body, found = .ok body ∧ Pem.parse body = .ok [ask, ark]
  miscounted : ∀ count, result = .error (.chainLength count) ↔
    ∃ body sections, found = .ok body ∧ Pem.parse body = .ok sections ∧
      sections.length = count ∧ count ≠ 2
  unread : ∀ fault, result = .error (.pem fault) ↔
    ∃ body, found = .ok body ∧ Pem.parse body = .error fault
  unfetched : ∀ error, result = .error (.fetch error) ↔ found = .error error

/-- How the fetch of a key ends, given what was found for its URL. -/
structure SettlesKey (found : Except FetchError Bytes) (result : Except Error Bytes) : Prop where
  key : ∀ body, result = .ok body ↔ found = .ok body
  unfetched : ∀ error, result = .error (.fetch error) ↔ found = .error error

theorem chainOf_of_pair {ask ark : Pem.Section} (read : Pem.parse body = .ok [ask, ark]) :
    chainOf body = .ok ⟨ask, ark⟩ := by
  rw [chainOf, read]
  rfl

theorem chainOf_of_count {sections : List Pem.Section} (read : Pem.parse body = .ok sections)
    (count : sections.length ≠ 2) : chainOf body = .error (.chainLength sections.length) := by
  rw [chainOf, read]
  match sections with
  | [] => rfl
  | [_] => rfl
  | [_, _] => exact absurd rfl count
  | _ :: _ :: _ :: _ => rfl

theorem chainOf_of_fault {fault : Pem.Fault} (refused : Pem.parse body = .error fault) :
    chainOf body = .error (.pem fault) := by
  rw [chainOf, refused]
  rfl

/-- Every fetched chain ends in one of these ways, and in no other. -/
theorem settlesChain (found : Except FetchError Bytes) :
    SettlesChain found (do chainOf (← found.mapError .fetch)) := by
  cases found with
  | error error =>
    show SettlesChain (.error error) (.error (.fetch error))
    constructor <;> simp
  | ok body =>
    show SettlesChain (.ok body) (chainOf body)
    cases read : Pem.parse body with
    | error fault =>
      rw [chainOf_of_fault read]
      constructor <;> simp [read]
    | ok sections =>
      by_cases two : sections.length = 2
      · obtain ⟨ask, ark, rfl⟩ := List.length_eq_two.mp two
        rw [chainOf_of_pair read]
        constructor <;> simp [read]
      · have noPair (ask ark : Pem.Section) : sections ≠ [ask, ark] := by
          rintro rfl
          exact two rfl
        rw [chainOf_of_count read two]
        constructor <;> simp [read, two, noPair]

theorem settlesKey (found : Except FetchError Bytes) :
    SettlesKey found (found.mapError .fetch) := by
  cases found with
  | error error =>
    show SettlesKey (.error error) (.error (.fetch error))
    constructor <;> simp
  | ok body =>
    show SettlesKey (.ok body) (.ok body)
    constructor <;> simp

theorem linePath_of_nameless (nameless : product.line.serviceName? = none) :
    linePath product = .error (.unsupportedProduct product.line) := by
  rw [linePath, nameless]

theorem exists_linePath_of_named (named : product.line.serviceName? ≠ none) :
    ∃ path, linePath product = .ok path :=
  exists_linePath_iff.mpr (mt ProductLine.serviceName?_eq_none_iff.mpr named)

theorem fetchChain_of_url (fetcher : Fetcher) (made : chainUrl product = .ok url) :
    (fetchChain fetcher product).after = (fetcher.get url).after ∧
      SettlesChain (fetcher.get url).result (fetchChain fetcher product).result := by
  rw [fetchChain, made]
  exact ⟨rfl, settlesChain _⟩

theorem fetchKey_of_url (fetcher : Fetcher) (made : keyUrl product chip levels = .ok url) :
    (fetchKey fetcher product chip levels).after = (fetcher.get url).after ∧
      SettlesKey (fetcher.get url).result (fetchKey fetcher product chip levels).result := by
  rw [fetchKey, made]
  exact ⟨rfl, settlesKey _⟩

theorem fetchChain_of_error {error : Error} (fetcher : Fetcher)
    (unmade : chainUrl product = .error error) :
    (fetchChain fetcher product).result = .error error ∧
      (fetchChain fetcher product).after = fetcher := by
  rw [fetchChain, unmade]
  exact ⟨rfl, rfl⟩

theorem fetchKey_of_error {error : Error} (fetcher : Fetcher)
    (unmade : keyUrl product chip levels = .error error) :
    (fetchKey fetcher product chip levels).result = .error error ∧
      (fetchKey fetcher product chip levels).after = fetcher := by
  rw [fetchKey, unmade]
  exact ⟨rfl, rfl⟩

end Kds

/-- What a fetch of a URL finds in a queue that was used before: the next copy that it supplies. -/
def useAt (queue : List CannedResponse) (url : String) (earlier : Nat) : Except FetchError Bytes :=
  match supplied queue earlier with
  | some copy => copy.deliver url
  | none => .error (.notFound url)

namespace Fetcher

theorem get_result (fetcher : Fetcher) (url : String) :
    (fetcher.get url).result = useAt (fetcher.queue url) url 0 := by
  cases waiting : fetcher.queue url with
  | nil => exact (get_of_exhausted waiting).1
  | cons front later =>
    rw [(get_of_front waiting).1, useAt, supplied_front]
    exact (front.deliver_copy url).symm

/-- A fetch takes one copy of the supply, unless there is none. -/
theorem supplied_queue_get (fetcher : Fetcher) (url : String) (index : Nat) :
    supplied ((fetcher.get url).after.queue url) index =
      supplied (fetcher.queue url) (index + 1) := by
  cases waiting : fetcher.queue url with
  | nil =>
    rw [(get_of_exhausted waiting).2, waiting]
    rfl
  | cons front later =>
    rw [(get_of_front waiting).2, queue_withQueue_self, CannedResponse.supplied_spend]

end Fetcher

/-- A fetch of a URL, or of what the key service keeps under one. -/
inductive ServiceFetch
  | page (url : String)
  | chain (product : Product)
  | key (product : Product) (chip : Bytes) (levels : Kds.PatchLevels)

namespace ServiceFetch

/-- The action of a session that this is. -/
def action : ServiceFetch → FetchAction
  | .page url => .get url
  | .chain product => .fetchChain product
  | .key product chip levels => .fetchKey product chip levels

/-- The URL that is fetched, or why there is none. -/
def address : ServiceFetch → Except Kds.Error String
  | .page url => .ok url
  | .chain product => Kds.chainUrl product
  | .key product chip levels => Kds.keyUrl product chip levels

/-- How many of the fetches are of a URL. -/
def countOf (url : String) (fetches : List ServiceFetch) : Nat :=
  fetches.countP fun fetch => fetch.address = .ok url

/-- How a fetch is answered, given what was found for its URL. -/
inductive Answered (found : Except FetchError Bytes) : ServiceFetch → FetchAnswer → Prop
  | page {url : String} : Answered found (.page url) (.fetched found)
  | chain {product : Product} {result : Except Kds.Error Kds.Chain}
    (settled : Kds.SettlesChain found result) : Answered found (.chain product) (.chain result)
  | key {product : Product} {chip : Bytes} {levels : Kds.PatchLevels}
    {result : Except Kds.Error Bytes} (settled : Kds.SettlesKey found result) :
    Answered found (.key product chip levels) (.key result)

end ServiceFetch

namespace FetchSession

open ServiceFetch (countOf)

variable {session : FetchSession} {fetch : ServiceFetch} {url : String}

/-- A fetch with a URL is one fetch of that URL, whatever is made of its result. -/
theorem step_of_url (session : FetchSession) (addressed : fetch.address = .ok url) :
    fetch.Answered (session.fetcher.get url).result (session.step fetch.action).answer ∧
      (session.step fetch.action).after =
        { session with fetcher := (session.fetcher.get url).after } := by
  cases fetch with
  | page other =>
    injection addressed with same
    rw [← same]
    exact ⟨.page, rfl⟩
  | chain product =>
    obtain ⟨after, settled⟩ := Kds.fetchChain_of_url session.fetcher addressed
    rw [← after]
    exact ⟨.chain settled, rfl⟩
  | key product chip levels =>
    obtain ⟨after, settled⟩ := Kds.fetchKey_of_url session.fetcher addressed
    rw [← after]
    exact ⟨.key settled, rfl⟩

/-- A fetch without a URL changes nothing. -/
theorem after_step_of_error {error : Kds.Error} (session : FetchSession)
    (nowhere : fetch.address = .error error) : (session.step fetch.action).after = session := by
  cases fetch with
  | page other => contradiction
  | chain product =>
    have unchanged := (Kds.fetchChain_of_error session.fetcher nowhere).2
    simp only [ServiceFetch.action, step, afterFetch, unchanged]
  | key product chip levels =>
    have unchanged := (Kds.fetchKey_of_error session.fetcher nowhere).2
    simp only [ServiceFetch.action, step, afterFetch, unchanged]

/-- A fetch takes one copy of the supply of its URL and none of any other. -/
theorem supplied_step (session : FetchSession) (fetch : ServiceFetch) (url : String) (index : Nat) :
    supplied ((session.step fetch.action).after.queue url) index =
      supplied (session.queue url) (index + countOf url [fetch]) := by
  cases addressed : fetch.address with
  | error error =>
    have none : countOf url [fetch] = 0 := by simp [countOf, addressed]
    rw [session.after_step_of_error addressed, none, Nat.add_zero]
  | ok own =>
    rw [(session.step_of_url addressed).2]
    show supplied ((session.fetcher.get own).after.queue url) index =
      supplied (session.fetcher.queue url) (index + countOf url [fetch])
    by_cases same : own = url
    · have one : countOf url [fetch] = 1 := by simp [countOf, addressed, same]
      rw [one, same, Fetcher.supplied_queue_get]
    · have none : countOf url [fetch] = 0 := by simp [countOf, addressed, same]
      have untouched : (session.fetcher.get own).after.queue url = session.fetcher.queue url := by
        rw [Fetcher.queue, session.fetcher.queue?_get_of_ne (Ne.symm same), Fetcher.queue]
      rw [none, untouched, Nat.add_zero]

theorem countOf_cons (first : ServiceFetch) (rest : List ServiceFetch) :
    countOf url (first :: rest) = countOf url rest + countOf url [first] := by
  simp [countOf, List.countP_cons]

/-- Each fetch of a run sees the use of its URL's queue that comes after those of the earlier
fetches of that URL. -/
theorem answered_run (session : FetchSession) {fetches : List ServiceFetch} {index : Nat}
    (placed : fetches[index]? = some fetch) (addressed : fetch.address = .ok url) :
    ∃ step, (session.run (fetches.map ServiceFetch.action))[index]? = some step ∧
      fetch.Answered (useAt (session.queue url) url (countOf url (fetches.take index)))
        step.answer := by
  induction fetches generalizing session index with
  | nil => contradiction
  | cons first rest hypothesis =>
    cases index with
    | zero =>
      injection placed with same
      subst same
      refine ⟨session.step first.action, rfl, ?_⟩
      have answered := (session.step_of_url addressed).1
      rwa [Fetcher.get_result] at answered
    | succ index =>
      obtain ⟨step, taken, answered⟩ := hypothesis (session.step first.action).after placed
      refine ⟨step, taken, ?_⟩
      rw [useAt, session.supplied_step] at answered
      rwa [List.take_succ_cons, countOf_cons, useAt]

/-- A run leaves of each queue what its fetches did not take. -/
theorem supplied_after (session : FetchSession) (fetches : List ServiceFetch) (url : String)
    (index : Nat) :
    supplied ((session.after (fetches.map ServiceFetch.action)).queue url) index =
      supplied (session.queue url) (index + countOf url fetches) := by
  induction fetches generalizing session with
  | nil => rfl
  | cons first rest hypothesis =>
    have later := hypothesis (session.step first.action).after
    rw [session.supplied_step, Nat.add_assoc, ← countOf_cons] at later
    exact later

end FetchSession

namespace Kds

/-- A fetcher comes from another one by one fetch of a URL, which leaves all other queues alone. -/
structure TakesOne (fetcher : Fetcher) (url : String) (after : Fetcher) : Prop where
  fetched : after = (fetcher.get url).after
  others : ∀ other, other ≠ url → after.queue? other = fetcher.queue? other

theorem TakesOne.of_get {fetcher after : Fetcher} (fetched : after = (fetcher.get url).after) :
    TakesOne fetcher url after where
  fetched := fetched
  others other different := by
    rw [fetched]
    exact fetcher.queue?_get_of_ne different

/-- For a product that the service has no name for, nothing is fetched and nothing changes. For any
other one, the fetch of a chain or a key leaves what one fetch of its URL leaves, whatever was found
and whatever is made of it: a chain of exactly two blocks in their order, the wrong count of blocks,
the fault of what is no PEM text, the key as it came, or the error of the fetch. So in a run of
fetches, those of a URL see its queued uses one after the other, and leave the rest of them. -/
theorem fetches_take_one :
    (∀ (fetcher : Fetcher) (product : Product) (chip : Bytes) (levels : PatchLevels),
      product.line.serviceName? = none →
      ((fetchChain fetcher product).result = .error (.unsupportedProduct product.line) ∧
        (fetchChain fetcher product).after = fetcher) ∧
      (fetchKey fetcher product chip levels).result =
          .error (.unsupportedProduct product.line) ∧
        (fetchKey fetcher product chip levels).after = fetcher) ∧
    (∀ (fetcher : Fetcher) (product : Product), product.line.serviceName? ≠ none →
      ∃ url, chainUrl product = .ok url ∧
        TakesOne fetcher url (fetchChain fetcher product).after ∧
        SettlesChain (fetcher.get url).result (fetchChain fetcher product).result) ∧
    (∀ (fetcher : Fetcher) (product : Product) (chip : Bytes) (levels : PatchLevels),
      product.line.serviceName? ≠ none → ∃ url, keyUrl product chip levels = .ok url ∧
        TakesOne fetcher url (fetchKey fetcher product chip levels).after ∧
        SettlesKey (fetcher.get url).result (fetchKey fetcher product chip levels).result) ∧
    (∀ (session : FetchSession) (fetches : List ServiceFetch) (index : Nat)
      (fetch : ServiceFetch) (url : String), fetches[index]? = some fetch →
      fetch.address = .ok url →
      ∃ step, (session.run (fetches.map ServiceFetch.action))[index]? = some step ∧
        fetch.Answered
          (useAt (session.queue url) url (ServiceFetch.countOf url (fetches.take index)))
          step.answer) ∧
    ∀ (session : FetchSession) (fetches : List ServiceFetch) (url : String) (index : Nat),
      supplied ((session.after (fetches.map ServiceFetch.action)).queue url) index =
        supplied (session.queue url) (index + ServiceFetch.countOf url fetches) := by
  refine ⟨fun fetcher product chip levels nameless => ⟨?chainRefused, ?keyRefused⟩,
    fun fetcher product named => ?chain, fun fetcher product chip levels named => ?key,
    fun session fetches index fetch url placed addressed => session.answered_run placed addressed,
    fun session => session.supplied_after⟩
  case chainRefused =>
    exact fetchChain_of_error fetcher
      (FirstFailure.map_eq_error_iff.mpr (linePath_of_nameless nameless))
  case keyRefused =>
    exact fetchKey_of_error fetcher
      (FirstFailure.map_eq_error_iff.mpr (linePath_of_nameless nameless))
  case chain =>
    obtain ⟨url, made⟩ : ∃ url, chainUrl product = .ok url :=
      FirstFailure.exists_map_iff.mpr (exists_linePath_of_named named)
    obtain ⟨after, settled⟩ := fetchChain_of_url fetcher made
    exact ⟨url, made, .of_get after, settled⟩
  case key =>
    obtain ⟨url, made⟩ : ∃ url, keyUrl product chip levels = .ok url :=
      FirstFailure.exists_map_iff.mpr (exists_linePath_of_named named)
    obtain ⟨after, settled⟩ := fetchKey_of_url fetcher made
    exact ⟨url, made, .of_get after, settled⟩

/-- Where the chain of Milan is kept. -/
def milanUrl : String := "https://kdsintf.amd.com/vcek/v1/Milan/cert_chain"

/-- A session in which the chain of Milan is refused at first, with a body, and then empty. -/
def refusingSession : FetchSession where
  fetcher := ⟨.ofList [(milanUrl, [{ body := [1], error := some "429" }, { uses := .times 2 }])]⟩

theorem fetches_take_one_refusing :
    let milan : Product := ⟨.milan, none⟩
    let fetches : List ServiceFetch :=
      [.chain milan, .key ⟨.unknown, none⟩ [] {}, .page milanUrl, .chain milan]
    (fetchKey refusingSession.fetcher ⟨.unknown, none⟩ [] {}).after = refusingSession.fetcher ∧
      (fetchChain refusingSession.fetcher milan).result =
        .error (.fetch (.response milanUrl "429" [1])) ∧
      (∃ step, (refusingSession.run (fetches.map ServiceFetch.action))[3]? = some step ∧
        step.answer = .chain (.error (.chainLength 0))) ∧
      supplied ((refusingSession.after (fetches.map ServiceFetch.action)).queue milanUrl) 0 =
        none := by
  intro milan fetches
  obtain ⟨refused, chains, _, run, left⟩ := fetches_take_one
  have address : chainUrl milan = .ok milanUrl := by decide
  have first : (refusingSession.fetcher.get milanUrl).result =
      .error (.response milanUrl "429" [1]) := by decide
  have third : useAt (refusingSession.queue milanUrl) milanUrl
      (ServiceFetch.countOf milanUrl (fetches.take 3)) = .ok [] := by decide
  refine ⟨(refused refusingSession.fetcher ⟨.unknown, none⟩ [] {} rfl).2.2, ?first, ?third, ?left⟩
  case first =>
    obtain ⟨url, made, _, settled⟩ := chains refusingSession.fetcher milan (by decide)
    rw [address] at made
    injection made with same
    rw [← same] at settled
    exact (settled.unfetched _).mpr first
  case third =>
    obtain ⟨step, taken, answered⟩ :=
      run refusingSession fetches 3 (.chain milan) milanUrl rfl address
    rw [third] at answered
    cases step with
    | mk answer after log =>
      cases answered with
      | chain settled =>
        refine ⟨_, taken, congrArg FetchAnswer.chain ((settled.miscounted 0).mpr ?_)⟩
        exact ⟨[], [], rfl, rfl, rfl, by decide⟩
  case left =>
    rw [left]
    decide

end Kds

end SnpTestbed
