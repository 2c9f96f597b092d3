import SnpTestbed.Proofs.Fetch.Queues
import SnpTestbed.Session.Fetching

/-!
# Cancellation

Scopes are told apart by number, and what was canceled is a list of numbers. Over a
session that starts with neither, this comes to what cancellation means:
`isCanceled_after_iff` finds the call that canceled a scope, and `Numbered` keeps new
scopes clear of all earlier ones. A fetch that its context forbids leaves the session
as it was, so a session without such fetches is the same session, and since neither
cancellation nor time is taken back, a context that forbids a fetch forbids every later
one.
-/
namespace SnpTestbed

namespace CancelScope

/-- The numbers of a scope and of those it descends from. -/
def lineage (scope : CancelScope) : List Nat := scope.own :: scope.ancestors

theorem isCanceled_iff {scope : CancelScope} {canceled : List Nat} :
    scope.isCanceled canceled = true ↔ ∃ number ∈ scope.lineage, number ∈ canceled := by
  simp [isCanceled, lineage]

end CancelScope

/-- Whether an answer is that a context forbade the fetch. -/
def FetchAnswer.isRefusal : FetchAnswer → Bool
  | .fetched (.error .canceled) | .fetched (.error .deadlineExceeded) => true
  | _ => false

/-- Whether the deadline of a context has come. -/
def FetchContext.IsOverdue (context : FetchContext) (now : Nat) : Prop :=
  ∃ deadline, context.deadline = some deadline ∧ deadline ≤ now

namespace FetchContext

variable {context : FetchContext} {canceled : List Nat} {now : Nat}

theorem error?_of_isCanceled (isCanceled : context.scope.isCanceled canceled = true) :
    context.error? canceled now = some .canceled := by
  rw [error?, if_pos isCanceled]

theorem error?_of_isOverdue (clear : context.scope.isCanceled canceled = false)
    (overdue : context.IsOverdue now) :
    context.error? canceled now = some .deadlineExceeded := by
  obtain ⟨deadline, due, passed⟩ := overdue
  simp only [error?, clear, due, if_pos passed, Bool.false_eq_true, if_false]

theorem error?_of_live (clear : context.scope.isCanceled canceled = false)
    (early : ¬context.IsOverdue now) : context.error? canceled now = none := by
  cases due : context.deadline with
  | none => simp only [error?, clear, due, Bool.false_eq_true, if_false]
  | some deadline =>
    have ahead : ¬deadline ≤ now := fun passed => early ⟨deadline, due, passed⟩
    simp only [error?, clear, due, if_neg ahead, Bool.false_eq_true, if_false]

/-- What a context says of a fetch, and why. -/
inductive Verdict (context : FetchContext) (canceled : List Nat) (now : Nat) :
    Option FetchError → Prop
  | canceled (reached : context.scope.isCanceled canceled = true) :
    Verdict context canceled now (some .canceled)
  | overdue (clear : context.scope.isCanceled canceled = false)
    (overdue : context.IsOverdue now) :
    Verdict context canceled now (some .deadlineExceeded)
  | allowed (clear : context.scope.isCanceled canceled = false)
    (early : ¬context.IsOverdue now) : Verdict context canceled now none

theorem verdict (context : FetchContext) (canceled : List Nat) (now : Nat) :
    context.Verdict canceled now (context.error? canceled now) := by
  cases reached : context.scope.isCanceled canceled with
  | true =>
    rw [error?_of_isCanceled reached]
    exact .canceled reached
  | false =>
    by_cases overdue : context.IsOverdue now
    · rw [error?_of_isOverdue reached overdue]
      exact .overdue reached overdue
    · rw [error?_of_live reached overdue]
      exact .allowed reached overdue

/-- All reasons that a context can have are refusals. -/
theorem isRefusal_of_error? {error : FetchError}
    (forbidden : context.error? canceled now = some error) :
    (FetchAnswer.fetched (.error error)).isRefusal = true := by
  have verdict := context.verdict canceled now
  rw [forbidden] at verdict
  cases verdict with
  | canceled reached => rfl
  | overdue clear overdue => rfl

/-- Canceled scopes stay canceled and time goes on, so what a context forbids stays forbidden. -/
theorem error?_persists {later : List Nat} {afterwards : Nat} {error : FetchError}
    (grown : context.scope.isCanceled canceled = true → context.scope.isCanceled later = true)
    (passed : now ≤ afterwards) (forbidden : context.error? canceled now = some error) :
    ∃ error', context.error? later afterwards = some error' ∧
      (error = .canceled → error' = .canceled) := by
  have verdict := context.verdict canceled now
  rw [forbidden] at verdict
  cases verdict with
  | canceled reached => exact ⟨.canceled, error?_of_isCanceled (grown reached), fun _ => rfl⟩
  | overdue clear overdue =>
    -- A scope may have been canceled since, and then that is the reason.
    cases reached : context.scope.isCanceled later with
    | true => exact ⟨.canceled, error?_of_isCanceled reached, fun _ => rfl⟩
    | false =>
      obtain ⟨deadline, due, came⟩ := overdue
      have overdueStill : context.IsOverdue afterwards :=
        ⟨deadline, due, Nat.le_trans came passed⟩
      exact ⟨.deadlineExceeded, error?_of_isOverdue reached overdueStill, nofun⟩

end FetchContext

/-- A fetch without a context is never answered so. -/
theorem Fetcher.isRefusal_get (fetcher : Fetcher) (url : String) :
    (FetchAnswer.fetched (fetcher.get url).result).isRefusal = false := by
  cases waiting : fetcher.queue url with
  | nil =>
    rw [(get_of_exhausted waiting).1, FetchAnswer.isRefusal]
    all_goals nofun
  | cons front later =>
    rw [(get_of_front waiting).1, CannedResponse.deliver]
    split
    · rfl
    · rfl

namespace FetchSession

/-- A session at its start. -/
def start (fetcher : Fetcher) (now : Nat) : FetchSession := { fetcher, now }

/-- Among the actions there is one that canceled a context of this scope, or of one it descends
from. -/
def CanceledDuring (session : FetchSession) (actions : List FetchAction)
    (scope : CancelScope) : Prop :=
  ∃ before name later context, actions = before ++ .cancel name :: later ∧
    (session.after before).contexts.find? name = some context ∧ context.scope.own ∈ scope.lineage

variable {session : FetchSession}

theorem after_cons (action : FetchAction) (rest : List FetchAction) :
    session.after (action :: rest) = (session.step action).after.after rest := rfl

theorem canceledDuring_cons {action : FetchAction} {rest : List FetchAction}
    {scope : CancelScope} :
    session.CanceledDuring (action :: rest) scope ↔
      (∃ name context, action = .cancel name ∧ session.contexts.find? name = some context ∧
        context.scope.own ∈ scope.lineage) ∨
      (session.step action).after.CanceledDuring rest scope := by
  constructor
  · rintro ⟨before, name, later, context, split, found, reaches⟩
    cases before with
    | nil =>
      injection split with same _
      exact .inl ⟨name, context, same, found, reaches⟩
    | cons first before =>
      injection split with same split
      subst same
      exact .inr ⟨before, name, later, context, split, found, reaches⟩
  · rintro (⟨name, context, rfl, found, reaches⟩ |
      ⟨before, name, later, context, rfl, found, reaches⟩)
    · exact ⟨[], name, rest, context, rfl, found, reaches⟩
    · exact ⟨action :: before, name, later, context, rfl, found, reaches⟩

/-- Of all actions only canceling a context cancels anything. -/
theorem isCanceled_step_iff (session : FetchSession) (action : FetchAction) (scope : CancelScope) :
    scope.isCanceled (session.step action).after.canceled = true ↔
      scope.isCanceled session.canceled = true ∨
        ∃ name context, action = .cancel name ∧ session.contexts.find? name = some context ∧
          context.scope.own ∈ scope.lineage := by
  cases action with
  | cancel name =>
    cases found : session.contexts.find? name with
    | none => simp [step, cancel, found]
    | some context =>
      simp only [step, cancel, found, CancelScope.isCanceled_iff]
      constructor
      · rintro ⟨number, descends, reached⟩
        rcases List.mem_cons.mp reached with rfl | earlier
        · exact .inr ⟨name, context, rfl, found, descends⟩
        · exact .inl ⟨number, descends, earlier⟩
      · rintro (⟨number, descends, earlier⟩ | ⟨_, _, ⟨⟩, same, descends⟩)
        · exact ⟨number, descends, List.mem_cons_of_mem _ earlier⟩
        · obtain rfl := Option.some.inj (found.symm.trans same)
          exact ⟨_, descends, List.mem_cons_self ..⟩
  | _ => simp [step, afterFetch, makeContext]

/-- A scope is canceled by a call that canceled it, or one that it descends from, and by nothing
else. -/
theorem isCanceled_after_iff (session : FetchSession) (actions : List FetchAction)
    (scope : CancelScope) :
    scope.isCanceled (session.after actions).canceled = true ↔
      scope.isCanceled session.canceled = true ∨ session.CanceledDuring actions scope := by
  induction actions generalizing session with
  | nil =>
    refine (or_iff_left ?_).symm
    rintro ⟨before, name, later, context, split, _⟩
    exact absurd split (by simp)
  | cons action rest hypothesis =>
    rw [after_cons, hypothesis, isCanceled_step_iff, canceledDuring_cons, or_assoc]

theorem now_step (session : FetchSession) (action : FetchAction) :
    session.now ≤ (session.step action).after.now := by
  cases action with
  | advance duration => exact Nat.le_add_right _ _
  | cancel name =>
    simp only [step, cancel]
    split
    · exact Nat.le_refl _
    · exact Nat.le_refl _
  | _ => exact Nat.le_refl _

theorem now_after (session : FetchSession) (actions : List FetchAction) :
    session.now ≤ (session.after actions).now := by
  induction actions generalizing session with
  | nil => exact Nat.le_refl _
  | cons action rest hypothesis =>
    exact Nat.le_trans (session.now_step action) (hypothesis _)

/-- Every scope number in use was given out. -/
structure Numbered (session : FetchSession) : Prop where
  held : ∀ name context, session.contexts.find? name = some context →
    ∀ number ∈ context.scope.lineage, number < session.nextScope
  canceled : ∀ number ∈ session.canceled, number < session.nextScope

theorem numbered_start (fetcher : Fetcher) (now : Nat) : (start fetcher now).Numbered where
  held name context found := by
    rw [start, Catalog.find?_empty] at found
    contradiction
  canceled number reached := by contradiction

/-- The next number is given to a context whose name was never given. -/
theorem Numbered.context (numbered : session.Numbered) (name : String) :
    ∀ number ∈ (session.context name).scope.lineage, number ≤ session.nextScope := by
  unfold FetchSession.context
  cases found : session.contexts.find? name with
  | none => simp [freshContext, CancelScope.lineage]
  | some context =>
    intro number descends
    exact Nat.le_of_lt (numbered.held name context found number descends)

theorem Numbered.originate (numbered : session.Numbered) (origin : ContextOrigin) :
    ∀ number ∈ (session.originate origin).scope.lineage, number ≤ session.nextScope := by
  cases origin with
  | fresh => simp [FetchSession.originate, freshContext, CancelScope.lineage]
  | childOf parent =>
    intro number descends
    rcases List.mem_cons.mp descends with rfl | inherited
    · exact Nat.le_refl _
    · exact numbered.context parent number inherited
  | copyOf name => exact numbered.context name

theorem Numbered.makeContext (numbered : session.Numbered) (name : String) (origin : ContextOrigin)
    (deadline : Option Nat) : (session.makeContext name origin deadline).after.Numbered where
  held other context found number descends := by
    by_cases same : other = name
    · subst same
      rw [FetchSession.makeContext, Catalog.find?_insert_self] at found
      injection found with found
      subst found
      exact Nat.lt_succ_of_le (numbered.originate origin number descends)
    · rw [FetchSession.makeContext, Catalog.find?_insert_of_ne _ same] at found
      exact Nat.lt_succ_of_lt (numbered.held other context found number descends)
  canceled number reached := Nat.lt_succ_of_lt (numbered.canceled number reached)

theorem Numbered.step (numbered : session.Numbered) (action : FetchAction) :
    (session.step action).after.Numbered := by
  cases action with
  | makeContext name origin deadline => exact numbered.makeContext name origin deadline
  | cancel name =>
    simp only [FetchSession.step, FetchSession.cancel]
    cases found : session.contexts.find? name with
    | none => exact numbered
    | some context =>
      refine ⟨numbered.held, fun number reached => ?_⟩
      rcases List.mem_cons.mp reached with rfl | earlier
      · exact numbered.held name context found _ (List.mem_cons_self ..)
      · exact numbered.canceled number earlier
  | _ => exact ⟨numbered.held, numbered.canceled⟩

theorem Numbered.after (numbered : session.Numbered) (actions : List FetchAction) :
    (session.after actions).Numbered := by
  induction actions generalizing session with
  | nil => exact numbered
  | cons action rest hypothesis => exact hypothesis (numbered.step action)

/-- Whether the scope of a named context is canceled. -/
def isCanceled (session : FetchSession) (name : String) : Bool :=
  (session.context name).scope.isCanceled session.canceled

/-- Whether a context from this origin is canceled from the start. -/
def bornCanceled (session : FetchSession) : ContextOrigin → Bool
  | .fresh => false
  | .childOf parent => session.isCanceled parent
  | .copyOf name => session.isCanceled name

theorem Numbered.next_not_canceled (numbered : session.Numbered) :
    session.nextScope ∉ session.canceled :=
  fun reached => Nat.lt_irrefl _ (numbered.canceled _ reached)

/-- A scope of its own is not canceled when it is made; a child is if its parent is. -/
theorem Numbered.isCanceled_makeContext (numbered : session.Numbered) (name : String)
    (origin : ContextOrigin) (deadline : Option Nat) :
    (session.makeContext name origin deadline).after.isCanceled name =
      session.bornCanceled origin := by
  have made : ((session.makeContext name origin deadline).after.context name).scope =
      (session.originate origin).scope := by
    simp only [FetchSession.makeContext, FetchSession.context, Catalog.find?_insert_self,
      Option.getD_some]
  rw [isCanceled, made, bornCanceled.eq_def]
  have same : (session.makeContext name origin deadline).after.canceled = session.canceled := rfl
  rw [same]
  cases origin with
  | fresh => simp [FetchSession.originate, freshContext, CancelScope.isCanceled,
      numbered.next_not_canceled]
  | childOf parent => simp [FetchSession.originate, CancelScope.child, CancelScope.isCanceled,
      numbered.next_not_canceled, isCanceled]
  | copyOf copied => rfl

/-- Whether an action is a fetch that its context forbids. -/
def forbids (session : FetchSession) : FetchAction → Bool
  | .getWithin name _ => (session.contextError? name).isSome
  | _ => false

/-- The actions of a run without the fetches that their contexts forbid. -/
def living (session : FetchSession) : List FetchAction → List FetchAction
  | [] => []
  | action :: rest =>
    let after := (session.step action).after
    if session.forbids action then after.living rest else action :: after.living rest

/-- A forbidden fetch is answered with the reason, and nothing else happens. -/
theorem step_getWithin_of_forbidden {name : String} {error : FetchError}
    (forbidden : session.contextError? name = some error) (url : String) :
    (session.step (.getWithin name url)).answer = .fetched (.error error) ∧
      (session.step (.getWithin name url)).after = session := by
  have reason : (session.context name).error? session.canceled session.now = some error := forbidden
  simp only [step, afterFetch, Fetcher.getWithin, reason, and_self]

/-- A fetch that is not forbidden is a fetch without a context. -/
theorem step_getWithin_of_allowed {name : String} (allowed : session.contextError? name = none)
    (url : String) : session.step (.getWithin name url) = session.step (.get url) := by
  have free : (session.context name).error? session.canceled session.now = none := allowed
  simp only [step, Fetcher.getWithin, free]

/-- The fetches that their contexts forbid are those with a refusal for an answer. -/
theorem isRefusal_step (session : FetchSession) (action : FetchAction) :
    (session.step action).answer.isRefusal = session.forbids action := by
  cases action with
  | get url => exact session.fetcher.isRefusal_get url
  | getWithin name url =>
    cases reason : session.contextError? name with
    | none =>
      rw [step_getWithin_of_allowed reason, forbids, reason]
      exact session.fetcher.isRefusal_get url
    | some error =>
      rw [(step_getWithin_of_forbidden reason url).1, forbids, reason]
      exact FetchContext.isRefusal_of_error? reason
  | _ => rfl

theorem after_step_of_forbids {action : FetchAction} (forbidden : session.forbids action = true) :
    (session.step action).after = session := by
  cases action with
  | getWithin name url =>
    obtain ⟨error, reason⟩ := Option.isSome_iff_exists.mp forbidden
    exact (step_getWithin_of_forbidden reason url).2
  | _ => contradiction

/-- Without the forbidden fetches a run takes the same steps but for those, and ends the same. -/
theorem run_living (session : FetchSession) (actions : List FetchAction) :
    session.run (session.living actions) =
        (session.run actions).filter (fun taken => !taken.answer.isRefusal) ∧
      session.after (session.living actions) = session.after actions := by
  induction actions generalizing session with
  | nil => exact ⟨rfl, rfl⟩
  | cons action rest hypothesis =>
    obtain ⟨steps, final⟩ := hypothesis (session.step action).after
    have answered := session.isRefusal_step action
    cases forbidden : session.forbids action with
    | true =>
      rw [forbidden] at answered
      have unchanged := after_step_of_forbids forbidden
      rw [living, if_pos forbidden, after_cons, run, List.filter_cons_of_neg (by simp [answered])]
      rw [unchanged] at steps final ⊢
      exact ⟨steps, final⟩
    | false =>
      rw [forbidden] at answered
      rw [living, if_neg (by simp [forbidden]), after_cons, run, run,
        List.filter_cons_of_pos (by simp [answered]), steps]
      exact ⟨rfl, final⟩

/-- What a context forbids, it forbids for good, and once canceled it stays canceled. -/
theorem contextError?_persists {name other : String} {later : List FetchAction}
    {error : FetchError} (forbidden : session.contextError? name = some error)
    (same : (session.after later).context other = session.context name) :
    ∃ error', (session.after later).contextError? other = some error' ∧
      (error = .canceled → error' = .canceled) := by
  unfold contextError?
  rw [same]
  refine FetchContext.error?_persists (fun canceled => ?_) (session.now_after later) forbidden
  exact (session.isCanceled_after_iff later _).mpr (.inl canceled)

theorem exists_error_of_isRefusal {name url : String}
    (refused : (session.step (.getWithin name url)).answer.isRefusal = true) :
    ∃ error, session.contextError? name = some error ∧
      (session.step (.getWithin name url)).answer = .fetched (.error error) := by
  rw [isRefusal_step] at refused
  obtain ⟨error, forbidden⟩ := Option.isSome_iff_exists.mp refused
  exact ⟨error, forbidden, (step_getWithin_of_forbidden forbidden url).1⟩

/-- A context that refused a fetch refuses all later ones. -/
theorem refusal_persists {name other : String} {later : List FetchAction}
    (same : (session.after later).context other = session.context name) (url url' : String)
    (refused : (session.step (.getWithin name url)).answer.isRefusal = true) :
    ((session.after later).step (.getWithin other url')).answer.isRefusal = true ∧
      ((session.step (.getWithin name url)).answer = .fetched (.error .canceled) →
        ((session.after later).step (.getWithin other url')).answer =
          .fetched (.error .canceled)) := by
  obtain ⟨error, forbidden, answered⟩ := exists_error_of_isRefusal refused
  obtain ⟨error', forbidden', canceled⟩ := contextError?_persists forbidden same
  rw [answered, (step_getWithin_of_forbidden forbidden' url').1]
  refine ⟨FetchContext.isRefusal_of_error? forbidden', fun first => ?_⟩
  injection first with first
  injection first with first
  rw [canceled first]

/-- Over any session, a fetch whose context is canceled or overdue is refused, for the first
reason before the second, and has no effect, so that it could as well be left out; every other
fetch within a context is a plain one; and a refusal is not taken back. Being canceled means that
the context, one with the same scope, or one that it descends from was canceled before. -/
theorem refused_fetch_uses_nothing (fetcher : Fetcher) (now : Nat) (actions : List FetchAction) :
    let begun := start fetcher now
    let session := begun.after actions
    (∀ name, session.isCanceled name = true ↔
      begun.CanceledDuring actions (session.context name).scope) ∧
    (∀ name origin deadline,
      (session.step (.makeContext name origin deadline)).after.isCanceled name =
        session.bornCanceled origin) ∧
    (∀ name url,
      let fetch := session.step (.getWithin name url)
      (session.isCanceled name = true →
        fetch.answer = .fetched (.error .canceled) ∧ fetch.after = session) ∧
      (session.isCanceled name = false → (session.context name).IsOverdue session.now →
        fetch.answer = .fetched (.error .deadlineExceeded) ∧ fetch.after = session) ∧
      (session.isCanceled name = false → ¬(session.context name).IsOverdue session.now →
        fetch = session.step (.get url))) ∧
    (begun.run (begun.living actions) =
        (begun.run actions).filter (fun taken => !taken.answer.isRefusal) ∧
      begun.after (begun.living actions) = session) ∧
    ∀ name later other url url', (session.after later).context other = session.context name →
      let earlier := (session.step (.getWithin name url)).answer
      let afterwards := ((session.after later).step (.getWithin other url')).answer
      (earlier.isRefusal = true → afterwards.isRefusal = true) ∧
      (earlier = .fetched (.error .canceled) → afterwards = .fetched (.error .canceled)) := by
  refine ⟨fun name => ?canceled, ?born, fun name url => ⟨?reached, ?overdue, ?live⟩,
    (start fetcher now).run_living actions, ?persists⟩
  case canceled =>
    rw [isCanceled, isCanceled_after_iff]
    exact or_iff_right (by simp [start, CancelScope.isCanceled_iff])
  case born =>
    intro name origin deadline
    exact ((numbered_start fetcher now).after actions).isCanceled_makeContext name origin deadline
  case reached =>
    intro reached
    exact step_getWithin_of_forbidden (FetchContext.error?_of_isCanceled reached) url
  case overdue =>
    intro clear overdue
    exact step_getWithin_of_forbidden (FetchContext.error?_of_isOverdue clear overdue) url
  case live =>
    intro clear early
    exact step_getWithin_of_allowed (FetchContext.error?_of_live clear early) url
  case persists =>
    intro name later other url url' same
    refine ⟨fun refused => (refusal_persists same url url' refused).1, fun canceled => ?_⟩
    refine (refusal_persists same url url' ?_).2 canceled
    rw [canceled, FetchAnswer.isRefusal]

/-- A context outlives its deadline, and then another one that it is a child of is canceled. -/
def orphaning : List FetchAction :=
  [.makeContext "parent" .fresh none, .makeContext "child" (.childOf "parent") (some 3),
    .advance 5, .getWithin "child" "url", .cancel "parent"]

theorem refused_fetch_uses_nothing_orphaning :
    let begun := start (.simple [("url", [1])]) 0
    let session := begun.after orphaning
    (session.step (.getWithin "child" "url")).answer = .fetched (.error .canceled) ∧
      (session.step (.getWithin "child" "url")).after = session ∧
      begun.after (begun.living orphaning) = session ∧
      ((session.after [.advance 1]).step (.getWithin "child" "url")).answer =
        .fetched (.error .canceled) := by
  intro begun session
  obtain ⟨_, _, fetches, ⟨_, same⟩, lasting⟩ :=
    refused_fetch_uses_nothing (.simple [("url", [1])]) 0 orphaning
  obtain ⟨answered, unchanged⟩ := (fetches "child" "url").1 rfl
  exact ⟨answered, unchanged, same,
    (lasting "child" [.advance 1] "child" "url" "url" rfl).2 answered⟩

end FetchSession

end SnpTestbed
