import SnpTestbed.Fetch.Context
import SnpTestbed.Kds

/-!
# Fetching sessions

A session is a fetcher, named contexts to fetch within, and a clock. Contexts
are made fresh, as children of others, or as copies of others, and canceling one
reaches its scope and all that descend from it. Renaming a context away leaves
the scopes of its children as they are.
-/
namespace SnpTestbed

/-- Where a new context comes from. -/
inductive ContextOrigin
  | fresh
  | childOf (parent : String)
  | copyOf (name : String)
  deriving DecidableEq, Repr

/-- Something done in a session. -/
inductive FetchAction
  | get (url : String)
  | getMany (count : Nat) (url : String)
  | getWithin (context url : String)
  | makeContext (name : String) (origin : ContextOrigin) (deadline : Option Nat)
  | cancel (name : String)
  | inspect (name : String)
  | advance (duration : Nat)
  | add (url : String) (response : CannedResponse)
  | clear (url : String)
  | remaining (url : String)
  | done
  | checkDone
  | fetchChain (product : Product)
  | fetchKey (product : Product) (chip : Bytes) (levels : Kds.PatchLevels)

/-- The answer to an action. -/
inductive FetchAnswer
  | fetched (result : Except FetchError Bytes)
  | fetchedMany (results : List (Except FetchError Bytes))
  | context (hasDeadline : Bool)
  | inspected (error : Option FetchError) (canceled : Bool)
  | changed
  | count (count : Nat)
  | failures (texts : List String)
  | checked (result : Except String Unit)
  | chain (result : Except Kds.Error Kds.Chain)
  | key (result : Except Kds.Error Bytes)

/-- A fetcher, its contexts by name, the canceled scopes, and the time. -/
structure FetchSession where
  fetcher : Fetcher
  contexts : Catalog FetchContext := .empty
  canceled : List Nat := []
  nextScope : Nat := 0
  now : Nat := 0

/-- An answer, the session after it, and what was logged on the way. -/
structure FetchStep where
  answer : FetchAnswer
  after : FetchSession
  log : List LogRecord := []

namespace FetchSession

/-- A context of its own, in a scope with this number. -/
def freshContext (scope : Nat) : FetchContext := ⟨⟨scope, []⟩, none⟩

/-- The context of a name; a name that was never given stands for a fresh one. -/
def context (session : FetchSession) (name : String) : FetchContext :=
  (session.contexts.find? name).getD (freshContext session.nextScope)

/-- The context that an origin amounts to. -/
def originate (session : FetchSession) : ContextOrigin → FetchContext
  | .fresh => freshContext session.nextScope
  | .childOf parent => ⟨(session.context parent).scope.child session.nextScope, none⟩
  | .copyOf name => session.context name

/-- Makes a context; a deadline replaces the one that it came with. -/
def makeContext (session : FetchSession) (name : String) (origin : ContextOrigin)
    (deadline : Option Nat) : FetchStep :=
  let made := session.originate origin
  let context : FetchContext := { made with deadline := deadline.or made.deadline }
  { answer := .context context.deadline.isSome
    after := { session with
      contexts := session.contexts.insert name context
      nextScope := session.nextScope + 1 } }

/-- The session after a fetch, with an answer and the log of the fetch. -/
def afterFetch {ε α : Type} (session : FetchSession) (fetched : Fetched ε α)
    (answer : Except ε α → FetchAnswer) : FetchStep :=
  ⟨answer fetched.result, { session with fetcher := fetched.after }, fetched.log⟩

/-- Why the context of a name forbids a fetch now. -/
def contextError? (session : FetchSession) (name : String) : Option FetchError :=
  (session.context name).error? session.canceled session.now

/-- Cancels the scope of a context; a name that was never given has none. -/
def cancel (session : FetchSession) (name : String) : FetchSession :=
  match session.contexts.find? name with
  | some context => { session with canceled := context.scope.own :: session.canceled }
  | none => session

/-- The results and records of fetching a URL several times, and the fetcher after that. -/
def getMany (fetcher : Fetcher) (url : String) :
    (count : Nat) → List (Except FetchError Bytes) × Fetcher × List LogRecord
  | 0 => ([], fetcher, [])
  | count + 1 =>
    let fetched := fetcher.get url
    let (results, after, log) := getMany fetched.after url count
    (fetched.result :: results, after, fetched.log ++ log)

/-- Carries out an action. -/
def step (session : FetchSession) : FetchAction → FetchStep
  | .get url => session.afterFetch (session.fetcher.get url) .fetched
  | .getMany count url =>
    let (results, fetcher, log) := getMany session.fetcher url count
    ⟨.fetchedMany results, { session with fetcher }, log⟩
  | .getWithin name url =>
    session.afterFetch
      (session.fetcher.getWithin (session.context name) session.canceled session.now url) .fetched
  | .makeContext name origin deadline => session.makeContext name origin deadline
  | .cancel name => { answer := .changed, after := session.cancel name }
  | .inspect name =>
    { answer := .inspected (session.contextError? name)
        ((session.context name).scope.isCanceled session.canceled)
      after := session }
  | .advance duration =>
    { answer := .changed
      after := { session with now := session.now + duration } }
  | .add url response =>
    { answer := .changed
      after := { session with fetcher := session.fetcher.withResponse url response } }
  | .clear url =>
    { answer := .changed, after := { session with fetcher := session.fetcher.withQueue url [] } }
  | .remaining url => { answer := .count (session.fetcher.remaining url), after := session }
  | .done =>
    let completion := session.fetcher.done ([] : List String)
    ⟨.failures completion.sink, session, completion.log⟩
  | .checkDone =>
    { answer := .checked session.fetcher.checkDone
      after := session
      log := (session.fetcher.done ([] : List String)).log }
  | .fetchChain product => session.afterFetch (Kds.fetchChain session.fetcher product) .chain
  | .fetchKey product chip levels =>
    session.afterFetch (Kds.fetchKey session.fetcher product chip levels) .key

/-- Carries out actions in order. -/
def run (session : FetchSession) : List FetchAction → List FetchStep
  | [] => []
  | action :: rest =>
    let taken := session.step action
    taken :: taken.after.run rest

/-- The session after actions in order. -/
def after (session : FetchSession) (actions : List FetchAction) : FetchSession :=
  actions.foldl (fun session action => (session.step action).after) session

end FetchSession

end SnpTestbed
