import SnpTestbed.Fetch.Fetcher

/-!
# Fetch contexts

A context can forbid a fetch: because the scope it belongs to was canceled, or
because its deadline has come. Scopes are numbered; canceling one cancels all
that descend from it, also those made later, so a context carries the numbers of
its whole line of descent. Time is a number that only grows.
-/
namespace SnpTestbed

/-- A cancellation scope: its own number, and those of the scopes it descends from. -/
structure CancelScope where
  own : Nat
  ancestors : List Nat
  deriving DecidableEq, Repr

namespace CancelScope

/-- The scope with this number that descends from another one. -/
def child (scope : CancelScope) (own : Nat) : CancelScope := ⟨own, scope.own :: scope.ancestors⟩

/-- Whether one of the canceled numbers is the scope's own or an ancestor's. -/
def isCanceled (scope : CancelScope) (canceled : List Nat) : Bool :=
  (scope.own :: scope.ancestors).any canceled.contains

end CancelScope

/-- What a fetch is subject to. -/
structure FetchContext where
  scope : CancelScope
  deadline : Option Nat
  deriving DecidableEq, Repr

namespace FetchContext

/-- Why a context forbids a fetch now; cancellation comes before the deadline. -/
def error? (context : FetchContext) (canceled : List Nat) (now : Nat) : Option FetchError :=
  if context.scope.isCanceled canceled then some .canceled
  else
    match context.deadline with
    | some deadline => if deadline ≤ now then some .deadlineExceeded else none
    | none => none

end FetchContext

/-- Fetches a URL unless the context forbids it; a forbidden fetch uses no response. -/
def Fetcher.getWithin (fetcher : Fetcher) (context : FetchContext) (canceled : List Nat) (now : Nat)
    (url : String) : Fetched FetchError Bytes :=
  match context.error? canceled now with
  | some error =>
    { result := .error error, after := fetcher
      log := [.debug ("GET " ++ url ++ ": " ++ error.message)] }
  | none => fetcher.get url

end SnpTestbed
