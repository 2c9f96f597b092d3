import SnpTestbed.Error
import SnpTestbed.Log

/-!
# What a call does besides answering

Calls log, and they ask a signer. Both are returned: an outcome is a result with the
activity on the way there, which is put together from the activities of the calls
that were made for it.
-/
namespace SnpTestbed

/-- What a call did besides answering: its log records, and the messages it had signed. -/
structure Activity where
  log : List LogRecord := []
  signed : List Bytes := []
  deriving DecidableEq

instance : Append Activity :=
  ⟨fun earlier later => ⟨earlier.log ++ later.log, earlier.signed ++ later.signed⟩⟩

namespace Activity

/-- A single log record. -/
def logging (record : LogRecord) : Activity := { log := [record] }

/-- A single message handed to a signer. -/
def signing (message : Bytes) : Activity := { signed := [message] }

@[simp] theorem log_append (earlier later : Activity) :
    (earlier ++ later).log = earlier.log ++ later.log := rfl

@[simp] theorem signed_append (earlier later : Activity) :
    (earlier ++ later).signed = earlier.signed ++ later.signed := rfl

end Activity

/-- The result of a call that changes nothing, with its activity. -/
structure Outcome (α : Type) where
  result : Except GuestError α
  activity : Activity := {}

namespace Outcome

variable {α β : Type}

/-- The outcome with something made of its result. -/
def map (make : α → β) (outcome : Outcome α) : Outcome β :=
  ⟨outcome.result.map make, outcome.activity⟩

@[simp] theorem activity_map (make : α → β) (outcome : Outcome α) :
    (outcome.map make).activity = outcome.activity := rfl

@[simp] theorem result_map (make : α → β) (outcome : Outcome α) :
    (outcome.map make).result = outcome.result.map make := rfl

end Outcome

/-- The result of a call with what its subject became. -/
structure Call (σ α : Type) extends Outcome α where
  after : σ

end SnpTestbed
