import SnpTestbed.Activity

/-!
# Command channels

A command channel is what a client talks to: it is opened at a path, takes
numbered commands with a request, and is closed. Channels are values; a call
returns the channel after it, together with what it logged and what it had
signed on the way.
-/
namespace SnpTestbed

/-- A command that was carried out or refused: the exit, the request as it came back, and the
channel after it. -/
structure Exchange (δ : Type) (command : Command) where
  exit : Except GuestError ExitResult
  request : GuestRequest command
  device : δ
  activity : Activity := {}

/-- The channels that guest clients talk to. -/
class CommandChannel (δ : Type) where
  /-- Opens the channel at a path. -/
  openAt : δ → String → Call δ Unit
  /-- Closes the channel. -/
  close : δ → Call δ Unit
  /-- Sends a request under a command number, which need not be the request's own. -/
  exchange {command : Command} : δ → UInt64 → GuestRequest command → Exchange δ command

end SnpTestbed
