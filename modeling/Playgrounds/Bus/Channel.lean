/-!
# Channels

A channel carries messages to any number of readers. It keeps the last few messages; a reader that
falls further behind loses the oldest and is told how many.

* `Channel.send` — one more message.
* `Channel.receive` — what a reader at a given position gets next, and its position after that.
* `Channel.number` — the message with a given number, as long as it is kept.
-/

namespace Playgrounds

/-- The messages that a channel keeps at most. -/
def Channel.capacity : Nat := 256

/-- A channel. Its messages are numbered from zero. -/
structure Channel (α : Type) where
  sent : Nat
  /-- The last messages, newest first. -/
  kept : List α
deriving DecidableEq, Repr

/-- What a reader gets. -/
inductive Received (α : Type) where
  | message (a : α)
  /-- So many messages were lost to this reader. -/
  | lagged (count : Nat)
  /-- There is no message yet. -/
  | nothing
deriving DecidableEq, Repr

namespace Channel

variable {α : Type}

/-- A channel that has carried nothing. -/
def empty : Channel α := ⟨0, []⟩

/-- Sends a message. -/
def send (c : Channel α) (a : α) : Channel α :=
  ⟨c.sent + 1, (a :: c.kept).take capacity⟩

/-- The number of the oldest message that is kept. -/
def oldest (c : Channel α) : Nat :=
  c.sent - c.kept.length

/-- The message number `n`, if it was sent and is still kept. -/
def number (c : Channel α) (n : Nat) : Option α :=
  if n < c.sent then c.kept[c.sent - 1 - n]? else none

/-- What a reader gets that has dealt with the messages before `position`, and its position after
that. -/
def receive (c : Channel α) (position : Nat) : Received α × Nat :=
  if position < c.oldest then (.lagged (c.oldest - position), c.oldest)
  else
    match c.number position with
    | some a => (.message a, position + 1)
    | none => (.nothing, position)

end Channel

end Playgrounds
