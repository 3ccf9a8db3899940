/-!
# Cancellation

* `Token` — names a piece of work that can be cancelled; a token may have children.
* `Cancellations` — the tokens that have been cancelled. Cancelling a token cancels its children,
  those to come included.
-/

namespace Playgrounds

/-- Names a piece of work that can be cancelled. -/
inductive Token where
  /-- All that the dispatcher started. -/
  | dispatcher
  /-- What was started under a name. -/
  | named (name : String)
  | child (parent : Token) (serial : Nat)
deriving DecidableEq, Repr

/-- The tokens that have been cancelled, and how many children have been made. -/
structure Cancellations where
  issued : Nat
  cancelled : List Token
deriving Repr

namespace Cancellations

/-- Nothing has been cancelled. -/
def none : Cancellations := ⟨0, []⟩

/-- A new child of a token. -/
def child (c : Cancellations) (parent : Token) : Token × Cancellations :=
  (.child parent c.issued, { c with issued := c.issued + 1 })

/-- Cancels a token. -/
def cancel (c : Cancellations) (t : Token) : Cancellations :=
  if t ∈ c.cancelled then c else { c with cancelled := t :: c.cancelled }

/-- Whether a token is cancelled, itself or through one that it descends from. -/
def covers (c : Cancellations) : Token → Bool
  | .child parent serial => Token.child parent serial ∈ c.cancelled || c.covers parent
  | t => t ∈ c.cancelled

end Cancellations

end Playgrounds
