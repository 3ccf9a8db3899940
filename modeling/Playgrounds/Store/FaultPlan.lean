import Playgrounds.Store.Operation

/-!
# Planned faults of a store

A store under test can be told how to behave.

* `Fault` — how one call of the store goes wrong.
* `FaultPlan` — the faults that wait for calls of an operation about a record, and the operations
  that are out of order altogether.
* `FaultPlan.begin` — how the plan makes a call begin.
-/

namespace Playgrounds.Store

/-- How a call of the store goes wrong. -/
inductive Fault where
  /-- It does not. -/
  | none
  | fail
  | unreadable
  | missing
  /-- The caller breaks down. -/
  | breakDown
  /-- There is never an answer. -/
  | silence
  /-- The answer comes so many milliseconds later. -/
  | delay (ms : Nat)
deriving DecidableEq, Repr

/-- The faults to come. -/
structure FaultPlan where
  /-- The faults that wait, the oldest first, by operation and record. -/
  waiting : List ((String × String) × Fault)
  /-- The operations that are out of order. -/
  broken : List String
deriving Repr

namespace FaultPlan

/-- No fault is planned. -/
def empty : FaultPlan := ⟨[], []⟩

/-- The name that stands for every operation. -/
def everything : String := "all"

/-- Plans faults for calls of an operation about a record. -/
def add (p : FaultPlan) (name key : String) (faults : List Fault) : FaultPlan :=
  { p with waiting := p.waiting ++ faults.map fun f => ((name, key), f) }

/-- Puts an operation out of order. -/
def breakDown (p : FaultPlan) (name : String) : FaultPlan :=
  { p with broken := name :: p.broken }

/-- Puts every operation in order again. -/
def repair (p : FaultPlan) : FaultPlan :=
  { p with broken := [] }

/-- Whether an operation is out of order. -/
def isBroken (p : FaultPlan) (name : String) : Bool :=
  p.broken.contains name || p.broken.contains everything

/-- Takes the fault that waits for a call. -/
def take (p : FaultPlan) (name key : String) : Fault × FaultPlan :=
  let isFor (w : (String × String) × Fault) : Bool := w.1 == (name, key)
  match p.waiting.find? isFor with
  | some (_, f) => (f, { p with waiting := p.waiting.eraseP isFor })
  | none => (.none, p)

/-- How a call begins, if it does not go to the store at once. An operation that is out of order
takes no fault. -/
def begin {α : Type} (p : FaultPlan) (op : Operation α) : Option (Call α) × FaultPlan :=
  if p.isBroken op.name then (some (.answered (.error (.backend "backend unavailable"))), p)
  else
    let (fault, p) := p.take op.name op.key
    (match fault with
      | .none => none
      | .fail => some (.answered (.error (.backend "injected failure")))
      | .unreadable => some (.answered (.error (.unreadable .data)))
      | .missing => some (.answered (.error (.notFound .anyRecord op.key)))
      | .breakDown => some .brokenDown
      | .silence => some .silent
      | .delay ms => some (.delayed ms), p)

end FaultPlan

end Playgrounds.Store
