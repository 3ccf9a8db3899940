import Playgrounds.Json.Format

/-!
# Failures of a store

That a record is absent is always told apart from a store that fails.

* `Store.Failure` — why an operation has no result.
* `Store.Failure.text` — what is reported of it.
-/

namespace Playgrounds.Store

/-- What a missing record would have been. -/
inductive RecordKind where
  | sessionRecord
  | instanceRecord
  | playgroundRecord
  /-- A record of no particular kind. -/
  | anyRecord
deriving DecidableEq, Repr

/-- The name of a kind of record. -/
def RecordKind.name : RecordKind → String
  | sessionRecord => "session"
  | instanceRecord => "instance"
  | playgroundRecord => "playground"
  | anyRecord => "record"

/-- Why an operation on a store has no result. -/
inductive Failure where
  /-- There is no such record. -/
  | notFound (kind : RecordKind) (id : String)
  /-- The store itself failed. -/
  | backend (cause : String)
  /-- The record is there but cannot be read. -/
  | unreadable (fault : Json.Fault)
deriving DecidableEq, Repr

namespace Failure

/-- Whether the failure says that the record is absent. -/
def isNotFound : Failure → Bool
  | notFound _ _ => true
  | _ => false

/-- What is reported of a failure. Of an unreadable record the place of the fault is left out. -/
def text : Failure → String
  | notFound kind id => kind.name ++ " " ++ id ++ " not found"
  | backend cause => "store error: " ++ cause
  | unreadable _ => "corrupt record"

end Failure

end Playgrounds.Store
