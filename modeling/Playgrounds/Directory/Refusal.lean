import Playgrounds.Store.Failure
import Playgrounds.Text.Decimal

/-!
# Why a lookup fails

* `Refusal` — why the directory has no answer.
* `Refusal.code` — its name for machines; `Refusal.message` — its text for people.
-/

namespace Playgrounds

/-- Why the directory has no answer. -/
inductive Refusal where
  | playgroundNotFound (id : String)
  | sessionNotFound (id : String)
  | noInstance (sessionId : String)
  /-- The session has several instances, and none of them is picked. -/
  | ambiguousInstance (sessionId : String) (count : Nat)
  | store (f : Store.Failure)
deriving DecidableEq, Repr

namespace Refusal

/-- The name of a refusal, which never changes. -/
def code : Refusal → String
  | playgroundNotFound _ => "playground_not_found"
  | sessionNotFound _ => "session_not_found"
  | noInstance _ => "no_instance"
  | ambiguousInstance _ _ => "ambiguous_instance"
  | store _ => "store_error"

/-- What is reported of a refusal. -/
def message : Refusal → String
  | playgroundNotFound id => "playground " ++ id ++ " not found"
  | sessionNotFound id => "session " ++ id ++ " not found"
  | noInstance id => "session " ++ id ++ " has no instance"
  | ambiguousInstance id count =>
    "session " ++ id ++ " has " ++ Decimal.text count ++ " instances, expected exactly one"
  | store f => f.text

/-- Whether the refusal says that what was asked for is absent. -/
def isNotFound : Refusal → Bool
  | playgroundNotFound _ | sessionNotFound _ | noInstance _ => true
  | _ => false

end Refusal

end Playgrounds
