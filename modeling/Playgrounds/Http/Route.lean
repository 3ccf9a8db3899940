import Playgrounds.Http.Target

/-!
# Routes

* `Resource` — what a path names; `Resource.of?` is how.
* `Resource.allows` — the methods that a resource has.
-/

namespace Playgrounds.Http

/-- What a path names. -/
inductive Resource where
  | health
  | ready
  | metrics
  | playgrounds
  | lookup
  /-- The playground with an id, which is still escaped. -/
  | playground (id : List UInt8)
  /-- The instance that a terminal of the session would attach to. -/
  | terminal (sessionId : List UInt8)
  /-- A terminal of the session. -/
  | socket (sessionId : List UInt8)
deriving DecidableEq, Repr

namespace Resource

/-- The resource that the parts of a path name. A path does not end in an empty part, but the id of
a session may be empty. -/
def of? (segments : List (List UInt8)) : Option Resource :=
  let is (segment : List UInt8) (name : String) : Bool := segment == Text.bytes name
  match segments with
  | [a] =>
    if is a "health" then some health
    else if is a "readyz" then some ready
    else if is a "metrics" then some metrics
    else if is a "playgrounds" then some playgrounds
    else none
  | [a, b] =>
    if is a "playgrounds" && !b.isEmpty then
      if is b "lookup" then some lookup else some (playground b)
    else none
  | [a, b, c] =>
    if is a "sessions" && is c "terminal" then some (terminal b) else none
  | [a, b, c, d] =>
    if is a "sessions" && is c "terminal" && is d "ws" then some (socket b) else none
  | _ => none

/-- The methods that a resource has. -/
def methods : Resource → List String
  | playgrounds => ["GET", "HEAD", "POST"]
  | _ => ["GET", "HEAD"]

/-- Whether a resource has a method. -/
def allows (r : Resource) (method : String) : Bool :=
  r.methods.contains method

end Resource

end Playgrounds.Http
