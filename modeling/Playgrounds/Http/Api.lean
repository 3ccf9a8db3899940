import Playgrounds.Directory.Basic
import Playgrounds.Http.Request
import Playgrounds.Http.Response
import Playgrounds.Http.Route
import Playgrounds.Record.Creation
import Playgrounds.Record.Instance

/-!
# The service over HTTP

* `Answer` — a response, or a socket for a terminal.
* `Api.answer` — the answer to a request.
* `Api.creationOf` — the playground that the body of a request asks for.
-/

namespace Playgrounds.Http

open Json

/-- The answer to a request. -/
inductive Answer where
  | response (r : Response)
  /-- The client goes on with a socket, which is a terminal of this target. -/
  | socket (t : TerminalTarget)
deriving DecidableEq, Repr

namespace Api

/-- The longest body that is read, in bytes. -/
def longestBody : Nat := 2097152

/-- The answer about a record that was looked up. -/
def found {α : Type} (format : Format α) (status : Nat) : Directory.Found α → Response
  | .ok a => .json status (format.toValue a)
  | .error r => .refusal r

/-- The answer to a parameter that is no text. -/
def invalidParameter (name : String) : Response :=
  .plain 400 ("Invalid URL: Invalid UTF-8 in \x60" ++ name ++ "\x60")

/-- The text of a parameter of the path. -/
def parameter (name : String) (b : List UInt8) : Except Response String :=
  match Text.text? (decoded b) with
  | some s => .ok s
  | none => .error (invalidParameter name)

/-- The playground that the body of a request asks for. The type of the body is looked at before
the body, and what follows its JSON value is not looked at. -/
def creationOf (r : Request) : Except Response Playground :=
  if !r.isJson then
    .error (.plain 415 "Expected request with \x60Content-Type: application/json\x60")
  else if longestBody < r.body.length then
    .error (.plain 413 "Failed to buffer the request body: length limit exceeded")
  else
    match CreationRequest.format.readFirst r.body with
    | .error .malformed => .error (.plain 400 "Failed to parse the request body as JSON")
    | .error .data =>
      .error (.plain 422 "Failed to deserialize the JSON body into the target type")
    | .ok creation =>
      match creation.playground? with
      | some p => .ok p
      | none => .error (.plain 400 "domain must not be empty")

/-- How long the service has been up, in whole seconds. -/
abbrev Uptime := UInt64

/-- The answer that says that the service is up. -/
def readiness (uptime : Uptime) : Response :=
  .json 200 (.object [("status", .text "ok"), ("uptime_secs", .word uptime)])

variable {m : Type → Type} [Monad m]

/-- The answer to a request for a resource in one of its methods. -/
def answerResource (host : Host m) (exposition : m String) (uptime : Uptime) (r : Request)
    (resource : Resource) : m Answer := do
  match resource with
  | .health => return .response (.plain 200 "ok")
  | .ready => return .response (readiness uptime)
  | .metrics => return .response ⟨200, some "text/plain", none, ← exposition⟩
  | .playgrounds =>
    if r.method = "POST" then
      match creationOf r with
      | .error refused => return .response refused
      | .ok p => return .response (found Playground.format 201 (← Directory.create host p))
    else
      return .response (found (.list Playground.format) 200 (← Directory.playgrounds host))
  | .lookup =>
    match (Target.of r.target).only? "domain" with
    | none => return .response (.plain 400 "Failed to deserialize query string")
    | some domain =>
      return .response (found Playground.format 200 (← Directory.find host domain))
  | .playground id =>
    match parameter "id" id with
    | .error refused => return .response refused
    | .ok id => return .response (found Playground.format 200 (← Directory.playground host id))
  | .terminal id =>
    match parameter "session_id" id with
    | .error refused => return .response refused
    | .ok id => return .response (found Instance.format 200 (← Directory.resolve host id))
  | .socket id =>
    match parameter "session_id" id with
    | .error refused => return .response refused
    | .ok id =>
      match ← Directory.resolve host id with
      | .error refusal => return .response (.refusal refusal)
      | .ok i =>
        if r.wantsSocket then return .socket (.ofInstance i)
        else return .response (.plain 426 "websocket upgrade required")

/-- An answer without its body. -/
def withoutBody : Answer → Answer
  | .response r => .response { r with body := "" }
  | other => other

/-- The answer to a request. A request for the head of a resource is answered like one for the
resource, without the body. -/
def answer (host : Host m) (exposition : m String) (uptime : Uptime) (r : Request) : m Answer := do
  match Resource.of? (Target.of r.target).segments with
  | none => return .response (.empty 404)
  | some resource =>
    if !resource.allows r.method then
      return .response
        { Response.empty 405 with allow := some (String.intercalate "," resource.methods) }
    else
      let answer ← answerResource host exposition uptime r resource
      return if r.method = "HEAD" then withoutBody answer else answer

end Api

end Playgrounds.Http
