import Playgrounds.Directory.Refusal
import Playgrounds.Json.Record

/-!
# Answers to requests

* `Response` — the status, the headers that matter, and the body.
* `Response.json`, `Response.plain`, `Response.empty` — the three forms of body.
* `Response.refusal` — the answer to a request that the directory refuses. That a session is
  unknown is said by an empty body, and what is wrong with the store is kept from the client.
-/

namespace Playgrounds.Http

open Json

/-- An answer to a request. -/
structure Response where
  status : Nat
  contentType : Option String
  /-- The methods that the path has, where the method is not one of them. -/
  allow : Option String
  body : String
deriving DecidableEq, Repr

namespace Response

/-- The type of JSON bodies. -/
def jsonType : String := "application/json"

/-- The type of bodies of plain text. -/
def plainType : String := "text/plain; charset=utf-8"

/-- An answer without a body. -/
def empty (status : Nat) : Response :=
  ⟨status, none, none, ""⟩

/-- An answer in JSON. -/
def json (status : Nat) (v : Value) : Response :=
  ⟨status, some jsonType, none, v.writing⟩

/-- An answer in plain text. -/
def plain (status : Nat) (body : String) : Response :=
  ⟨status, some plainType, none, body⟩

/-- The body of an answer that reports an error. -/
def errorBody (code message : String) : Value :=
  .object [("error", .text code), ("message", .text message)]

/-- The answer to a request that the directory refuses. -/
def refusal : Refusal → Response
  | .sessionNotFound _ => empty 404
  | .store f => json 500 (errorBody (Refusal.store f).code "storage unavailable")
  | r => json 404 (errorBody r.code r.message)

end Response

end Playgrounds.Http
