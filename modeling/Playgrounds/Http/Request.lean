import Playgrounds.Http.MediaType
import Playgrounds.Http.Target

/-!
# Requests

* `Request` — a method, a target, headers and a body.
* `Request.isJson` — whether the body is declared as JSON; of several declarations the first counts.
-/

namespace Playgrounds.Http

/-- A request. -/
structure Request where
  method : String
  target : String
  headers : List (String × String)
  body : List UInt8
  /-- Whether the client asks to go on with a socket. -/
  wantsSocket : Bool
deriving DecidableEq, Repr

namespace Request

/-- The first header of a name, which may be written in either case. -/
def header? (r : Request) (name : String) : Option String :=
  (r.headers.find? fun h => h.1.toLower == name).map (·.2)

/-- Whether the body is declared as JSON. -/
def isJson (r : Request) : Bool :=
  ((r.header? "content-type").bind MediaType.read?).any MediaType.isJson

end Request

end Playgrounds.Http
