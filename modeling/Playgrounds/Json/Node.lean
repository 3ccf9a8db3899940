import Playgrounds.Json.Numeral

/-!
# What a JSON text holds

`Node` is a value as far as the text spells it out. A text is read from left to right up to its
first fault; what stands before the fault is kept, so that a reader of the value meets its parts
and the fault in the order of the text.

* `torn` stands where a value was due and none, or only part of one, was found.
* A container is `whole` when its closing bracket was found.
* A member is a pair of a key and a value. A key is a text; any other node in its place is a fault
  of the text, and its value is torn.
* `unreadable` is a string that names no text: it holds half a surrogate pair or bytes that are not
  UTF-8. It is no fault in a part of the text that nobody reads.
-/

namespace Playgrounds.Json

/-- A JSON value, as far as its text spells it out. -/
inductive Node where
  | null
  | flag (b : Bool)
  | number (n : Number)
  | text (s : String)
  | unreadable
  | array (items : List Node) (whole : Bool)
  | object (members : List (Node × Node)) (whole : Bool)
  | torn

namespace Node

/-- Whether the value is well written to its end. A closing bracket is only reached past sound
parts, so a container is sound exactly when it is whole. -/
def isSound : Node → Bool
  | torn => false
  | array _ whole | object _ whole => whole
  | _ => true

end Node

end Playgrounds.Json
