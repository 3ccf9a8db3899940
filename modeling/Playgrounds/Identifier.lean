import Playgrounds.Identifier.Digest
import Playgrounds.Text.Hex
import Playgrounds.Text.Utf8

/-!
# Identifiers of playgrounds

Every node derives the same identifier from the same domain, without a table.

* `playgroundId` — the name-based UUID (version 5) of the domain in the namespace of object
  identifiers.
* `hostOf?` — a domain less its port: what stands before the first colon.
-/

namespace Playgrounds

namespace Identifier

/-- The namespace of object identifiers, 6ba7b812-9dad-11d1-80b4-00c04fd430c8. -/
def objectSpace : List UInt8 :=
  [0x6b, 0xa7, 0xb8, 0x12, 0x9d, 0xad, 0x11, 0xd1, 0x80, 0xb4, 0x00, 0xc0, 0x4f, 0xd4, 0x30, 0xc8]

/-- The sixteen bytes of the identifier of a name: its digest with version and variant set. -/
def ofName (space name : List UInt8) : List UInt8 :=
  let digest := (Digest.ofBytes (space ++ name)).take 16
  (digest.modify 6 fun b => (b &&& 0x0F) ||| 0x50).modify 8 fun b => (b &&& 0x3F) ||| 0x80

/-- Sixteen bytes in five groups of lower-case digits. -/
def chars (b : List UInt8) : List Char :=
  let group (start count : Nat) := ((b.drop start).take count).flatMap Hex.ofByte
  group 0 4 ++ '-' :: group 4 2 ++ '-' :: group 6 2 ++ '-' :: group 8 2 ++ '-' :: group 10 6

end Identifier

/-- The identifier of the playground that serves a domain. -/
def playgroundId (domain : String) : String :=
  String.ofList (Identifier.chars (Identifier.ofName Identifier.objectSpace (Text.bytes domain)))

/-- What stands before the first colon of a domain, if it has one. A bracketed address is not told
apart: its host is the opening bracket. -/
def hostOf? (domain : String) : Option String :=
  let cs := domain.toList
  if ':' ∈ cs then some (String.ofList (cs.takeWhile (· ≠ ':'))) else none

end Playgrounds
