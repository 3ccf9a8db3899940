import Playgrounds.Json.Record

/-!
# Playgrounds

A playground is what one domain serves; its id is always derived from the domain.

* `Playground.format` — its record.
* `Playground.ofDomain` — the playground of a domain, before it has an id.
-/

namespace Playgrounds

/-- How long a session lasts unless a playground says otherwise, in seconds. -/
def defaultSessionSeconds : UInt64 := 4 * 60 * 60

/-- What one domain serves. -/
structure Playground where
  id : String
  domain : String
  sessionSeconds : UInt64
  image : Option String
  allowsWindows : Bool
deriving DecidableEq

namespace Playground

open Json

/-- The playground of a domain, with the usual settings and no id yet. -/
def ofDomain (domain : String) : Playground :=
  ⟨"", domain, defaultSessionSeconds, none, false⟩

/-- The fields of a playground's record. -/
def fields : Fields [String, String, UInt64, Option String, Bool] :=
  .cons ⟨"id", .text, some ""⟩ <|
  .cons ⟨"domain", .text, none⟩ <|
  .cons ⟨"default_session_duration_secs", .word, some defaultSessionSeconds⟩ <|
  .cons ⟨"default_image", .nullable .text, some none⟩ <|
  .cons ⟨"allow_windows_instances", .flag, some false⟩ .nil

/-- The record of a playground. -/
def format : Format Playground :=
  fields.format.along
    (fun p => (p.id, p.domain, p.sessionSeconds, p.image, p.allowsWindows, ()))
    (fun (id, domain, sessionSeconds, image, allowsWindows, ()) =>
      ⟨id, domain, sessionSeconds, image, allowsWindows⟩)

end Playground

end Playgrounds
