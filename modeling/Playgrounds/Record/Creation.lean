import Playgrounds.Record.Playground
import Playgrounds.Text.Blank

/-!
# Requests for a playground

A playground is created from a `CreationRequest`, which names a domain and may leave the rest to the
usual settings. `CreationRequest.playground?` is the playground asked for; a blank domain asks for
none.
-/

namespace Playgrounds

/-- A request for a playground. -/
structure CreationRequest where
  domain : String
  sessionSeconds : Option UInt64
  image : Option String
  allowsWindows : Bool
deriving DecidableEq

namespace CreationRequest

open Json

/-- The fields of a request. -/
def fields : Fields [String, Option UInt64, Option String, Bool] :=
  .cons ⟨"domain", .text, none⟩ <|
  .cons ⟨"default_session_duration_secs", .nullable .word, some none⟩ <|
  .cons ⟨"default_image", .nullable .text, some none⟩ <|
  .cons ⟨"allow_windows_instances", .flag, some false⟩ .nil

/-- The record of a request. -/
def format : Format CreationRequest :=
  fields.format.along (fun r => (r.domain, r.sessionSeconds, r.image, r.allowsWindows, ()))
    (fun (domain, sessionSeconds, image, allowsWindows, ()) =>
      ⟨domain, sessionSeconds, image, allowsWindows⟩)

/-- The playground that is asked for, before it has an id. Blanks around the domain are dropped. -/
def playground? (r : CreationRequest) : Option Playground :=
  let domain := Text.trim r.domain
  if domain.isEmpty then none
  else some ⟨"", domain, r.sessionSeconds.getD defaultSessionSeconds, r.image, r.allowsWindows⟩

end CreationRequest

end Playgrounds
