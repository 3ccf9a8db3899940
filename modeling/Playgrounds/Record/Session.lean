import Playgrounds.Json.Record

/-!
# Sessions

A session is a stretch of time in a playground, at whose end its instances go.

* `Session.format` — its record.
* `Session.isExpiredAt` — whether it is over; it is at the very instant at which it expires.
-/

namespace Playgrounds

/-- A stretch of time in a playground. -/
structure Session where
  id : String
  playgroundId : String
  createdAt : Instant
  expiresAt : Instant
deriving DecidableEq

namespace Session

open Json

/-- Whether the session is over. -/
def isExpiredAt (s : Session) (now : Instant) : Bool :=
  s.expiresAt.notAfter now

/-- The nanoseconds left of the session. -/
def left (s : Session) (now : Instant) : Int :=
  s.expiresAt.since now

/-- The fields of a session's record. -/
def fields : Fields [String, String, Instant, Instant] :=
  .cons ⟨"id", .text, none⟩ <|
  .cons ⟨"playground_id", .text, none⟩ <|
  .cons ⟨"created_at", .instant, none⟩ <|
  .cons ⟨"expires_at", .instant, none⟩ .nil

/-- The record of a session. -/
def format : Format Session :=
  fields.format.along
    (fun s => (s.id, s.playgroundId, s.createdAt, s.expiresAt, ()))
    (fun (id, playgroundId, createdAt, expiresAt, ()) => ⟨id, playgroundId, createdAt, expiresAt⟩)

end Session

end Playgrounds
