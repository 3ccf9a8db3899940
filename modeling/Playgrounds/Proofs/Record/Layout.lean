import Playgrounds.Proofs.Record.Faithful

/-!
# Records in any layout

What a record is read as depends on what its text says, not on how the text is laid out. The members
of an object may come in any order, written with any escapes and blanks and with any others among
them, and a field need not be said whose value is its default: `records_ignore_layout`.
-/

namespace Playgrounds

open Json

/-- The values of a playground's fields in order. -/
def Playground.row (p : Playground) : Row [String, String, UInt64, Option String, Bool] :=
  (p.id, p.domain, p.sessionSeconds, p.image, p.allowsWindows, ())

/-- The values of a session's fields in order. -/
def Session.row (s : Session) : Row [String, String, Instant, Instant] :=
  (s.id, s.playgroundId, s.createdAt, s.expiresAt, ())

/-- The values of an instance's fields in order. -/
def Instance.row (i : Instance) : Row [String, String, String, String, String, Instant] :=
  (i.name, i.sessionId, i.hostname, i.ip, i.image, i.createdAt, ())

/-- The values of an event's fields in order. -/
def Event.row (e : Event) : Row [EventKind, String, List String] :=
  (e.kind, e.id, e.args, ())

/-- **LAYOUT DOES NOT MATTER.** Every playground, session, instance and event is read from every
text that tells it: as an object with its members in any order and any others among them, or as an
array, and with what is usual left unsaid. None is read from an object that says a field twice, and
none from an object or an array that leaves out a field without a default.

A text may spell its parts in every way that JSON knows: its strings with any escapes, its numbers
in any form, its values to any depth and blanks between any two parts. -/
theorem records_ignore_layout :
    (∀ (s : String) bs, Writes s.toList bs → ∃ t, Body .empty bs t ∧ t.close = .text s) ∧
      (∀ bs, IsNumeral bs → ∃ n, Spells (.value (.number n)) bs) ∧
      Playground.fields.ReadsAnyLayout Playground.row Playground.format ∧
      Session.fields.ReadsAnyLayout Session.row Session.format ∧
      Instance.fields.ReadsAnyLayout Instance.row Instance.format ∧
      Event.fields.ReadsAnyLayout Event.row Event.format :=
  ⟨fun _ _ written => written.body, fun _ numeral => numeral.spells,
    Fields.readsAnyLayout_along (by decide) Playground.allFaithful_fields fun _ => rfl,
    Fields.readsAnyLayout_along (by decide) Session.allFaithful_fields fun _ => rfl,
    Fields.readsAnyLayout_along (by decide) Instance.allFaithful_fields fun _ => rfl,
    Fields.readsAnyLayout_along (by decide) Event.allFaithful_fields fun _ => rfl⟩

/-- A playground of which only the domain and one of its usual settings are said, in reverse. -/
example : (Playground.format.read (Text.bytes
      (" \x7b \"default_image\":null,\"x\":[\x7b\"y\":[-0.5E+7]\x7d ],\n"
        ++ "\"d\\u006Fmain\" :\"\\/\"\x7d\t"))).toOption
    = some (Playground.ofDomain "/") := by
  decide +kernel

end Playgrounds
