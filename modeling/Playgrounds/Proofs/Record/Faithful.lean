import Playgrounds.Proofs.Json.Layout
import Playgrounds.Record.Event
import Playgrounds.Record.Instance
import Playgrounds.Record.Playground
import Playgrounds.Record.Session

/-!
# Faithful records

Every record of the service reads back what it writes: sessions, instances, playgrounds and events,
whatever their texts, instants and numbers. Hence a record may be read from any text that spells it,
however loosely, and written again as often as it likes: `records_settle`.
-/

namespace Playgrounds

open Json

theorem Session.allFaithful_fields : Session.fields.AllFaithful :=
  ⟨Format.faithful_text, Format.faithful_text, Format.faithful_instant, Format.faithful_instant,
    trivial⟩

/-- **A session is read back as it was written.** -/
theorem Session.faithful_format : Session.format.Faithful :=
  (Fields.faithful_format Session.fields (by decide) allFaithful_fields).along fun _ => rfl

theorem Instance.allFaithful_fields : Instance.fields.AllFaithful :=
  ⟨Format.faithful_text, Format.faithful_text, Format.faithful_text, Format.faithful_text,
    Format.faithful_text, Format.faithful_instant, trivial⟩

/-- **An instance is read back as it was written.** -/
theorem Instance.faithful_format : Instance.format.Faithful :=
  (Fields.faithful_format Instance.fields (by decide) allFaithful_fields).along fun _ => rfl

/-- Each field of a playground is read back, the image that may be missing included. -/
theorem Playground.allFaithful_fields : Playground.fields.AllFaithful := by
  have image : (Format.nullable .text).Faithful :=
    Format.faithful_text.nullable fun _ => Node.noConfusion
  exact ⟨Format.faithful_text, Format.faithful_text, Format.faithful_word, image,
    Format.faithful_flag, trivial⟩

/-- **A playground is read back as it was written.** -/
theorem Playground.faithful_format : Playground.format.Faithful :=
  (Fields.faithful_format Playground.fields (by decide) allFaithful_fields).along fun _ => rfl

/-- Each kind of events has a topic of its own. -/
theorem EventKind.topic_injective {k l : EventKind} (same : k.topic = l.topic) : k = l := by
  revert same
  cases k <;> cases l <;> decide

theorem Event.allFaithful_fields : Event.fields.AllFaithful := by
  have kind : EventKind.format.Faithful :=
    Format.faithful_choice EventKind.mem_all fun _ _ => EventKind.topic_injective
  exact ⟨kind, Format.faithful_text, Format.faithful_text.list, trivial⟩

/-- **An event is read back as it was written.** -/
theorem Event.faithful_format : Event.format.Faithful :=
  (Fields.faithful_format Event.fields (by decide) allFaithful_fields).along fun _ => rfl

/-- An event that is published is the event that is received. -/
theorem Event.ofPayload_payload (e : Event) : Event.ofPayload e.payload = .ok e :=
  Event.faithful_format.read_write e

/-- **WRITING LOSES NOTHING.** Whatever text spells a playground, a session, an instance or an
event, the text written for it spells the same record in every field, and is the text that is
written from then on. Every record can be spelled, and two texts for which the same is written spell
the same. -/
theorem records_settle :
    Playground.format.Settles ∧ Session.format.Settles ∧ Instance.format.Settles ∧
      Event.format.Settles :=
  ⟨Playground.faithful_format.settles, Session.faithful_format.settles,
    Instance.faithful_format.settles, Event.faithful_format.settles⟩

/-- The same leap second, as it may be read and as it is written. -/
example : (Session.format.rewrite (Text.bytes
      ("[\"\\u0073\", \"\", \" 2024-6-1 12:0:0utc\","
        ++ " \"+10000-01-01t01:59:60.5000000000+0200\"]"))).toOption
    = some (Text.bytes ("\x7b\"id\":\"s\",\"playground_id\":\"\","
        ++ "\"created_at\":\"2024-06-01T12:00:00Z\","
        ++ "\"expires_at\":\"9999-12-31T23:59:60.500Z\"\x7d")) := by
  decide +kernel

end Playgrounds
