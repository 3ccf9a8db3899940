import Playgrounds.Proofs.Instant.Difference
import Playgrounds.Worker.Basic

/-!
# Whether a session is over, and what is left of it

A session is over at an instant by the order of instants, and what is left of it is a difference.
The two agree unless midnight, with a leap second before it, lies between the instant and the end of
the session.

* `Session.IsOverTooSoon`, `Session.IsOverTooLate` — where they do not.
* `Session.isExpiredAt_iff_left_nonpos_iff` — the exact condition, and what a worker makes of it.
-/

namespace Playgrounds.Session

open Instant

/-- The session expires in a leap second at the end of a day, and less of the next day has gone by
than of the leap second then. -/
def IsOverTooSoon (s : Session) (now : Instant) : Prop :=
  Straddles s.expiresAt now ∧ nanosPerSecond + now.fraction < s.expiresAt.fraction

/-- It is a leap second at the end of a day, as much of which has gone by as will of the next day
when the session expires. -/
def IsOverTooLate (s : Session) (now : Instant) : Prop :=
  Straddles now s.expiresAt ∧ nanosPerSecond + s.expiresAt.fraction ≤ now.fraction

variable (s : Session) (now : Instant)

/-- A session is over too soon if it is over while time is left. -/
theorem isOverTooSoon_iff : s.IsOverTooSoon now ↔ s.isExpiredAt now = true ∧ 0 < s.left now :=
  notAfter_and_since_pos_iff.symm

/-- A session is over too late if no time is left and it is not over. -/
theorem isOverTooLate_iff : s.IsOverTooLate now ↔ s.isExpiredAt now = false ∧ s.left now ≤ 0 :=
  not_notAfter_and_since_nonpos_iff.symm

/-- A worker that has read the session stops or announces what is left, as the session is over or
not. -/
theorem verdict_of_ok : Verdict.of (.ok s) now
    = if s.isExpiredAt now = true then .stop .expired else .announce (s.left now) :=
  rfl

/-- **WHEN THE TEST FOR EXPIRY AND THE TIME LEFT AGREE.** A session is over exactly if nothing is
left of it, unless its end and the instant lie close about a midnight that a leap second precedes.
If it ends in the leap second then a worker may stop while something is left, and if it is the leap
second then it may announce what is not there; at any other instants a worker stops when nothing is
left, and announces what is more than nothing. -/
theorem isExpiredAt_iff_left_nonpos_iff :
    ((s.isExpiredAt now = true ↔ s.left now ≤ 0) ↔
      ¬s.IsOverTooSoon now ∧ ¬s.IsOverTooLate now) ∧
    (Verdict.of (.ok s) now = .stop .expired ∧ 0 < s.left now ↔ s.IsOverTooSoon now) ∧
    ((∃ left, Verdict.of (.ok s) now = .announce left ∧ left ≤ 0) ↔ s.IsOverTooLate now) ∧
    (s.expiresAt.inLeapSecond = false → ¬s.IsOverTooSoon now) ∧
    (now.inLeapSecond = false → ¬s.IsOverTooLate now) := by
  refine ⟨?_, ?_, ?_, ?_, ?_⟩
  · rw [isOverTooSoon_iff, isOverTooLate_iff]
    cases s.isExpiredAt now with
    | true => simp
    | false => simp
  · rw [isOverTooSoon_iff, verdict_of_ok]
    refine and_congr_left fun _ => ?_
    cases s.isExpiredAt now with
    | true => simp
    | false => simp
  · rw [isOverTooLate_iff, verdict_of_ok]
    cases s.isExpiredAt now with
    | true => simp
    | false => simp
  · rintro plain ⟨straddles, -⟩
    exact Bool.false_ne_true (plain.symm.trans straddles.leap)
  · rintro plain ⟨straddles, -⟩
    exact Bool.false_ne_true (plain.symm.trans straddles.leap)

/-- A session that ends half way through the leap second at the end of 2016. -/
def endOf2016 : Session :=
  ⟨"s", "p", .epoch, ⟨⟨2016, 12, 31, by decide⟩, 86399, 1500000000, by decide, by decide⟩⟩

/-- The start of 2017. -/
def startOf2017 : Instant :=
  { epoch with date := ⟨2017, 1, 1, by decide⟩ }

/-- These are instants that can be read. The session is over when the next year starts, and half a
second is left of it. -/
theorem isOverTooSoon_endOf2016 :
    read? "2016-12-31T23:59:60.5Z" = some endOf2016.expiresAt ∧
      read? "2017-01-01T00:00:00Z" = some startOf2017 ∧
      ¬(endOf2016.isExpiredAt startOf2017 = true ↔ endOf2016.left startOf2017 ≤ 0) ∧
      Verdict.of (.ok endOf2016) startOf2017 = .stop .expired ∧
      endOf2016.left startOf2017 = 500000000 := by
  decide +kernel

end Playgrounds.Session
