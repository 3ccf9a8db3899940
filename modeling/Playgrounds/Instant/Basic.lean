import Playgrounds.Instant.Date

/-!
# Instants

Points of universal time to the nanosecond, leap seconds included.

* `Instant` — a date, a second of that day and a fraction of that second. A leap second lies on
  the last second of a minute, with a fraction of a whole second or more.
* `Instant.compare` — instants in order: date, then second, then fraction.
* `Instant.since` — the nanoseconds from one instant to another.
* `Instant.plus` — the instant that many milliseconds later, as far as the calendar goes.
-/

namespace Playgrounds

/-- The nanoseconds of a second. -/
def nanosPerSecond : Nat := 1000000000

/-- The seconds of a day without leap seconds. -/
def secondsPerDay : Nat := 86400

/-- A point of universal time. -/
structure Instant where
  date : Date
  /-- The second of the day. -/
  second : Nat
  /-- Nanoseconds since the start of the second; a whole second or more in a leap second. -/
  fraction : Nat
  second_lt : second < secondsPerDay
  fraction_lt : fraction < nanosPerSecond
    ∨ (second % 60 = 59 ∧ fraction < 2 * nanosPerSecond)
deriving DecidableEq

namespace Instant

/-- The start of the year 1970. -/
def epoch : Instant := ⟨Date.epoch, 0, 0, by decide, by decide⟩

instance : Inhabited Instant := ⟨epoch⟩

/-- Whether the instant lies in a leap second. -/
def inLeapSecond (t : Instant) : Bool :=
  nanosPerSecond ≤ t.fraction

/-- Instants by date, then second of the day, then fraction. -/
protected def compare (a b : Instant) : Ordering :=
  (a.date.compare b.date).then ((compare a.second b.second).then (compare a.fraction b.fraction))

/-- Whether `a` is no later than `b`. -/
def notAfter (a b : Instant) : Bool :=
  a.compare b != .gt

/-- The nanoseconds from `b` to `a`. A leap second between the two counts where its own instant
is the earlier one and the later lies on a later second of the day, or the other way round. -/
def since (a b : Instant) : Int :=
  let leap : Int :=
    if b.second < a.second && b.inLeapSecond then 1
    else if a.second < b.second && a.inLeapSecond then -1
    else 0
  let seconds : Int := (a.date.number - b.date.number) * secondsPerDay
    + ((a.second : Int) - b.second) + leap
  seconds * nanosPerSecond + ((a.fraction : Int) - b.fraction)

/-- The last instant of the calendar outside a leap second. -/
def last : Instant :=
  ⟨Date.last, secondsPerDay - 1, nanosPerSecond - 1, by decide, by decide⟩

/-- The date that many days later, unless the calendar ends before. -/
def laterDate? (d : Date) : (days : Nat) → Option Date
  | 0 => some d
  | days + 1 =>
    match d.next? with
    | some d => laterDate? d days
    | none => none

/-- The instant that many seconds after the start of the day, and so many nanoseconds on; the last
instant of the calendar if it ends before. -/
def ofSeconds (d : Date) (seconds nanos : Nat) : Instant :=
  match laterDate? d (seconds / secondsPerDay) with
  | some d =>
    ⟨d, seconds % secondsPerDay, nanos % nanosPerSecond, Nat.mod_lt _ (by decide),
      .inl (Nat.mod_lt _ (by decide))⟩
  | none => last

/-- The instant `ms` milliseconds after `t`. Within a leap second only the fraction moves; what
leaves it goes on from the second that follows. -/
def plus (t : Instant) (ms : Nat) : Instant :=
  let whole := ms / 1000
  let nanos := ms % 1000 * 1000000
  if h : whole = 0 ∧ nanosPerSecond ≤ t.fraction ∧ t.fraction + nanos < 2 * nanosPerSecond then
    { t with
      fraction := t.fraction + nanos
      fraction_lt := by
        rcases t.fraction_lt with low | ⟨last, _⟩
        · omega
        · exact .inr ⟨last, h.2.2⟩ }
  else
    let fraction := if t.inLeapSecond then t.fraction - nanosPerSecond else t.fraction
    let total := fraction + nanos
    ofSeconds t.date (t.second + whole + total / nanosPerSecond) total

end Instant

end Playgrounds
