import Playgrounds.Proofs.Instant.Calendar

/-!
# Order and difference of instants

Outside leap seconds an instant is a number of nanoseconds, and order, difference and passing time
are those of the numbers. A leap second has a place in the order of instants, but the difference of
two instants does not count it where they lie on two days.

* `Instant.nanos` — the number of an instant; `Instant.notAfter_iff_nanos`,
  `Instant.since_eq_sub`, `Instant.nanos_plus`.
* `Instant.Straddles` — the end of a day in a leap second, and the start of the next.
* `Instant.notAfter_and_since_pos_iff`, `Instant.not_notAfter_and_since_nonpos_iff` — only there can
  order and difference disagree.
-/

namespace Playgrounds.Instant

/-! ## Order and difference -/

/-- Instants are ordered by their date, then their second, then their fraction. -/
theorem notAfter_iff (a b : Instant) : a.notAfter b = true ↔
    a.date.number < b.date.number ∨ a.date.number = b.date.number ∧
      (a.second < b.second ∨ a.second = b.second ∧ a.fraction ≤ b.fraction) := by
  rw [notAfter, bne_iff_ne, ne_eq, Instant.compare, Date.compare_eq]
  simp only [Ordering.then_eq_gt, Int.compare_eq_gt, Int.compare_eq_eq, Nat.compare_eq_gt,
    Nat.compare_eq_eq]
  omega

/-- The difference counts a leap second only if the seconds of the day lie on either side of it. -/
theorem since_eq (a b : Instant) : a.since b
    = ((a.date.number - b.date.number) * 86400 + ((a.second : Int) - b.second)
        + if b.second < a.second ∧ 1000000000 ≤ b.fraction then 1
          else if a.second < b.second ∧ 1000000000 ≤ a.fraction then -1
          else 0) * 1000000000
      + ((a.fraction : Int) - b.fraction) := by
  unfold since inLeapSecond nanosPerSecond secondsPerDay
  simp only [Bool.and_eq_true, decide_eq_true_eq]
  rfl

theorem inLeapSecond_iff (t : Instant) : t.inLeapSecond = true ↔ 1000000000 ≤ t.fraction :=
  decide_eq_true_iff

/-- Only the last second of a minute can be followed by a leap second. -/
theorem bounds (t : Instant) : t.second < 86400 ∧
    (t.fraction < 1000000000 ∨ t.second % 60 = 59 ∧ t.fraction < 2000000000) :=
  ⟨t.second_lt, t.fraction_lt⟩

/-- The one instant lies in a leap second at the end of a day, and the other in the first second of
the day after. -/
structure Straddles (early late : Instant) : Prop where
  leap : early.inLeapSecond = true
  last : early.second = secondsPerDay - 1
  date : late.date.number = early.date.number + 1
  first : late.second = 0

/-- The one instant lies in a leap second at the end of a day, and the other in the first second of
the next. -/
theorem straddles_iff (early late : Instant) : Straddles early late ↔
    1000000000 ≤ early.fraction ∧ early.second = 86399 ∧
      late.date.number = early.date.number + 1 ∧ late.second = 0 := by
  rw [← inLeapSecond_iff]
  exact ⟨fun s => ⟨s.leap, s.last, s.date, s.first⟩, fun ⟨leap, last, date, first⟩ =>
    ⟨leap, last, date, first⟩⟩

section

variable {a b : Instant}

/-- On one day order and difference agree. -/
theorem notAfter_iff_of_same_date (same : a.date.number = b.date.number) :
    a.notAfter b = true ↔ a.since b ≤ 0 := by
  have ha := a.bounds
  have hb := b.bounds
  rw [notAfter_iff, since_eq, same]
  omega

/-- The difference of instants of two days passes over a leap second at the end of the earlier one,
and so has the wrong sign if they lie close about the midnight between. -/
theorem since_pos_iff_of_earlier_date (earlier : a.date.number < b.date.number) :
    0 < a.since b ↔ Straddles a b ∧ nanosPerSecond + b.fraction < a.fraction := by
  have ha := a.bounds
  have hb := b.bounds
  rw [since_eq, straddles_iff]
  unfold nanosPerSecond
  omega

/-- The same, seen from the later of the two days. -/
theorem since_nonpos_iff_of_later_date (later : b.date.number < a.date.number) :
    a.since b ≤ 0 ↔ Straddles b a ∧ nanosPerSecond + a.fraction ≤ b.fraction := by
  have ha := a.bounds
  have hb := b.bounds
  rw [since_eq, straddles_iff]
  unfold nanosPerSecond
  omega

/-- When an instant has come by the order of instants, and not by the difference. -/
theorem notAfter_and_since_pos_iff : a.notAfter b = true ∧ 0 < a.since b ↔
    Straddles a b ∧ nanosPerSecond + b.fraction < a.fraction := by
  -- The order never fails within one day, so only neighbouring days are left to disagree.
  rcases Int.lt_trichotomy a.date.number b.date.number with earlier | same | later
  · rw [since_pos_iff_of_earlier_date earlier, notAfter_iff]
    exact and_iff_right (.inl earlier)
  · rw [notAfter_iff_of_same_date same]
    constructor
    · omega
    · rintro ⟨straddles, -⟩
      have := straddles.date
      omega
  · rw [notAfter_iff]
    constructor
    · omega
    · rintro ⟨straddles, -⟩
      have := straddles.date
      omega

/-- When an instant has come by the difference, and not by the order of instants. -/
theorem not_notAfter_and_since_nonpos_iff : a.notAfter b = false ∧ a.since b ≤ 0 ↔
    Straddles b a ∧ nanosPerSecond + a.fraction ≤ b.fraction := by
  rw [← Bool.not_eq_true]
  rcases Int.lt_trichotomy a.date.number b.date.number with earlier | same | later
  · rw [notAfter_iff]
    constructor
    · omega
    · rintro ⟨straddles, -⟩
      have := straddles.date
      omega
  · rw [notAfter_iff_of_same_date same]
    constructor
    · omega
    · rintro ⟨straddles, -⟩
      have := straddles.date
      omega
  · rw [since_nonpos_iff_of_later_date later, notAfter_iff]
    refine and_iff_right ?_
    omega

end

/-! ## Outside leap seconds -/

/-- The nanoseconds of an instant outside a leap second, counted from the start of the day number
zero. -/
def nanos (t : Instant) : Int :=
  (t.date.number * secondsPerDay + t.second) * nanosPerSecond + t.fraction

theorem nanos_eq (t : Instant) :
    t.nanos = (t.date.number * 86400 + t.second) * 1000000000 + t.fraction :=
  rfl

section

variable {a b : Instant} (plain : a.inLeapSecond = false) (plain' : b.inLeapSecond = false)

theorem fraction_lt_of_plain (plain : a.inLeapSecond = false) : a.fraction < 1000000000 :=
  Nat.not_le.mp (of_decide_eq_false plain)

include plain plain'

/-- Outside leap seconds an instant is not after another exactly if it has no more nanoseconds. -/
theorem notAfter_iff_nanos : a.notAfter b = true ↔ a.nanos ≤ b.nanos := by
  have ha := a.bounds
  have hb := b.bounds
  have fraction := fraction_lt_of_plain plain
  have fraction' := fraction_lt_of_plain plain'
  rw [notAfter_iff, nanos_eq, nanos_eq]
  omega

/-- Outside leap seconds the difference is that of the nanoseconds. -/
theorem since_eq_sub : a.since b = a.nanos - b.nanos := by
  have fraction := fraction_lt_of_plain plain
  have fraction' := fraction_lt_of_plain plain'
  rw [since_eq, if_neg (by omega), if_neg (by omega), nanos_eq, nanos_eq]
  omega

end

/-- No instant outside a leap second is after the last. -/
theorem nanos_le_last {t : Instant} (plain : t.inLeapSecond = false) : t.nanos ≤ last.nanos := by
  have second := t.bounds
  have fraction := fraction_lt_of_plain plain
  have date := t.date.number_le_last
  have ends : last.nanos = (Date.last.number * 86400 + 86399) * 1000000000 + 999999999 := rfl
  rw [nanos_eq, ends]
  omega

/-- Seconds and nanoseconds are counted on from the start of a day, as far as the calendar goes. -/
theorem nanos_ofSeconds (d : Date) (seconds nanos : Nat) :
    (ofSeconds d (seconds + nanos / nanosPerSecond) nanos).nanos
      = min ((d.number * 86400 + seconds) * 1000000000 + nanos) last.nanos := by
  have ends : last.nanos = (Date.last.number * 86400 + 86399) * 1000000000 + 999999999 := rfl
  have day : secondsPerDay = 86400 := rfl
  have second : nanosPerSecond = 1000000000 := rfl
  unfold ofSeconds
  split
  -- The seconds lead to a day that exists.
  next later found =>
      have counted := number_laterDate? found
      have within := later.number_le_last
      rw [nanos_eq, ends]
      simp only [day, second] at *
      omega
  -- They lead past the last day, and the last instant stands for all that is beyond it.
  next none =>
      have beyond := number_lt_of_laterDate? none
      simp only [day, second] at *
      omega

/-- What is made of seconds and nanoseconds is never in a leap second. -/
theorem inLeapSecond_ofSeconds (d : Date) (seconds nanos : Nat) :
    (ofSeconds d seconds nanos).inLeapSecond = false := by
  unfold ofSeconds
  split
  · exact decide_eq_false (Nat.not_le.mpr (Nat.mod_lt _ (by decide)))
  · decide

section

variable {t : Instant} (plain : t.inLeapSecond = false) (ms : Nat)

include plain

/-- Outside a leap second time passes over none. -/
theorem plus_eq : t.plus ms = ofSeconds t.date
    (t.second + ms / 1000 + (t.fraction + ms % 1000 * 1000000) / nanosPerSecond)
    (t.fraction + ms % 1000 * 1000000) := by
  have fraction := fraction_lt_of_plain plain
  unfold plus
  rw [dif_neg]
  · simp only [plain, Bool.false_eq_true, if_false]
  · rintro ⟨-, leap, -⟩
    exact Nat.not_lt.mpr leap fraction

/-- To wait leads to no leap second. -/
theorem inLeapSecond_plus : (t.plus ms).inLeapSecond = false := by
  rw [plus_eq plain]
  exact inLeapSecond_ofSeconds ..

/-- To wait adds as many nanoseconds, up to the last instant there is. -/
theorem nanos_plus : (t.plus ms).nanos = min (t.nanos + ms * 1000000) last.nanos := by
  rw [plus_eq plain, nanos_ofSeconds, nanos_eq t]
  congr 1
  omega

omit ms in
/-- Who waits longer gets no less far. -/
theorem plus_notAfter_plus {m n : Nat} (le : m ≤ n) : (t.plus m).notAfter (t.plus n) = true := by
  rw [notAfter_iff_nanos (inLeapSecond_plus plain m) (inLeapSecond_plus plain n),
    nanos_plus plain, nanos_plus plain]
  omega

end

end Playgrounds.Instant
