import Playgrounds.Instant.Basic

/-!
# Dates in order

The number of a date counts the dates of the calendar off in their order: a later date has a larger
number, and the day after has the next.

* `Date.compare_eq` — dates are in the order of their numbers.
* `Date.number_next?`, `Date.eq_last_of_next?` — the day after, and where the calendar ends.
* `Instant.number_laterDate?`, `Instant.number_lt_of_laterDate?` — the same for many days.
-/

namespace Playgrounds

namespace Date

/-! ## Months and years -/

/-- How many days there are before a year, counted from the start of the year 1. -/
def daysBeforeYear (year : Int) : Int :=
  365 * (year - 1) + (year - 1) / 4 - (year - 1) / 100 + (year - 1) / 400

/-- The days of a year. -/
def daysInYear (year : Int) : Nat :=
  if isLeapYear year then 366 else 365

/-- The number of a date: the days before its year, those before its month, and its own. -/
theorem number_eq (d : Date) :
    d.number = daysBeforeYear d.year + daysBefore d.year d.month + d.day :=
  rfl

theorem isLeapYear_iff (year : Int) :
    isLeapYear year = true ↔ year % 4 = 0 ∧ (year % 100 ≠ 0 ∨ year % 400 = 0) := by
  simp [isLeapYear]

/-- A year is as long as it takes to the next. -/
theorem daysBeforeYear_succ (year : Int) :
    daysBeforeYear (year + 1) = daysBeforeYear year + daysInYear year := by
  unfold daysBeforeYear daysInYear
  by_cases leap : isLeapYear year = true
  · rw [if_pos leap]
    rw [isLeapYear_iff] at leap
    omega
  · rw [if_neg leap]
    rw [isLeapYear_iff] at leap
    omega

/-- A later year begins no sooner. -/
theorem daysBeforeYear_mono {a b : Int} (le : a ≤ b) : daysBeforeYear a ≤ daysBeforeYear b := by
  unfold daysBeforeYear
  omega

/-- A month is as long as it takes to the next. -/
theorem daysBefore_succ (year : Int) {month : Nat} (pos : 1 ≤ month) :
    daysBefore year (month + 1) = daysBefore year month + daysInMonth year month := by
  obtain ⟨month, rfl⟩ := Nat.exists_eq_add_of_le' pos
  rfl

/-- A later month begins no sooner. -/
theorem daysBefore_mono (year : Int) {month later : Nat} (pos : 1 ≤ month) (le : month ≤ later) :
    daysBefore year month ≤ daysBefore year later := by
  induction le with
  | refl => exact Nat.le_refl _
  | @step later le ih =>
      rw [daysBefore_succ year (Nat.le_trans pos le)]
      exact Nat.le_trans ih (Nat.le_add_right _ _)

/-- The months of a year together have its days. -/
theorem daysBefore_thirteen (year : Int) : daysBefore year 13 = daysInYear year := by
  by_cases leap : isLeapYear year = true <;> simp [daysBefore, daysInMonth, daysInYear, leap]

/-- There is no month after the twelfth. -/
theorem daysInMonth_of_lt (year : Int) {month : Nat} (beyond : 12 < month) :
    daysInMonth year month = 0 := by
  unfold daysInMonth
  split <;> omega

theorem daysInMonth_pos (year : Int) {month : Nat} (pos : 1 ≤ month) (most : month ≤ 12) :
    1 ≤ daysInMonth year month := by
  unfold daysInMonth
  split
  case h_12 => split <;> decide
  case h_13 =>
      simp only [imp_false] at *
      omega
  all_goals decide

/-- The parts of a date lie within their bounds. -/
theorem bounds (d : Date) : firstYear ≤ d.year ∧ d.year ≤ lastYear ∧ 1 ≤ d.month ∧ d.month ≤ 12 ∧
    1 ≤ d.day ∧ d.day ≤ daysInMonth d.year d.month := by
  have isDate := d.isDate
  simp only [exists?, Bool.and_eq_true, decide_eq_true_eq] at isDate
  obtain ⟨⟨⟨first, last⟩, day⟩, most⟩ := isDate
  refine ⟨first, last, ?_, ?_, day, most⟩
  · refine Nat.one_le_iff_ne_zero.mpr fun zero => ?_
    rw [zero] at most
    exact absurd (Nat.le_trans day most) (Nat.not_succ_le_zero 0)
  · refine Nat.le_of_not_lt fun beyond => ?_
    have none : daysInMonth d.year d.month = 0 := daysInMonth_of_lt d.year beyond
    omega

/-- A date comes before the month after its own. -/
theorem daysBefore_add_day_le (d : Date) (later : Nat) (lt : d.month < later) :
    daysBefore d.year d.month + d.day ≤ daysBefore d.year later := by
  obtain ⟨-, -, pos, -, -, most⟩ := d.bounds
  have next := daysBefore_mono d.year (Nat.le_add_left 1 d.month) lt
  rw [daysBefore_succ d.year pos] at next
  omega

/-- A date comes before the end of its year. -/
theorem daysBefore_add_day_le_year (d : Date) :
    daysBefore d.year d.month + d.day ≤ daysInYear d.year := by
  obtain ⟨-, -, -, most, -, -⟩ := d.bounds
  rw [← daysBefore_thirteen]
  exact d.daysBefore_add_day_le 13 (Nat.lt_succ_of_le most)

/-! ## The order of dates -/

/-- A date of an earlier year has the smaller number. -/
theorem number_lt_of_year_lt {a b : Date} (lt : a.year < b.year) : a.number < b.number := by
  have within := a.daysBefore_add_day_le_year
  have after := daysBeforeYear_mono (show a.year + 1 ≤ b.year from lt)
  obtain ⟨-, -, -, -, day, -⟩ := b.bounds
  rw [daysBeforeYear_succ] at after
  rw [number_eq, number_eq]
  omega

/-- Within a year, a date of an earlier month has the smaller number. -/
theorem number_lt_of_month_lt {a b : Date} (same : a.year = b.year) (lt : a.month < b.month) :
    a.number < b.number := by
  have within := a.daysBefore_add_day_le b.month lt
  obtain ⟨-, -, -, -, day, -⟩ := b.bounds
  rw [number_eq, number_eq, ← same]
  omega

/-- Within a month, an earlier day has the smaller number. -/
theorem number_lt_of_day_lt {a b : Date} (year : a.year = b.year) (month : a.month = b.month)
    (lt : a.day < b.day) : a.number < b.number := by
  rw [number_eq, number_eq, year, month]
  omega

/-- Dates are in the order of their numbers. -/
theorem compare_eq (a b : Date) : a.compare b = compare a.number b.number := by
  cases order : a.compare b with
  | lt =>
      simp only [Date.compare, Ordering.then_eq_lt, Int.compare_eq_lt, Nat.compare_eq_lt,
        Int.compare_eq_eq, Nat.compare_eq_eq] at order
      refine (Int.compare_eq_lt.mpr ?_).symm
      -- The first part that differs decides, and the numbers follow it.
      obtain year | ⟨year, month | ⟨month, day⟩⟩ := order
      · exact number_lt_of_year_lt year
      · exact number_lt_of_month_lt year month
      · exact number_lt_of_day_lt year month day
  | gt =>
      simp only [Date.compare, Ordering.then_eq_gt, Int.compare_eq_gt, Nat.compare_eq_gt,
        Int.compare_eq_eq, Nat.compare_eq_eq] at order
      refine (Int.compare_eq_gt.mpr ?_).symm
      obtain year | ⟨year, month | ⟨month, day⟩⟩ := order
      · exact number_lt_of_year_lt year
      · exact number_lt_of_month_lt year.symm month
      · exact number_lt_of_day_lt year.symm month.symm day
  | eq =>
      simp only [Date.compare, Ordering.then_eq_eq, Int.compare_eq_eq, Nat.compare_eq_eq] at order
      obtain ⟨year, month, day⟩ := order
      rw [number_eq, number_eq, year, month, day]
      exact (Int.compare_eq_eq.mpr rfl).symm

/-! ## The day after -/

/-- A date that exists has the parts that it was made of. -/
theorem of?_eq_some {year : Int} {month day : Nat} {d : Date}
    (found : of? year month day = some d) : d.year = year ∧ d.month = month ∧ d.day = day := by
  rw [of?] at found
  split at found
  · obtain rfl := Option.some.inj found
    exact ⟨rfl, rfl, rfl⟩
  · cases found

/-- What makes no date is out of bounds. -/
theorem of?_eq_none {year : Int} {month day : Nat} (none : of? year month day = none) :
    ¬(firstYear ≤ year ∧ year ≤ lastYear ∧ 1 ≤ day ∧ day ≤ daysInMonth year month) := by
  rw [of?] at none
  split at none
  next => cases none
  next isNone =>
      simpa only [exists?, Bool.and_eq_true, decide_eq_true_eq, and_assoc] using isNone

/-- The last day of a month, if the next day is no date. -/
theorem day_eq_of_none {d : Date} (none : of? d.year d.month (d.day + 1) = none) :
    d.day = daysInMonth d.year d.month := by
  have := of?_eq_none none
  have := d.bounds
  omega

/-- The last month of a year, if the next month has no date. -/
theorem month_eq_of_none {d : Date} (none : of? d.year (d.month + 1) 1 = none) : d.month = 12 := by
  obtain ⟨first, last, pos, most, -, -⟩ := d.bounds
  have unknown := of?_eq_none none
  refine Nat.le_antisymm most (Nat.le_of_not_lt fun early => ?_)
  have some := daysInMonth_pos d.year (Nat.le_add_left 1 d.month) early
  omega

/-- The day after has the next number. -/
theorem number_next? {d next : Date} (goesOn : d.next? = some next) :
    next.number = d.number + 1 := by
  obtain ⟨-, -, pos, -, -, -⟩ := d.bounds
  rw [number_eq, number_eq]
  -- The next date is the next day of the month, the first day of the next month, or New Year's Day.
  obtain sameMonth | ⟨none, sameYear | ⟨none', nextYear⟩⟩ := by
    simpa only [Date.next?, Option.or_eq_some_iff] using goesOn
  · obtain ⟨year, month, day⟩ := of?_eq_some sameMonth
    rw [year, month, day]
    omega
  · obtain ⟨year, month, day⟩ := of?_eq_some sameYear
    rw [year, month, day, daysBefore_succ d.year pos, day_eq_of_none none]
    omega
  · obtain ⟨year, month, day⟩ := of?_eq_some nextYear
    -- The date was the last of its year, which then has all its days behind it.
    have whole := daysBefore_thirteen d.year
    rw [daysBefore_succ d.year (by decide), ← month_eq_of_none none', ← day_eq_of_none none]
      at whole
    have start : daysBefore (d.year + 1) 1 = 0 := rfl
    rw [year, month, day, daysBeforeYear_succ, ← whole, start]
    omega

/-- Only the last date of the calendar has no day after. -/
theorem eq_last_of_next? {d : Date} (ends : d.next? = none) : d = last := by
  obtain ⟨none, none', none''⟩ : of? d.year d.month (d.day + 1) = none ∧
      of? d.year (d.month + 1) 1 = none ∧ of? (d.year + 1) 1 1 = none := by
    simpa only [Date.next?, Option.or_eq_none_iff] using ends
  have month := month_eq_of_none none'
  have day := day_eq_of_none none
  -- Only the bound on years can stop the first day of the next one.
  have year : d.year = lastYear := by
    have := d.bounds
    have := of?_eq_none none''
    have : daysInMonth (d.year + 1) 1 = 31 := rfl
    omega
  have same := of?_self d
  rw [day, month, year] at same
  exact (Option.some.inj same).symm

/-- No date is after the last. -/
theorem number_le_last (d : Date) : d.number ≤ last.number := by
  obtain ⟨-, within, -⟩ := d.bounds
  have before := d.daysBefore_add_day_le_year
  have years := daysBeforeYear_mono (show d.year + 1 ≤ lastYear + 1 by omega)
  have whole : daysBeforeYear (lastYear + 1) = last.number := by decide
  rw [daysBeforeYear_succ, whole] at years
  rw [number_eq]
  omega

end Date

namespace Instant

/-- So many days later the number is greater by as many. -/
theorem number_laterDate? {d later : Date} {days : Nat}
    (goesOn : laterDate? d days = some later) : later.number = d.number + days := by
  induction days generalizing d with
  | zero =>
      obtain rfl := Option.some.inj goesOn
      exact (Int.add_zero _).symm
  | succ days ih =>
      rw [laterDate?] at goesOn
      split at goesOn
      next next found =>
          rw [ih goesOn, Date.number_next? found]
          omega
      next => cases goesOn

/-- Where there is no date so many days later, they would lead past the last. -/
theorem number_lt_of_laterDate? {d : Date} {days : Nat} (ends : laterDate? d days = none) :
    Date.last.number < d.number + days := by
  induction days generalizing d with
  | zero => cases ends
  | succ days ih =>
      rw [laterDate?] at ends
      split at ends
      next next found =>
          have := ih ends
          rw [Date.number_next? found] at this
          omega
      next none =>
          rw [Date.eq_last_of_next? none]
          omega

end Instant

end Playgrounds
