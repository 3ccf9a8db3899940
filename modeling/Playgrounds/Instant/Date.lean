/-!
# Calendar dates

Dates of the proleptic Gregorian calendar within the years that the service can name.

* `Date` — a year, a month and a day of that month; only real dates are values of the type.
* `Date.next?`, `Date.previous?` — the neighbouring dates, where the calendar goes on.
* `Date.number` — the dates counted off in order, so that differences count days.
-/

namespace Playgrounds

/-- The first year of the calendar. -/
def Date.firstYear : Int := -262143

/-- The last year of the calendar. -/
def Date.lastYear : Int := 262142

/-- Every fourth year is a leap year, save the centuries that 400 does not divide. -/
def Date.isLeapYear (year : Int) : Bool :=
  year % 4 == 0 && (year % 100 != 0 || year % 400 == 0)

/-- The days of a month; a month that does not exist has none. -/
def Date.daysInMonth (year : Int) (month : Nat) : Nat :=
  match month with
  | 1 | 3 | 5 | 7 | 8 | 10 | 12 => 31
  | 4 | 6 | 9 | 11 => 30
  | 2 => if isLeapYear year then 29 else 28
  | _ => 0

/-- Whether the calendar has such a date. -/
def Date.exists? (year : Int) (month day : Nat) : Bool :=
  firstYear ≤ year && year ≤ lastYear && 1 ≤ day && day ≤ daysInMonth year month

/-- A date of the calendar. -/
structure Date where
  year : Int
  month : Nat
  day : Nat
  isDate : Date.exists? year month day = true
deriving DecidableEq

namespace Date

/-- The date with these numbers, if there is one. -/
def of? (year : Int) (month day : Nat) : Option Date :=
  if h : Date.exists? year month day = true then some ⟨year, month, day, h⟩ else none

@[simp] theorem of?_self (d : Date) : of? d.year d.month d.day = some d := by
  simp [of?, d.isDate]

/-- The first of January 1970. -/
def epoch : Date := ⟨1970, 1, 1, by decide⟩

/-- The last date of the calendar. -/
def last : Date := ⟨lastYear, 12, 31, by decide⟩

instance : Inhabited Date := ⟨epoch⟩

/-- The day after, unless the calendar ends here. -/
def next? (d : Date) : Option Date :=
  (of? d.year d.month (d.day + 1)).or ((of? d.year (d.month + 1) 1).or (of? (d.year + 1) 1 1))

/-- The day before, unless the calendar starts here. -/
def previous? (d : Date) : Option Date :=
  if d.day = 1 then
    if d.month = 1 then of? (d.year - 1) 12 31
    else of? d.year (d.month - 1) (daysInMonth d.year (d.month - 1))
  else of? d.year d.month (d.day - 1)

/-- The days of the months before `month`. -/
def daysBefore (year : Int) : (month : Nat) → Nat
  | 0 | 1 => 0
  | month + 1 => daysBefore year month + daysInMonth year month

/-- The place of a date in the calendar; the day after a date has the next number. -/
def number (d : Date) : Int :=
  let y := d.year - 1
  365 * y + y / 4 - y / 100 + y / 400 + daysBefore d.year d.month + d.day

/-- Dates by year, then month, then day. -/
protected def compare (a b : Date) : Ordering :=
  (compare a.year b.year).then ((compare a.month b.month).then (compare a.day b.day))

end Date

end Playgrounds
