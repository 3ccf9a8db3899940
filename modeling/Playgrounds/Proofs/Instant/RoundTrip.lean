import Mathlib.Algebra.Group.Nat.Defs
import Playgrounds.Instant.Reading
import Playgrounds.Instant.Writing

/-!
# Instants come back from their text

Each part of an instant's text is read up to where it ends, whatever follows: a run of digits is as
long as its field allows, or is followed by a mark that is no digit. A year outside 0 to 9999, a
leap second and a fraction of any length are no exception.

* `number?_padded` — a padded number in front of anything that does not go on with it.
* `Instant.read?_text` — reading the text of an instant gives the instant.
-/

namespace Playgrounds

/-! ## Digits -/

/-- Digits in some base: a number below the base has one, and any other has one more than without
its last. What is below a power of the base has at most as many as the exponent. -/
theorem length_le_of_lt_pow {base : Nat} {digits : Nat → List Char} (pos : 0 < base)
    (length : ∀ n, (digits n).length = if n < base then 1 else (digits (n / base)).length + 1)
    (w : Nat) : ∀ n, n < base ^ (w + 1) → (digits n).length ≤ w + 1 := by
  induction w with
  | zero =>
      intro n small
      have one : (digits n).length = 1 := by rw [length, if_pos (by simpa using small)]
      exact Nat.le_of_eq one
  | succ w ih =>
      intro n small
      rw [length]
      split
      · exact Nat.le_add_left 1 _
      -- Without its last digit the number is below the power before.
      · have shorter : n / base < base ^ (w + 1) := by
          rw [Nat.div_lt_iff_lt_mul pos]
          rwa [Nat.pow_succ] at small
        exact Nat.succ_le_succ (ih (n / base) shorter)

namespace Decimal

/-- A digit. -/
def IsDigit (c : Char) : Prop :=
  (value? c).isSome = true

theorem isDigit_digit (n : Nat) : IsDigit (digit n) := by
  rw [IsDigit, value?_digit]
  rfl

/-- A number is written in digits only. -/
theorem isDigit_of_mem_digits (n : Nat) : ∀ c ∈ digits n, IsDigit c := by
  -- Along `digits`, whose last digit comes off the end.
  induction n using Nat.strongRecOn with
  | ind n ih =>
      intro c hc
      unfold digits at hc
      split at hc
      · rw [List.mem_singleton.mp hc]
        exact isDigit_digit n
      · rcases List.mem_append.mp hc with hc | hc
        · exact ih (n / 10) (by omega) c hc
        · rw [List.mem_singleton.mp hc]
          exact isDigit_digit n

/-- Padding is digits, too. -/
theorem isDigit_of_mem_padded (w n : Nat) : ∀ c ∈ padded w n, IsDigit c := by
  intro c hc
  rcases List.mem_append.mp hc with hc | hc
  · rw [List.eq_of_mem_replicate hc]
    rfl
  · exact isDigit_of_mem_digits n c hc

/-- A number of ten or more has one digit more than without its last. -/
theorem length_digits (n : Nat) :
    (digits n).length = if n < 10 then 1 else (digits (n / 10)).length + 1 := by
  rw [digits]
  split <;> simp

/-- No superfluous zero stands in front of a number. -/
theorem head?_digits_ne {n : Nat} (pos : 0 < n) : (digits n).head? ≠ some '0' := by
  induction n using Nat.strongRecOn with
  | ind n ih =>
      unfold digits
      split
      -- A single digit that is zero stands for zero.
      next small =>
          intro zero
          have value := value?_digit n
          rw [Option.some.inj zero] at value
          have : n % 10 = 0 := (Option.some.inj value).symm
          omega
      next large =>
          have ih := ih (n / 10) (by omega) (by omega)
          obtain ⟨c, cs, written⟩ := List.exists_cons_of_ne_nil (digits_ne_nil (n / 10))
          rw [written] at ih ⊢
          exact ih

/-- A number that is not too long is padded to just the width. -/
theorem length_padded {w n : Nat} (pos : 0 < w) (small : n < 10 ^ w) :
    (padded w n).length = w := by
  obtain ⟨w, rfl⟩ := Nat.exists_eq_add_one_of_ne_zero (Nat.ne_of_gt pos)
  have short := length_le_of_lt_pow (by decide) length_digits w n small
  simp only [padded, List.length_append, List.length_replicate]
  omega

/-- Zeros in front change nothing about the value. -/
theorem continue?_zeros (k : Nat) (cs : List Char) :
    continue? 0 (List.replicate k '0' ++ cs) = continue? 0 cs := by
  induction k with
  | zero => rfl
  | succ k ih => exact ih

/-- **A padded number is read back.** -/
theorem number?_padded (w n : Nat) : number? (padded w n) = some n := by
  have reads : continue? 0 (padded w n) = some n := by
    rw [padded, continue?_zeros, continue?_zero_digits]
  cases written : padded w n with
  | nil => exact absurd (List.append_eq_nil_iff.mp written).2 (digits_ne_nil n)
  | cons c cs =>
      rw [written] at reads
      exact reads

end Decimal

namespace Instant

open Decimal

/-! ## Runs of digits -/

/-- What follows does not go on with a run of digits. -/
def EndsDigits (rest : List Char) : Prop :=
  ∀ c ∈ rest.head?, value? c = none

/-- A run of digits is read to its end, where as many digits stand as may, or no more follow. -/
theorem number?_append {most n : Nat} {ds rest : List Char} (digits : ∀ c ∈ ds, IsDigit c)
    (value : Decimal.number? ds = some n)
    (ends : ds.length = most ∨ ds.length ≤ most ∧ EndsDigits rest) :
    number? most (ds ++ rest) = some (n, rest) := by
  -- Either the digits fill the field, or what follows them breaks the run off.
  have run : ((ds ++ rest).take most).takeWhile (fun c => (value? c).isSome) = ds := by
    rcases ends with full | ⟨room, ends⟩
    · have whole : ds.takeWhile (fun c => (value? c).isSome) = ds := by
        have whole := @List.takeWhile_append_of_pos _ _ _ [] digits
        rwa [List.takeWhile_nil, List.append_nil] at whole
      rw [← full, List.take_append_length, whole]
    · rw [List.take_append, List.take_of_length_le room, List.takeWhile_append_of_pos digits]
      cases rest with
      | nil => simp
      | cons c rest =>
          cases left : most - ds.length with
          | zero => simp
          | succ k => simp [ends c rfl]
  simp only [number?, run, value, Option.map_some, List.drop_left]

/-- A padded number in front of what does not go on with it. -/
theorem number?_padded {most w n : Nat} {rest : List Char} (pos : 0 < w) (small : n < 10 ^ w)
    (ends : w = most ∨ w ≤ most ∧ EndsDigits rest) :
    number? most (padded w n ++ rest) = some (n, rest) :=
  number?_append (isDigit_of_mem_padded w n) (Decimal.number?_padded w n)
    (by rwa [length_padded pos small])

/-! ## The parts of the text -/

/-- A digit is no blank and no sign. -/
theorem not_isBlank_of_isDigit {c : Char} (h : IsDigit c) :
    Text.isBlank c = false ∧ c ≠ '-' ∧ c ≠ '+' := by
  have range : '0' ≤ c ∧ c ≤ '9' := by
    unfold IsDigit value? at h
    split at h
    · assumption
    · exact nomatch h
  have least : 48 ≤ c.toNat := UInt32.le_iff_toNat_le.mp range.1
  have most : c.toNat ≤ 57 := UInt32.le_iff_toNat_le.mp range.2
  refine ⟨?_, ?_, ?_⟩
  · unfold Text.isBlank
    generalize c.toNat = n at least most
    simp
    omega
  · rintro rfl
    exact absurd least (by decide)
  · rintro rfl
    exact absurd least (by decide)

/-- A padded number begins with a digit. -/
theorem padded_eq_cons (w n : Nat) : ∃ c cs, padded w n = c :: cs ∧ IsDigit c := by
  cases written : padded w n with
  | nil => exact absurd (List.append_eq_nil_iff.mp written).2 (digits_ne_nil n)
  | cons c cs =>
      refine ⟨c, cs, rfl, isDigit_of_mem_padded w n c ?_⟩
      rw [written]
      exact List.mem_cons_self

/-- No digit is blank, so nothing of a number is trimmed. -/
theorem trimStart_padded (w n : Nat) (rest : List Char) :
    Text.trimStart (padded w n ++ rest) = padded w n ++ rest := by
  obtain ⟨c, cs, written, digit⟩ := padded_eq_cons w n
  rw [written, List.cons_append, Text.trimStart, List.dropWhile_cons_of_neg]
  rw [(not_isBlank_of_isDigit digit).1]
  exact Bool.false_ne_true

/-- A field of two digits is read back, and the rest is left for the next. -/
theorem field?_padded {n : Nat} (small : n < 100) (rest : List Char) :
    field? (padded 2 n ++ rest) = some (n, rest) := by
  rw [field?, trimStart_padded]
  exact number?_padded (by decide) small (.inl rfl)

theorem mark?_cons {c : Char} (h : Text.isBlank c = false) (rest : List Char) :
    mark? c (c :: rest) = some rest := by
  simp [mark?, Text.trimStart, h]

/-- After a sign a year may have any number of digits; a minus makes it one before the year 0. -/
theorem year?_minus (rest : List Char) :
    year? ('-' :: rest) = (number? rest.length rest).map fun (n, rest) => (-(n : Int), rest) :=
  rfl

theorem year?_plus (rest : List Char) :
    year? ('+' :: rest) = (number? rest.length rest).map fun (n, rest) => ((n : Int), rest) :=
  rfl

/-- A year is read whatever its sign and length. -/
theorem year?_yearText (year : Int) {rest : List Char} (ends : EndsDigits rest) :
    year? (yearText year ++ rest) = some (year, rest) := by
  have signed : ∀ n : Nat,
      number? (padded 4 n ++ rest).length (padded 4 n ++ rest) = some (n, rest) := by
    intro n
    refine number?_append (isDigit_of_mem_padded 4 n) (Decimal.number?_padded 4 n) (.inr ⟨?_, ends⟩)
    rw [List.length_append]
    exact Nat.le_add_right _ _
  -- A plain year has four digits and no sign; any other has a sign, and its digits end at a mark.
  unfold yearText
  by_cases plain : (0 ≤ year && year ≤ 9999) = true
  · rw [if_pos plain]
    rw [Bool.and_eq_true, decide_eq_true_eq, decide_eq_true_eq] at plain
    have small : year.toNat < 10 ^ 4 := by omega
    have value : (year.toNat : Int) = year := Int.toNat_of_nonneg plain.1
    have reads : number? 4 (padded 4 year.toNat ++ rest) = some (year.toNat, rest) :=
      number?_padded (by decide) small (.inl rfl)
    obtain ⟨c, cs, written, digit⟩ := padded_eq_cons 4 year.toNat
    obtain ⟨_, minus, plus⟩ := not_isBlank_of_isDigit digit
    unfold year?
    rw [trimStart_padded]
    rw [written, List.cons_append] at reads ⊢
    split
    · exact absurd (List.cons.inj ‹_›).1 minus
    · exact absurd (List.cons.inj ‹_›).1 plus
    · rw [reads, Option.map_some]
      simp only [value]
  · rw [if_neg plain]
    by_cases negative : year < 0
    · have value : -(year.natAbs : Int) = year := by omega
      rw [if_pos negative, List.cons_append, year?_minus, signed, Option.map_some]
      simp only [value]
    · have value : (year.natAbs : Int) = year := by
        rw [Bool.and_eq_true, decide_eq_true_eq, decide_eq_true_eq] at plain
        omega
      rw [if_neg negative, List.cons_append, year?_plus, signed, Option.map_some]
      simp only [value]

/-- A fraction is read to the nanosecond, however few digits it is written with. -/
theorem fraction?_fractionText {nanos : Nat} (small : nanos < nanosPerSecond) :
    fraction? (fractionText nanos ++ ['Z']) = some (nanos, ['Z']) := by
  have ends : EndsDigits ['Z'] := by
    intro c hc
    cases hc
    rfl
  have digits : ∀ w n, 0 < w → w ≤ 9 → n < 10 ^ w →
      fraction? ('.' :: padded w n ++ ['Z']) = some (n * 10 ^ (9 - w), ['Z']) := by
    intro w n pos most small
    rw [List.cons_append, fraction?, number?_padded pos small (.inr ⟨most, ends⟩)]
    simp [length_padded pos small, value?]
  -- Trailing zeros are left out three at a time, and come back when the digits are scaled.
  unfold nanosPerSecond at small
  unfold fractionText
  split
  · subst nanos
    rfl
  split
  · rw [digits 3 _ (by decide) (by decide) (by omega)]
    congr 2
    omega
  split
  · rw [digits 6 _ (by decide) (by decide) (by omega)]
    congr 2
    omega
  · rw [digits 9 _ (by decide) (by decide) small]
    simp

/-! ## The whole text -/

/-- Month and day have two digits at most. -/
theorem month_day_lt (d : Date) : d.month < 100 ∧ d.day < 100 := by
  obtain ⟨year, month, day, isDate⟩ := d
  simp only [Date.exists?, Bool.and_eq_true, decide_eq_true_eq] at isDate
  obtain ⟨⟨_, least⟩, most⟩ := isDate
  unfold Date.daysInMonth at most
  show month < 100 ∧ day < 100
  split at most
  all_goals first | omega | (split at most <;> omega)

/-- What a text shows of an instant: a leap second as second 60, with the second that it adds taken
off its fraction. -/
structure Shows (t : Instant) (second nanos : Nat) : Prop where
  second_le : second ≤ 60
  nanos_lt : nanos < nanosPerSecond
  second_eq : (if second = 60 then 59 else second) = t.second % 60
  fraction_eq : (if second = 60 then nanos + nanosPerSecond else nanos) = t.fraction

/-- **What is written of an instant shows it.** -/
theorem shows (t : Instant) :
    t.Shows (t.second % 60 + if t.inLeapSecond then 1 else 0)
      (t.fraction - (if t.inLeapSecond then 1 else 0) * nanosPerSecond) := by
  by_cases low : t.fraction < nanosPerSecond
  · have plain : t.inLeapSecond = false := decide_eq_false (Nat.not_le_of_lt low)
    have small : t.second % 60 < 60 := Nat.mod_lt _ (by decide)
    have notLeap : t.second % 60 ≠ 60 := Nat.ne_of_lt small
    simp only [plain, Bool.false_eq_true, if_false, Nat.add_zero, Nat.zero_mul, Nat.sub_zero]
    exact ⟨Nat.le_of_lt small, low, if_neg notLeap, if_neg notLeap⟩
  -- In a leap second the time is the last second of a minute, and the fraction is one of the second
  -- after it.
  · have leap : t.inLeapSecond = true := decide_eq_true (Nat.le_of_not_lt low)
    obtain ⟨last, most⟩ := t.fraction_lt.resolve_left low
    simp only [leap, if_true, last, Nat.one_mul]
    refine ⟨Nat.le_refl 60, by omega, ?_, ?_⟩
    · rw [if_pos rfl, last]
    · rw [if_pos rfl]
      omega

/-- The time of day that a text shows is that of the instant, in a leap second as well. -/
theorem ofLocal?_of_shows {t : Instant} {second nanos : Nat} (shows : t.Shows second nanos) :
    ofLocal? t.date (t.second / 3600) (t.second / 60 % 60) second nanos 0 = some t := by
  obtain ⟨second_le, nanos_lt, second_eq, fraction_eq⟩ := shows
  have bound := t.second_lt
  have hour : t.second / 3600 < 24 := by
    unfold secondsPerDay at bound
    omega
  have minute : t.second / 60 % 60 < 60 := Nat.mod_lt _ (by decide)
  -- The seconds that are shown add up to those of the instant, so no day is gone over.
  have due : 3600 * ((t.second / 3600 : Nat) : Int) + 60 * ((t.second / 60 % 60 : Nat) : Int)
      + ((if second = 60 then 59 else second : Nat) : Int) - 60 * 0 = (t.second : Int) := by
    rw [second_eq]
    omega
  have early : ¬ (t.second : Int) < 0 := by omega
  have late : ¬ (secondsPerDay : Int) ≤ (t.second : Int) := by omega
  have same : ((t.second : Int) % secondsPerDay).toNat = t.second := by
    rw [← Int.natCast_emod, Int.toNat_natCast, Nat.mod_eq_of_lt bound]
  unfold ofLocal?
  rw [if_pos ⟨hour, minute, second_le, nanos_lt⟩]
  simp only [due, if_neg early, if_neg late, same, fraction_eq, Option.bind_eq_bind,
    Option.bind_some, dif_pos (And.intro bound t.fraction_lt)]

/-- What was read is handed on to the reading of the rest. -/
theorem bind_of_eq_some {α β : Type} {first : Option α} {a : α} {rest : α → Option β}
    {b : Option β} (read : first = some a) (goesOn : rest a = b) : (first >>= rest) = b := by
  rw [read]
  exact goesOn

/-- The parts of a text are read one after the other. -/
theorem readChars?_written (year : Int) {month day hour minute second nanos : Nat}
    (hmonth : month < 100) (hday : day < 100) (hhour : hour < 100) (hminute : minute < 100)
    (hsecond : second < 100) (hnanos : nanos < nanosPerSecond) :
    readChars? (yearText year ++ '-' :: (padded 2 month ++ '-' :: (padded 2 day
        ++ 'T' :: (padded 2 hour ++ ':' :: (padded 2 minute ++ ':' :: (padded 2 second
        ++ (fractionText nanos ++ ['Z'])))))))
      = (Date.of? year month day).bind fun date => ofLocal? date hour minute second nanos 0 := by
  have dash : Text.isBlank '-' = false := by decide
  have colon : Text.isBlank ':' = false := by decide
  have ends : ∀ rest, EndsDigits ('-' :: rest) := by
    intro rest c hc
    cases hc
    rfl
  -- the date
  refine bind_of_eq_some (year?_yearText year (ends _)) ?_
  refine bind_of_eq_some (mark?_cons dash _) ?_
  refine bind_of_eq_some (field?_padded hmonth _) ?_
  refine bind_of_eq_some (mark?_cons dash _) ?_
  refine bind_of_eq_some (field?_padded hday _) ?_
  -- the letter between them, and the time of day
  refine bind_of_eq_some rfl ?_
  refine bind_of_eq_some (field?_padded hhour _) ?_
  refine bind_of_eq_some (mark?_cons colon _) ?_
  refine bind_of_eq_some (field?_padded hminute _) ?_
  refine bind_of_eq_some (mark?_cons colon _) ?_
  refine bind_of_eq_some (field?_padded hsecond _) ?_
  refine bind_of_eq_some (fraction?_fractionText hnanos) ?_
  rfl

/-- Reading the text of an instant gives the instant. -/
theorem read?_text (t : Instant) : read? t.text = some t := by
  obtain ⟨month, day⟩ := month_day_lt t.date
  have bound := t.second_lt
  unfold secondsPerDay at bound
  have shown := shows t
  rw [read?, text, String.toList_ofList, chars]
  simp only [List.append_assoc, List.cons_append]
  rw [readChars?_written t.date.year month day (by omega) (by omega)
    (Nat.lt_of_le_of_lt shown.second_le (by decide)) shown.nanos_lt, Date.of?_self]
  exact ofLocal?_of_shows shown

end Instant

end Playgrounds
