import Playgrounds.Instant.Basic
import Playgrounds.Text.Blank
import Playgrounds.Text.Decimal

/-!
# Reading an instant

`Instant.read?` reads a date, a time of day and an offset from universal time. It is lenient about
layout: blanks may stand before each number, before `-` and `:`, before the offset and at the end;
months, days, hours, minutes and seconds may have one digit; a fraction may have any number of
digits, of which nine count; the offset may be `Z`, `UTC` or a signed number of hours and minutes.
What is read must name a real date and time, also after the offset has been taken off.
-/

namespace Playgrounds.Instant

/-- Up to `most` digits, at least one. -/
def number? (most : Nat) (cs : List Char) : Option (Nat × List Char) :=
  let ds := (cs.take most).takeWhile fun c => (Decimal.value? c).isSome
  (Decimal.number? ds).map fun n => (n, cs.drop ds.length)

/-- A number of one or two digits, after any blanks. -/
def field? (cs : List Char) : Option (Nat × List Char) :=
  number? 2 (Text.trimStart cs)

/-- The given character, after any blanks. -/
def mark? (c : Char) (cs : List Char) : Option (List Char) :=
  match Text.trimStart cs with
  | d :: rest => if d = c then some rest else none
  | [] => none

/-- A year: up to four digits, or a sign and any number of them. -/
def year? (cs : List Char) : Option (Int × List Char) :=
  match Text.trimStart cs with
  | '-' :: rest => (number? rest.length rest).map fun (n, rest) => (-(n : Int), rest)
  | '+' :: rest => (number? rest.length rest).map fun (n, rest) => ((n : Int), rest)
  | rest => (number? 4 rest).map fun (n, rest) => ((n : Int), rest)

/-- A fraction of a second in nanoseconds; zero where no point stands. -/
def fraction? (cs : List Char) : Option (Nat × List Char) :=
  match cs with
  | '.' :: rest =>
    (number? 9 rest).map fun (n, after) =>
      (n * Nat.pow 10 (9 - (rest.length - after.length)),
        after.dropWhile fun c => (Decimal.value? c).isSome)
  | _ => some (0, cs)

/-- Two digits. -/
def twoDigits? : List Char → Option (Nat × List Char)
  | a :: b :: rest => do
    let tens ← Decimal.value? a
    let ones ← Decimal.value? b
    return (10 * tens + ones, rest)
  | _ => none

/-- An offset from universal time in minutes. -/
def offset? (cs : List Char) : Option (Int × List Char) :=
  match cs with
  | 'Z' :: rest | 'z' :: rest => some (0, rest)
  | u :: t :: c :: rest =>
    if u.toUpper = 'U' ∧ t.toUpper = 'T' ∧ c.toUpper = 'C' then some (0, rest)
    else if u = '+' ∨ u = '-' ∨ u = '\u2212' then do
      let (hours, rest) ← twoDigits? (t :: c :: rest)
      let (minutes, rest) ← twoDigits? (rest.dropWhile fun c => c = ':' || Text.isBlank c)
      if minutes < 60 ∧ hours < 24 then
        let offset : Int := 60 * hours + minutes
        return (if u = '+' then offset else -offset, rest)
      else none
    else none
  | _ => none

/-- The instant shown by a clock that is `offset` minutes ahead of universal time. -/
def ofLocal? (date : Date) (hour minute second nanos : Nat) (offset : Int) : Option Instant := do
  if hour < 24 ∧ minute < 60 ∧ second ≤ 60 ∧ nanos < nanosPerSecond then
    let shown : Int := 3600 * hour + 60 * minute + (if second = 60 then 59 else second)
    let due := shown - 60 * offset
    let day ←
      if due < 0 then date.previous?
      else if (secondsPerDay : Int) ≤ due then date.next?
      else some date
    let s := (due % secondsPerDay).toNat
    let fraction := if second = 60 then nanos + nanosPerSecond else nanos
    if h : s < secondsPerDay
        ∧ (fraction < nanosPerSecond ∨ (s % 60 = 59 ∧ fraction < 2 * nanosPerSecond)) then
      some ⟨day, s, fraction, h.1, h.2⟩
    else none
  else none

/-- Reads the characters of an instant. -/
def readChars? (cs : List Char) : Option Instant := do
  let (year, cs) ← year? cs
  let cs ← mark? '-' cs
  let (month, cs) ← field? cs
  let cs ← mark? '-' cs
  let (day, cs) ← field? cs
  let cs ← match cs with
    | 'T' :: rest | 't' :: rest | ' ' :: rest => some rest
    | _ => none
  let (hour, cs) ← field? cs
  let cs ← mark? ':' cs
  let (minute, cs) ← field? cs
  let cs ← mark? ':' cs
  let (second, cs) ← field? cs
  let (nanos, cs) ← fraction? cs
  let (offset, cs) ← offset? (Text.trimStart cs)
  if Text.trimStart cs = [] then
    let date ← Date.of? year month day
    ofLocal? date hour minute second nanos offset
  else none

/-- Reads the text of an instant. -/
def read? (s : String) : Option Instant :=
  readChars? s.toList

end Playgrounds.Instant
