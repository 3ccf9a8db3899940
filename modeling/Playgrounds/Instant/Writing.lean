import Playgrounds.Instant.Basic
import Playgrounds.Text.Decimal

/-!
# The text of an instant

`Instant.text` writes `YYYY-MM-DDTHH:MM:SS`, a fraction where there is one, and `Z`. The fraction
has three, six or nine digits, the fewest that are exact. Years outside 0 to 9999 carry a sign,
and a leap second is written as second 60.
-/

namespace Playgrounds.Instant

/-- A year in four digits, with a sign where four unsigned digits cannot show it. -/
def yearText (year : Int) : List Char :=
  if 0 ≤ year && year ≤ 9999 then Decimal.padded 4 year.toNat
  else (if year < 0 then '-' else '+') :: Decimal.padded 4 year.natAbs

/-- The fraction of a second after its point; nothing where it is zero. -/
def fractionText (nanos : Nat) : List Char :=
  if nanos = 0 then []
  else if nanos % 1000000 = 0 then '.' :: Decimal.padded 3 (nanos / 1000000)
  else if nanos % 1000 = 0 then '.' :: Decimal.padded 6 (nanos / 1000)
  else '.' :: Decimal.padded 9 nanos

/-- The characters of an instant's text. -/
def chars (t : Instant) : List Char :=
  let two := Decimal.padded 2
  let leap := if t.inLeapSecond then 1 else 0
  yearText t.date.year ++ ('-' :: two t.date.month) ++ ('-' :: two t.date.day)
    ++ ('T' :: two (t.second / 3600)) ++ (':' :: two (t.second / 60 % 60))
    ++ (':' :: two (t.second % 60 + leap))
    ++ fractionText (t.fraction - leap * nanosPerSecond) ++ ['Z']

/-- The text of an instant. -/
def text (t : Instant) : String :=
  String.ofList t.chars

end Playgrounds.Instant
