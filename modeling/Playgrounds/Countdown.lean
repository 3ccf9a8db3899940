import Playgrounds.Instant.Basic
import Playgrounds.Text.Decimal

/-!
# The text of a countdown

`Countdown.text` shows what is left of a session: `HH:MM:SS`, or `MM:SS` below one hour. Parts of
a second are dropped, never rounded, and what is over shows as zero.

`Span.of?` gives the spans of time that can be asked for: at most as many milliseconds, in either
direction, as a signed word of 64 bits holds.
-/

namespace Playgrounds

namespace Countdown

/-- The whole seconds left of a span in nanoseconds; none when it is over. -/
def wholeSeconds (nanos : Int) : Nat :=
  (nanos / nanosPerSecond).toNat

/-- Hours where there are any, minutes and seconds, two digits each. -/
def chars (nanos : Int) : List Char :=
  let total := wholeSeconds nanos
  let two := Decimal.padded 2
  let short := two (total / 60 % 60) ++ ':' :: two (total % 60)
  if 3600 ≤ total then two (total / 3600) ++ ':' :: short else short

/-- The text of a countdown with so many nanoseconds left. -/
def text (nanos : Int) : String :=
  String.ofList (chars nanos)

end Countdown

namespace Span

/-- The longest span in nanoseconds, in either direction. -/
def longest : Int := Int64.maxValue.toInt * 1000000

/-- The span of so many seconds and nanoseconds, in nanoseconds. -/
def of? (seconds : Int) (nanos : Nat) : Option Int :=
  let total := seconds * nanosPerSecond + nanos
  if nanos < nanosPerSecond ∧ -longest ≤ total ∧ total ≤ longest then some total else none

end Span

end Playgrounds
