/-!
# JSON numbers

The service reads whole numbers of 64 bits only. Of any other number it matters that it is well
written, and whether a floating number of 64 bits could hold it.

* `Number` — what a number amounts to.
* `Numeral` — a number as far as it has been read; `next?` takes one more byte, and `number?` is
  the number if it may end here.
-/

namespace Playgrounds.Json

/-- What a written number amounts to. -/
inductive Number where
  /-- A whole number of 64 bits, without sign. -/
  | word (n : UInt64)
  /-- A negative number, a fraction, one with an exponent, or a longer whole number. -/
  | other
  /-- A number that lies outside the range of floating numbers. -/
  | tooLarge
deriving DecidableEq, Repr

/-- The parts of a number, in the order in which they are written. -/
inductive Numeral.Part where
  | minus
  | zero
  | whole
  | point
  | decimals
  | exponentMark
  | exponentSign
  | exponent
deriving DecidableEq

/-- A number being read. Only as many digits count as keep the significand within 64 bits. -/
structure Numeral where
  part : Numeral.Part
  negative : Bool
  significand : Nat
  /-- Whether a digit of the current part has not counted. -/
  cut : Bool
  /-- The power of ten of the significand, exponent left aside. -/
  scale : Int
  exponent : Nat
  exponentNegative : Bool

namespace Numeral

/-- A number that begins with this byte, if one may. -/
def start? (b : UInt8) : Option Numeral :=
  if b = 45 then some ⟨.minus, true, 0, false, 0, 0, false⟩
  else if b = 48 then some ⟨.zero, false, 0, false, 0, 0, false⟩
  else if 49 ≤ b && b ≤ 57 then some ⟨.whole, false, b.toNat - 48, false, 0, 0, false⟩
  else none

/-- One more digit before the point; one that does not count moves the scale. -/
def wholeDigit (n : Numeral) (d : Nat) : Numeral :=
  let grown := n.significand * 10 + d
  if n.cut || UInt64.size ≤ grown then { n with part := .whole, cut := true, scale := n.scale + 1 }
  else { n with part := .whole, significand := grown }

/-- One more digit after the point; one that does not count is dropped. -/
def decimalDigit (n : Numeral) (d : Nat) : Numeral :=
  let grown := n.significand * 10 + d
  if n.cut || UInt64.size ≤ grown then { n with part := .decimals, cut := true }
  else { n with part := .decimals, significand := grown, scale := n.scale - 1 }

/-- The number with one more byte, if the byte still belongs to it or spoils it: `none` means
that the byte does not go on with the number. -/
def next? (n : Numeral) (b : UInt8) : Option Numeral :=
  let d := b.toNat - 48
  let isDigit := 48 ≤ b && b ≤ 57
  match n.part with
  | .minus =>
    if b = 48 then some { n with part := .zero }
    else if isDigit then some (n.wholeDigit d)
    else none
  | .zero =>
    if b = 46 then some { n with part := .point, cut := false }
    else if b = 101 || b = 69 then some { n with part := .exponentMark }
    else none
  | .whole =>
    if isDigit then some (n.wholeDigit d)
    else if b = 46 then some { n with part := .point, cut := false }
    else if b = 101 || b = 69 then some { n with part := .exponentMark }
    else none
  | .point => if isDigit then some (n.decimalDigit d) else none
  | .decimals =>
    if isDigit then some (n.decimalDigit d)
    else if b = 101 || b = 69 then some { n with part := .exponentMark }
    else none
  | .exponentMark =>
    if b = 43 then some { n with part := .exponentSign }
    else if b = 45 then some { n with part := .exponentSign, exponentNegative := true }
    else if isDigit then some { n with part := .exponent, exponent := d }
    else none
  | .exponentSign => if isDigit then some { n with part := .exponent, exponent := d } else none
  | .exponent =>
    if isDigit then some { n with exponent := n.exponent * 10 + d } else none

/-- The nearest number of 53 significant bits; a tie goes to the even one. -/
def nearestDouble (n : Nat) : Nat :=
  let spare := n.log2 + 1 - 53
  let unit := 1 <<< spare
  let kept := n / unit
  let rest := n % unit
  if unit < 2 * rest || (unit == 2 * rest && kept % 2 == 1) then (kept + 1) * unit
  else kept * unit

/-- Whether the number lies outside the range of floating numbers, where the significand and the
power of ten are each rounded before they are multiplied. -/
def overflows (n : Numeral) : Bool :=
  let power : Int := n.scale + (if n.exponentNegative then -(n.exponent : Int) else n.exponent)
  n.significand != 0 && 0 ≤ power
    && (308 < power
      || 1 <<< 1024 - 1 <<< 970
        ≤ nearestDouble n.significand * nearestDouble (Nat.pow 10 power.toNat))

/-- The number, if it may end here. A zero is not followed by a digit. -/
def number? (n : Numeral) (following : Option UInt8) : Option Number :=
  let value := if n.overflows then Number.tooLarge else .other
  match n.part with
  | .minus | .point | .exponentMark | .exponentSign => none
  | .zero =>
    match following with
    | some b => if 48 ≤ b && b ≤ 57 then none else some (if n.negative then .other else .word 0)
    | none => some (if n.negative then .other else .word 0)
  | .whole =>
    some (if n.negative || n.cut then value else .word (UInt64.ofNat n.significand))
  | .decimals | .exponent => some value

end Numeral

end Playgrounds.Json
