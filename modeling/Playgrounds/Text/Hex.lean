/-!
# Hexadecimal digits

* `value?` — the value of a digit in either case.
* `lower` — the lower-case digit of a value below sixteen.
* `ofByte` — the two digits of a byte.
-/

namespace Playgrounds.Hex

/-- The value of a hexadecimal digit given by its byte, in either case. -/
def value? (b : UInt8) : Option Nat :=
  if 48 ≤ b && b ≤ 57 then some (b.toNat - 48)
  else if 65 ≤ b && b ≤ 70 then some (b.toNat - 55)
  else if 97 ≤ b && b ≤ 102 then some (b.toNat - 87)
  else none

/-- The lower-case digit of a value, taken modulo sixteen. -/
def lower (n : Nat) : Char :=
  let d := n % 16
  if d < 10 then Char.ofNat (48 + d) else Char.ofNat (87 + d)

/-- The two lower-case digits of a byte. -/
def ofByte (b : UInt8) : List Char :=
  [lower (b.toNat / 16), lower b.toNat]

/-- A number in lower-case digits, without a superfluous zero in front. -/
def digits (n : Nat) : List Char :=
  if n < 16 then [lower n] else digits (n / 16) ++ [lower n]
termination_by n

end Playgrounds.Hex
