/-!
# Decimal numbers

Natural numbers as decimal digits.

* `digits` — the digits of a number, without a superfluous zero in front.
* `padded` — at least a given count of digits, filled up with zeros.
* `number?` — reads one or more digits; `number?_digits` says that it undoes `digits`.
-/

namespace Playgrounds.Decimal

/-- The character of a digit below ten. -/
def digit (n : Nat) : Char :=
  Char.ofNat (48 + n % 10)

/-- The value of a digit character. -/
def value? (c : Char) : Option Nat :=
  if '0' ≤ c ∧ c ≤ '9' then some (c.toNat - 48) else none

/-- A digit has the value that it was written for. -/
theorem value?_digit (n : Nat) : value? (digit n) = some (n % 10) := by
  have small : n % 10 < 10 := Nat.mod_lt _ (by decide)
  unfold digit
  generalize n % 10 = d at small
  match d, small with
  | 0, _ | 1, _ | 2, _ | 3, _ | 4, _ | 5, _ | 6, _ | 7, _ | 8, _ | 9, _ => decide

/-- The decimal digits of a number, most significant first. -/
def digits (n : Nat) : List Char :=
  if n < 10 then [digit n] else digits (n / 10) ++ [digit n]
termination_by n

/-- The digits of a number, with zeros in front up to `width` of them. -/
def padded (width n : Nat) : List Char :=
  let ds := digits n
  List.replicate (width - ds.length) '0' ++ ds

/-- The text of a number. -/
def text (n : Nat) : String :=
  String.ofList (digits n)

/-- Reads digits onto the number read so far. -/
def continue? (n : Nat) : List Char → Option Nat
  | [] => some n
  | c :: rest => (value? c).bind fun d => continue? (10 * n + d) rest

/-- The number that one or more digits stand for; zeros in front are allowed. -/
def number? : List Char → Option Nat
  | [] => none
  | cs => continue? 0 cs

/-- A number is read in pieces as it is read in one. -/
theorem continue?_append (n : Nat) (xs ys : List Char) :
    continue? n (xs ++ ys) = (continue? n xs).bind fun m => continue? m ys := by
  induction xs generalizing n with
  | nil => rfl
  | cons c rest ih =>
    simp only [List.cons_append, continue?]
    cases value? c with
    | none => rfl
    | some d => simpa using ih (10 * n + d)

theorem digits_ne_nil (n : Nat) : digits n ≠ [] := by
  unfold digits
  split <;> simp

/-- **A number that was written is read back.** -/
theorem continue?_zero_digits (n : Nat) : continue? 0 (digits n) = some n := by
  induction n using Nat.strongRecOn with
  | ind n ih =>
    unfold digits
    split
    next small =>
      simp only [continue?, value?_digit, Option.bind_some]
      congr 1
      omega
    next large =>
      rw [continue?_append, ih (n / 10) (by omega)]
      simp only [Option.bind_some, continue?, value?_digit]
      congr 1
      omega

/-- Reading the digits of a number gives the number. -/
@[simp] theorem number?_digits (n : Nat) : number? (digits n) = some n := by
  cases h : digits n with
  | nil => exact absurd h (digits_ne_nil n)
  | cons c rest => rw [number?, ← h, continue?_zero_digits]; simp

end Playgrounds.Decimal
