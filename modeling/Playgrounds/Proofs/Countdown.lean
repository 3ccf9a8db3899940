import Playgrounds.Countdown
import Playgrounds.Proofs.Instant.RoundTrip

/-!
# What a countdown shows

The text of a countdown can be read back: its fields, which colons separate, give the whole seconds
that are left. There is one text for each number of seconds, whether or not it has hours.

* `Countdown.fields`, `Countdown.seconds?` — the fields of a text, and the seconds that they give.
* `Countdown.IsLaidOut` — which fields there are, and how many digits they have.
* `Countdown.text_is_faithful` — the text of any span, and how the texts of two compare.
-/

namespace Playgrounds.Countdown

/-! ## Whole seconds -/

/-- A span truncated toward zero to whole seconds; nothing of one that is over. -/
def shown (nanos : Int) : Int :=
  max 0 (nanos.tdiv nanosPerSecond)

/-- What a countdown shows is its span truncated toward zero: rounding down and truncating differ
only below zero, where nothing is shown. -/
theorem wholeSeconds_eq (nanos : Int) : (wholeSeconds nanos : Int) = shown nanos := by
  unfold wholeSeconds shown
  rcases Int.le_total 0 nanos with pos | neg
  · rw [Int.tdiv_eq_ediv_of_nonneg pos]
    omega
  · have mirrored : 0 ≤ (-nanos).tdiv nanosPerSecond := Int.tdiv_nonneg (by omega) (by decide)
    have rounded : nanos / nanosPerSecond ≤ 0 := Int.ediv_nonpos_of_nonpos_of_neg neg (by decide)
    rw [Int.neg_tdiv] at mirrored
    omega

theorem wholeSeconds_mono {nanos other : Int} (le : nanos ≤ other) :
    wholeSeconds nanos ≤ wholeSeconds other :=
  Int.toNat_le_toNat (Int.ediv_le_ediv (by decide) le)

/-! ## Reading a countdown -/

/-- What stands between the colons of a text. -/
def fields (s : String) : List (List Char) :=
  s.toList.splitOn ':'

/-- The seconds that two or three numbers stand for. -/
def total? : List Nat → Option Nat
  | [minutes, seconds] => some (60 * minutes + seconds)
  | [hours, minutes, seconds] => some (3600 * hours + 60 * minutes + seconds)
  | _ => none

/-- The seconds that a text shows. -/
def seconds? (s : String) : Option Nat :=
  ((fields s).mapM Decimal.number?).bind total?

/-- Two digits that stand for a number below sixty. -/
def IsSixtieth (cs : List Char) : Prop :=
  cs.length = 2 ∧ ∃ n < 60, Decimal.number? cs = some n

/-- Two digits or more, with no superfluous zero in front. -/
def IsHours (cs : List Char) : Prop :=
  2 ≤ cs.length ∧ (2 < cs.length → cs.head? ≠ some '0') ∧ ∃ n, 0 < n ∧ Decimal.number? cs = some n

/-- The fields of a countdown with so many seconds left. -/
inductive IsLaidOut (total : Int) : List (List Char) → Prop where
  | short {minutes seconds : List Char} (below : total < 3600) (sixtieth : IsSixtieth minutes)
    (sixtieth' : IsSixtieth seconds) : IsLaidOut total [minutes, seconds]
  | long {hours minutes seconds : List Char} (above : 3600 ≤ total) (isHours : IsHours hours)
    (sixtieth : IsSixtieth minutes) (sixtieth' : IsSixtieth seconds) :
    IsLaidOut total [hours, minutes, seconds]

theorem isSixtieth_padded {n : Nat} (small : n < 60) : IsSixtieth (Decimal.padded 2 n) :=
  ⟨Decimal.length_padded (by decide) (by omega), n, small, Decimal.number?_padded 2 n⟩

/-- Hours are padded to two digits and no further, so that longer ones begin with their own first
digit. -/
theorem isHours_padded {n : Nat} (pos : 0 < n) : IsHours (Decimal.padded 2 n) := by
  refine ⟨?_, ?_, n, pos, Decimal.number?_padded 2 n⟩
  · simp only [Decimal.padded, List.length_append, List.length_replicate]
    omega
  · intro longer
    have unpadded : 2 - (Decimal.digits n).length = 0 := by
      simp only [Decimal.padded, List.length_append, List.length_replicate] at longer
      omega
    rw [Decimal.padded, unpadded]
    exact Decimal.head?_digits_ne pos

/-- The numbers that a countdown of so many seconds shows. -/
def numbers (total : Nat) : List Nat :=
  if 3600 ≤ total then [total / 3600, total / 60 % 60, total % 60]
  else [total / 60 % 60, total % 60]

/-- No number holds a colon, so that the numbers are found between the colons. -/
theorem splitOn_padded {ns : List Nat} (some : ns ≠ []) :
    ([':'].intercalate (ns.map (Decimal.padded 2))).splitOn ':' = ns.map (Decimal.padded 2) := by
  refine List.splitOn_intercalate ':' ?_ (mt List.map_eq_nil_iff.mp some)
  intro cs member colon
  obtain ⟨n, -, rfl⟩ := List.mem_map.mp member
  exact nomatch Decimal.isDigit_of_mem_padded 2 n ':' colon

/-- A countdown is its numbers, padded, with colons between them. -/
theorem chars_eq (nanos : Int) :
    chars nanos = [':'].intercalate ((numbers (wholeSeconds nanos)).map (Decimal.padded 2)) := by
  unfold chars numbers
  by_cases long : 3600 ≤ wholeSeconds nanos
  · simp [long, List.intercalate]
  · simp [long, List.intercalate]

/-- The numbers are found again between the colons. -/
theorem fields_text (nanos : Int) :
    fields (text nanos) = (numbers (wholeSeconds nanos)).map (Decimal.padded 2) := by
  rw [fields, text, String.toList_ofList, chars_eq]
  refine splitOn_padded ?_
  unfold numbers
  split <;> exact List.cons_ne_nil _ _

/-- The numbers of a countdown stand for the seconds that it was made from. -/
theorem total?_numbers (total : Nat) : total? (numbers total) = some total := by
  unfold numbers
  split
  next long =>
      rw [total?]
      congr 1
      omega
  next short =>
      rw [total?]
      congr 1
      omega

theorem mapM_padded (ns : List Nat) :
    (ns.map (Decimal.padded 2)).mapM Decimal.number? = some ns := by
  induction ns with
  | nil => rfl
  | cons n ns ih => simp [Decimal.number?_padded, ih]

/-- **A countdown can be read back.** -/
theorem seconds?_text (nanos : Int) : seconds? (text nanos) = some (wholeSeconds nanos) := by
  rw [seconds?, fields_text, mapM_padded]
  exact total?_numbers _

/-- Hours are shown from one hour on, and never before. -/
theorem isLaidOut_text (nanos : Int) : IsLaidOut (wholeSeconds nanos) (fields (text nanos)) := by
  rw [fields_text, numbers]
  have sixtieth : ∀ n, IsSixtieth (Decimal.padded 2 (n % 60)) :=
    fun n => isSixtieth_padded (Nat.mod_lt n (by decide))
  split
  next long => exact .long (by omega) (isHours_padded (by omega)) (sixtieth _) (sixtieth _)
  next short => exact .short (by omega) (sixtieth _) (sixtieth _)

/-- The text shows the whole seconds and nothing else. -/
theorem text_eq_iff (nanos other : Int) :
    text nanos = text other ↔ wholeSeconds nanos = wholeSeconds other := by
  constructor
  · intro same
    -- Both texts are read back, and the same text gives the same seconds.
    have read := seconds?_text nanos
    rw [same, seconds?_text] at read
    exact (Option.some.inj read).symm
  · intro same
    rw [text, text, chars, chars, same]

/-- **A COUNTDOWN SHOWS THE WHOLE SECONDS THAT ARE LEFT.** The fields of its text give the span
truncated toward zero to whole seconds, or zero if it is negative. Minutes and seconds have two
digits and are below sixty; hours stand in front of them exactly from 3600 seconds on, in as many
digits as they need and at least two. Two spans have the same text exactly if they have the same
whole seconds, and a longer span never shows less. -/
theorem text_is_faithful (nanos : Int) :
    (∃ total, seconds? (text nanos) = some total ∧ (total : Int) = shown nanos) ∧
      IsLaidOut (shown nanos) (fields (text nanos)) ∧
      ∀ other : Int, (text nanos = text other ↔ shown nanos = shown other) ∧
        (nanos ≤ other → ∃ total total', seconds? (text nanos) = some total ∧
          seconds? (text other) = some total' ∧ total ≤ total') := by
  refine ⟨⟨_, seconds?_text nanos, wholeSeconds_eq nanos⟩, ?_, fun other => ⟨?_, fun le => ?_⟩⟩
  · rw [← wholeSeconds_eq]
    exact isLaidOut_text nanos
  · rw [← wholeSeconds_eq, ← wholeSeconds_eq, text_eq_iff, Int.ofNat_inj]
  · exact ⟨_, _, seconds?_text nanos, seconds?_text other, wholeSeconds_mono le⟩

end Playgrounds.Countdown
