import Playgrounds.Json.Value
import Playgrounds.Proofs.Json.Lexis

/-!
# What is written can be read

The text of a `Value` is spelled by the grammar, so the scanner finds in it the node of that value:
every string comes back character for character, and every word of 64 bits digit for digit.

* `Spells.writing` — the text of a value spells its node.
* `scan_writing` — the scanner finds that node.
-/

namespace Playgrounds.Json

open Scan Text

/-! ## Strings -/

/-- The two digits of a byte. -/
theorem encode_ofByte : ∀ n, n < 0x100 →
    encode (Hex.ofByte n.toUInt8)
        = [(Hex.lower (n / 16)).toNat.toUInt8, (Hex.lower n).toNat.toUInt8] ∧
      Hex.value? (Hex.lower (n / 16)).toNat.toUInt8 = some (n / 16) ∧
      Hex.value? (Hex.lower n).toNat.toUInt8 = some (n % 16) := by
  decide +kernel

/-- A character is escaped in one of the ways in which it may be written. -/
theorem writesChar_escaped (c : Char) : WritesChar c (encode (escaped c)) := by
  unfold escaped
  split
  case h_8 quote slash _ _ _ _ _ =>
      split
      · -- A control character stands in its longest form.
        obtain ⟨digits, tens, ones⟩ := encode_ofByte c.toNat (by omega)
        have zero : Hex.value? 48 = some 0 := by decide
        simp only [encode_cons, digits]
        refine .unit ⟨48, 48, _, _, rfl, ?_, ?_, ?_, ones⟩
        · rw [zero, Nat.div_eq_of_lt (by omega)]
        · rw [zero, Nat.div_eq_of_lt (by omega)]
        · rw [tens, Nat.mod_eq_of_lt (by omega)]
      · rw [encode_cons, encode_nil, List.append_nil]
        exact .plain ‹_› quote slash
  -- The characters with an escape of one letter.
  all_goals exact .letter (by decide)

/-- The characters of a string, each escaped. -/
theorem writes_flatMap_escaped (cs : List Char) : Writes cs (encode (cs.flatMap escaped)) := by
  induction cs with
  | nil => exact .nil
  | cons c cs ih =>
      rw [List.flatMap_cons, encode_append]
      exact .cons (writesChar_escaped c) ih

/-- A string in quotation marks. -/
theorem encode_quoted (s : String) :
    ∃ bs t, encode (quoted s) = 34 :: (bs ++ [34]) ∧ Body .empty bs t ∧ t.close = .text s := by
  obtain ⟨t, body, closed⟩ := (writes_flatMap_escaped s.toList).body
  refine ⟨encode (s.toList.flatMap escaped), t, ?_, body, closed⟩
  rw [quoted, List.cons_append, encode_cons, encode_append]
  rfl

/-! ## Numbers -/

/-- A digit is one byte, and the byte has its value. -/
theorem digit_byte (n : Nat) :
    ∃ b : UInt8, encode [Decimal.digit n] = [b] ∧ (48 ≤ b && b ≤ 57) = true
      ∧ b.toNat = 48 + n % 10 := by
  have small : n % 10 < 10 := Nat.mod_lt _ (by decide)
  refine ⟨UInt8.ofNat (48 + n % 10), ?_⟩
  unfold Decimal.digit
  generalize n % 10 = d at small
  revert d
  decide

/-- One more digit that fits is added to the number. -/
theorem next?_digit {significand : Nat} {b : UInt8} (digit : (48 ≤ b && b ≤ 57) = true)
    (fits : significand * 10 + (b.toNat - 48) < UInt64.size) :
    Numeral.next? ⟨.whole, false, significand, false, 0, 0, false⟩ b
      = some ⟨.whole, false, significand * 10 + (b.toNat - 48), false, 0, 0, false⟩ := by
  simp only [Numeral.next?, digit, if_true, Numeral.wholeDigit, Bool.false_or, decide_eq_true_eq,
    if_neg (Nat.not_le_of_lt fits)]

/-- The digits of a number of 64 bits are all counted. -/
theorem foldlM_digits (n : Nat) (pos : 0 < n) (fits : n < UInt64.size) :
    ∃ b bs first, encode (Decimal.digits n) = b :: bs ∧ Numeral.start? b = some first ∧
      bs.foldlM Numeral.next? first = some ⟨.whole, false, n, false, 0, 0, false⟩ := by
  -- The last digit comes off the end, while the numeral is read from its first digit on.
  induction n using Nat.strongRecOn with
  | ind n ih =>
      obtain ⟨d, byte, digit, value⟩ := digit_byte n
      unfold Decimal.digits
      by_cases small : n < 10
      · rw [if_pos small, byte]
        rw [Nat.mod_eq_of_lt small] at value
        have notZero : d ≠ 48 := by
          rintro rfl
          have none : 48 = 48 + n := value
          omega
        have start := start?_digit digit notZero
        rw [show d.toNat - 48 = n by omega] at start
        exact ⟨d, [], _, rfl, start, rfl⟩
      · rw [if_neg small, encode_append, byte]
        obtain ⟨b, bs, first, written, start, rest⟩ :=
          ih (n / 10) (by omega) (by omega) (by omega)
        refine ⟨b, bs ++ [d], first, ?_, start, ?_⟩
        · rw [written, List.cons_append]
        · have grown : n / 10 * 10 + (d.toNat - 48) = n := by omega
          have last : Numeral.next? ⟨.whole, false, n / 10, false, 0, 0, false⟩ d
              = some ⟨.whole, false, n / 10 * 10 + (d.toNat - 48), false, 0, 0, false⟩ :=
            next?_digit digit (by rw [grown]; exact fits)
          rw [grown] at last
          rw [List.foldlM_append, rest]
          simp [last]

/-- The digits of a word spell it. -/
theorem Spells.word (n : UInt64) :
    Spells (.value (.number (.word n))) (encode (Decimal.digits n.toNat)) := by
  by_cases pos : 0 < n.toNat
  · obtain ⟨b, bs, first, written, start, rest⟩ := foldlM_digits n.toNat pos n.toNat_lt_size
    rw [written]
    refine .number start rest ?_
    simp [Numeral.number?]
  · have zero : n = 0 := UInt64.toNat_inj.mp (Nat.eq_zero_of_not_pos pos)
    have written : encode (Decimal.digits (UInt64.toNat 0)) = [48] := by
      rw [UInt64.toNat_zero, Decimal.digits, if_pos (by decide)]
      rfl
    rw [zero, written]
    exact .number rfl rfl rfl

/-! ## Values -/

/-- Nothing is no more than white space. -/
theorem blank_nil : Blank [] :=
  fun _ h => nomatch h

mutual

/-- The text of a value spells its node. -/
theorem Spells.chars : (v : Value) → Spells (.value v.node) (encode v.chars)
  | .null => .null
  | .flag true => .yes
  | .flag false => .no
  | .word n => .word n
  | .text s => by
      obtain ⟨bs, t, written, body, closed⟩ := encode_quoted s
      rw [Value.node, Value.chars, written, ← closed]
      exact .string body
  | .array [] => .emptyArray blank_nil
  | .array (v :: rest) => .array (Spells.itemChars (v :: rest) (List.cons_ne_nil v rest))
  | .object [] => .emptyObject blank_nil
  | .object (m :: rest) => .object (Spells.memberChars (m :: rest) (List.cons_ne_nil m rest))

/-- What is written of items spells them. -/
theorem Spells.itemChars : (vs : List Value) → vs ≠ [] →
    Spells (.items (Value.itemNodes vs)) (encode (Value.itemChars vs))
  | [], h => absurd rfl h
  | [v], _ => by
      rw [Value.itemChars, encode_append]
      exact .lastItem blank_nil (Spells.chars v) blank_nil
  | v :: w :: rest, _ => by
      rw [Value.itemChars, encode_append, encode_cons]
      exact .item blank_nil (Spells.chars v) blank_nil
        (Spells.itemChars (w :: rest) (List.cons_ne_nil w rest))

/-- What is written of members spells them, name and value. -/
theorem Spells.memberChars : (ms : List (String × Value)) → ms ≠ [] →
    Spells (.members (Value.memberNodes ms)) (encode (Value.memberChars ms))
  | [], h => absurd rfl h
  | [(k, v)], _ => by
      obtain ⟨bs, t, written, body, closed⟩ := encode_quoted k
      -- Nothing blank is ever written around a name or a value.
      have spelled :=
        Spells.lastMember blank_nil body blank_nil blank_nil (Spells.chars v) blank_nil
      rw [closed] at spelled
      rw [Value.memberChars, encode_append, written, encode_cons, encode_append, List.cons_append,
        List.append_assoc]
      exact spelled
  | (k, v) :: m :: rest, _ => by
      obtain ⟨bs, t, written, body, closed⟩ := encode_quoted k
      have spelled := Spells.member blank_nil body blank_nil blank_nil (Spells.chars v) blank_nil
        (Spells.memberChars (m :: rest) (List.cons_ne_nil m rest))
      rw [closed] at spelled
      rw [Value.memberChars, encode_append, written, encode_cons, encode_append, encode_cons,
        List.cons_append, List.append_assoc]
      exact spelled

end

/-- The text of a value spells its node. -/
theorem Spells.writing (v : Value) : Spells (.value v.node) (Text.bytes v.writing) := by
  rw [Value.writing, bytes_ofList]
  exact .chars v

/-- The scanner finds in the text of a value its node, and nothing after it. -/
theorem scan_writing (v : Value) : scan (Text.bytes v.writing) = (v.node, true) := by
  have found := scan_of_spells blank_nil (.writing v) blank_nil
  rw [List.nil_append, List.append_nil] at found
  exact found

end Playgrounds.Json
