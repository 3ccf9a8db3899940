import Mathlib.Data.List.TakeWhile
import Playgrounds.Http.Target
import Playgrounds.Proofs.Json.Writing

/-!
# Values in a query

A text is given as the value of a parameter by its bytes. Any of them may be escaped, and those that
mean something in a query must be; whichever are, the text is found again.

* `Escapes` — how the bytes of a value may be written.
* `Escapes.queryText` — the text that is found for a value, however it is written.
* `Target.of_single` — a target with one parameter, taken apart.
* `exists_escapes` — every text can be written.
-/

namespace Playgrounds.Http

/-! ## How a value may be written -/

/-- The bytes that never stand for themselves: a fragment, an escape, a parameter and a space begin
with them. -/
def marks : List UInt8 := [35, 37, 38, 43]

/-- The bytes of a value may be written like this. -/
inductive Escapes : List UInt8 → List UInt8 → Prop where
  | nil : Escapes [] []
  /-- A byte that is no mark stands for itself. -/
  | plain {b : UInt8} {bs written : List UInt8} (unmarked : b ∉ marks)
    (rest : Escapes bs written) : Escapes (b :: bs) (b :: written)
  /-- A plus sign stands for a space. -/
  | space {bs written : List UInt8} (rest : Escapes bs written) :
    Escapes (32 :: bs) (43 :: written)
  /-- Two digits in either case stand for any byte. -/
  | digits {x y : UInt8} {high low : Nat} {bs written : List UInt8}
    (first : Hex.value? x = some high) (second : Hex.value? y = some low)
    (rest : Escapes bs written) :
    Escapes (UInt8.ofNat (16 * high + low) :: bs) (37 :: x :: y :: written)

variable {bs written : List UInt8}

/-- What has no mark may be written as it is. -/
theorem escapes_of_plain (unmarked : ∀ b ∈ bs, b ∉ marks) : Escapes bs bs := by
  induction bs with
  | nil => exact .nil
  | cons b bs ih =>
      exact .plain (unmarked b List.mem_cons_self)
        (ih fun c here => unmarked c (List.mem_cons_of_mem b here))

/-- A digit is no mark. -/
theorem unmarked_of_value? {x : UInt8} {v : Nat} (digit : Hex.value? x = some v) :
    x ∉ marks := by
  intro mark
  simp only [marks, List.mem_cons, List.not_mem_nil, or_false] at mark
  rcases mark with rfl | rfl | rfl | rfl <;> exact nomatch digit

/-- No value, however it is written, begins a fragment or another parameter. -/
theorem Escapes.not_mem (escapes : Escapes bs written) {mark : UInt8} (isMark : mark ∈ marks)
    (percent : mark ≠ 37) (plus : mark ≠ 43) : mark ∉ written := by
  have other : ∀ {b : UInt8}, b ∉ marks → mark ≠ b := ne_of_mem_of_not_mem isMark
  induction escapes with
  | nil => exact List.not_mem_nil
  | plain unmarked _ ih => exact List.not_mem_cons_of_ne_of_not_mem (other unmarked) ih
  | space _ ih => exact List.not_mem_cons_of_ne_of_not_mem plus ih
  | digits first second _ ih =>
      refine List.not_mem_cons_of_ne_of_not_mem percent ?_
      refine List.not_mem_cons_of_ne_of_not_mem (other (unmarked_of_value? first)) ?_
      exact List.not_mem_cons_of_ne_of_not_mem (other (unmarked_of_value? second)) ih

/-- What does not begin an escape stays as it is. -/
theorem decoded_cons {b : UInt8} (percent : b ≠ 37) (rest : List UInt8) :
    decoded (b :: rest) = b :: decoded rest := by
  rw [decoded.eq_def]
  exact if_neg percent

/-- **The bytes of a value are found, however they are written.** -/
theorem Escapes.decoded (escapes : Escapes bs written) :
    decoded (written.map fun c => if c = 43 then 32 else c) = bs := by
  have other : ∀ {b mark : UInt8}, mark ∈ marks → b ∉ marks → b ≠ mark :=
    fun isMark unmarked => (ne_of_mem_of_not_mem isMark unmarked).symm
  have plus : ∀ {b : UInt8}, b ∉ marks → b ≠ 43 := other (by decide)
  induction escapes with
  | nil => simp [Http.decoded]
  | plain unmarked _ ih =>
      rw [List.map_cons, if_neg (plus unmarked), decoded_cons (other (by decide) unmarked), ih]
  | space _ ih =>
      rw [List.map_cons, if_pos rfl, decoded_cons (by decide), ih]
  | digits first second _ ih =>
      rw [List.map_cons, List.map_cons, List.map_cons, if_neg (by decide),
        if_neg (plus (unmarked_of_value? first)), if_neg (plus (unmarked_of_value? second)),
        Http.decoded, if_pos rfl]
      simp only [first, second, ih]

/-- A text is found again. -/
theorem Escapes.queryText {s : String} (escapes : Escapes (Text.bytes s) written) :
    queryText written = s := by
  rw [Http.queryText, escapes.decoded, Text.lossy_bytes]

/-- Every text can be written, with all of its bytes escaped. -/
theorem exists_escapes (s : String) : ∃ t : String, Escapes (Text.bytes s) (Text.bytes t) := by
  refine ⟨String.ofList ((Text.bytes s).flatMap fun b => '%' :: Hex.ofByte b), ?_⟩
  rw [Text.bytes_ofList]
  induction Text.bytes s with
  | nil => exact .nil
  | cons b bs ih =>
      obtain ⟨written, high, low⟩ := Json.encode_ofByte b.toNat b.toNat_lt
      have written : Text.encode (Hex.ofByte (UInt8.ofNat b.toNat)) = _ := written
      have escaped := Escapes.digits high low ih
      rw [Nat.div_add_mod, UInt8.ofNat_toNat] at escaped
      rw [UInt8.ofNat_toNat] at written
      rw [List.flatMap_cons, Text.encode_append, Text.encode_cons, written]
      exact escaped

/-! ## A target with one parameter -/

/-- Where no mark stands there is one part only. -/
theorem splitAt_of_not_mem {mark : UInt8} {b : List UInt8} (none : mark ∉ b) :
    splitAt mark b = [b] := by
  unfold splitAt
  suffices whole : List.foldr _ ([], []) b = (b, []) by rw [whole]
  induction b with
  | nil => rfl
  | cons c rest ih =>
      have other : c ≠ mark := fun same => none (same ▸ List.mem_cons_self)
      rw [List.foldr_cons, ih fun here => none (List.mem_cons_of_mem _ here)]
      exact if_neg other

/-- What stands before a mark is taken up to it. -/
theorem takeWhile_append_mark {mark : UInt8} {front : List UInt8} (none : mark ∉ front)
    (rest : List UInt8) : (front ++ mark :: rest).takeWhile (· ≠ mark) = front := by
  rw [List.takeWhile_append_of_pos]
  · simp
  · intro c here
    simpa using fun same : c = mark => none (same ▸ here)

/-- A target with one parameter, which is found with its value. -/
theorem Target.of_single {target : String} {path name : List UInt8}
    (whole : Text.bytes target = path ++ 63 :: (name ++ 61 :: written))
    (path_marks : 35 ∉ path ∧ 63 ∉ path) (name_marks : 35 ∉ name ∧ 38 ∉ name ∧ 61 ∉ name)
    (written_marks : 35 ∉ written ∧ 38 ∉ written) :
    (Target.of target).segments = (splitAt 47 path).drop 1 ∧
      (Target.of target).pairs = [(Http.queryText name, Http.queryText written)] := by
  have unended : (Text.bytes target).takeWhile (· ≠ 35) = Text.bytes target := by
    rw [List.takeWhile_eq_self_iff, whole]
    intro c here
    simp only [List.mem_append, List.mem_cons] at here
    simp only [decide_eq_true_eq]
    rintro rfl
    rcases here with here | here | here | here | here
    · exact path_marks.1 here
    · exact absurd here (by decide)
    · exact name_marks.1 here
    · exact absurd here (by decide)
    · exact written_marks.1 here
  have split : Target.of target = ⟨(splitAt 47 path).drop 1, name ++ 61 :: written⟩ := by
    rw [Target.of, unended, whole, takeWhile_append_mark path_marks.2, List.drop_left]
    rfl
  have lone : 38 ∉ name ++ 61 :: written := by
    simp [name_marks.2.1, written_marks.2]
  have kept : [name ++ 61 :: written].filter (!·.isEmpty) = [name ++ 61 :: written] := by simp
  refine ⟨by rw [split], ?_⟩
  rw [split, Target.pairs, splitAt_of_not_mem lone, kept, List.map_singleton,
    takeWhile_append_mark name_marks.2.2]
  dsimp only
  rw [List.drop_left]
  rfl

end Playgrounds.Http
