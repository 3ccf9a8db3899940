import Mathlib.Data.List.TakeWhile
import Mathlib.Data.Nat.Bitwise
import Playgrounds.Proofs.Instant.RoundTrip
import Playgrounds.Settings.Address

/-!
# Addresses come back from their text

Each part of an address is read up to where it ends: a number up to what is no digit, a group up to
what is no hexadecimal digit. The groups that a text leaves out are those of a run of zeros, and
there is one such run at most, so that what is left out can be filled in again.

* `Ends` — what follows a part does not go on with it.
* `longestRun_spec` — a run of zero groups, and the groups around it.
* `v6Groups?_append` — the groups of a text, whichever of them are left out.
* `Address.read?_text` — reading the text of an address gives the address.
-/

namespace Playgrounds

/-! ## Hexadecimal digits -/

namespace Hex

theorem digits_ne_nil (n : Nat) : digits n ≠ [] := by
  unfold digits
  split <;> simp

/-- A number of sixteen or more has one digit more than without its last. -/
theorem length_digits (n : Nat) :
    (digits n).length = if n < 16 then 1 else (digits (n / 16)).length + 1 := by
  rw [digits]
  split <;> simp

end Hex

namespace Address

/-! ## Where a part ends -/

/-- What follows does not begin with such a character. -/
def Ends (p : Char → Bool) (rest : List Char) : Prop :=
  ∀ c ∈ rest.head?, p c = false

/-- A decimal digit. -/
def isDigit (c : Char) : Bool :=
  (Decimal.value? c).isSome

/-- A hexadecimal digit. -/
def isHexDigit (c : Char) : Bool :=
  (hexValue? c).isSome

theorem ends_nil (p : Char → Bool) : Ends p [] :=
  nofun

theorem ends_cons {p : Char → Bool} {c : Char} (ends : p c = false) (rest : List Char) :
    Ends p (c :: rest) := by
  rintro d ⟨⟩
  exact ends

/-- Nothing more is taken where a part ends. -/
theorem takeWhile_of_ends {p : Char → Bool} {rest : List Char} (ends : Ends p rest) :
    rest.takeWhile p = [] := by
  cases rest with
  | nil => rfl
  | cons c rest => rw [List.takeWhile_cons_of_neg (by simp [ends c rfl])]

/-- A part is taken whole, and nothing after it. -/
theorem takeWhile_append_of_ends {p : Char → Bool} {cs rest : List Char}
    (all : ∀ c ∈ cs, p c = true) (ends : Ends p rest) : (cs ++ rest).takeWhile p = cs := by
  rw [List.takeWhile_append_of_pos all, takeWhile_of_ends ends, List.append_nil]

/-! ## Numbers -/

theorem isDigit_of_mem_digits {n : Nat} : ∀ c ∈ Decimal.digits n, isDigit c = true :=
  Decimal.isDigit_of_mem_digits n

/-- A number is read up to where its digits end. -/
theorem number?_append (most : Nat) {n : Nat} (le : n ≤ most) {rest : List Char}
    (ends : Ends isDigit rest) :
    number? most (Decimal.digits n ++ rest) = some (n, rest) := by
  have run : (Decimal.digits n ++ rest).takeWhile (fun c => (Decimal.value? c).isSome)
      = Decimal.digits n := takeWhile_append_of_ends isDigit_of_mem_digits ends
  simp only [number?, run, Decimal.number?_digits, Option.bind_some, if_pos le, List.drop_left]

/-- **A byte is read back.** -/
theorem byte?_append (b : UInt8) {rest : List Char} (ends : Ends isDigit rest) :
    byte? (Decimal.digits b.toNat ++ rest) = some (b, rest) := by
  have small : b.toNat < 10 ^ (2 + 1) := Nat.lt_trans b.toNat_lt (by decide)
  have short : ¬ 3 < (Decimal.digits b.toNat).length :=
    Nat.not_lt.mpr (length_le_of_lt_pow (by decide) Decimal.length_digits 2 b.toNat small)
  -- A zero stands in front only where it is the number.
  have plain : ¬ (1 < (Decimal.digits b.toNat).length
      ∧ (Decimal.digits b.toNat).head? = some '0') := by
    rintro ⟨long, zero⟩
    rcases Nat.eq_zero_or_pos b.toNat with none | pos
    · rw [none, Decimal.digits] at long
      exact absurd long (by decide)
    · exact Decimal.head?_digits_ne pos zero
  have run : (Decimal.digits b.toNat ++ rest).takeWhile (fun c => (Decimal.value? c).isSome)
      = Decimal.digits b.toNat := takeWhile_append_of_ends isDigit_of_mem_digits ends
  simp only [byte?, run, if_neg (not_or.mpr ⟨short, plain⟩),
    number?_append 255 (Nat.le_of_lt_succ b.toNat_lt) ends, Option.map_some, UInt8.ofNat_toNat]

/-- **Four bytes with points between them are read back.** -/
theorem quad?_append (a b c d : UInt8) {rest : List Char} (ends : Ends isDigit rest) :
    quad? (v4Chars a b c d ++ rest) = some ((a, b, c, d), rest) := by
  have point : ∀ cs, Ends isDigit ('.' :: cs) := ends_cons rfl
  have mark : ∀ cs, mark? '.' ('.' :: cs) = some cs := fun _ => rfl
  simp only [quad?, v4Chars, List.append_assoc, List.cons_append]
  simp only [byte?_append _ (point _), Option.bind_eq_bind, Option.bind_some, mark,
    byte?_append d ends]
  rfl

/-- A port is read back behind its colon. -/
theorem port?_append (port : UInt16) {rest : List Char} (ends : Ends isDigit rest) :
    port? (':' :: (Decimal.digits port.toNat ++ rest)) = some (port, rest) := by
  have mark : ∀ cs, mark? ':' (':' :: cs) = some cs := fun _ => rfl
  simp only [port?, mark, Option.bind_eq_bind, Option.bind_some,
    number?_append 65535 (Nat.le_of_lt_succ port.toNat_lt) ends, UInt16.ofNat_toNat]
  rfl

theorem drop_length_takeWhile {α : Type} (p : α → Bool) (cs : List α) :
    cs.drop (cs.takeWhile p).length = cs.dropWhile p := by
  calc cs.drop (cs.takeWhile p).length
      = (cs.takeWhile p ++ cs.dropWhile p).drop (cs.takeWhile p).length := by
        rw [List.takeWhile_append_dropWhile]
    _ = cs.dropWhile p := List.drop_left

/-- Where no point follows the digits, there are no four numbers with points between them. -/
theorem quad?_eq_none {cs : List Char} (ends : Ends (· = '.') (cs.dropWhile isDigit)) :
    quad? cs = none := by
  -- After the first number there would have to be a point.
  have rest : ∀ b rest, byte? cs = some (b, rest) → mark? '.' rest = none := by
    intro b rest read
    unfold byte? number? at read
    simp only [Option.ite_none_left_eq_some, Option.map_eq_some_iff, Option.bind_eq_some_iff,
      Option.ite_none_right_eq_some] at read
    obtain ⟨-, ⟨n, rest'⟩, ⟨m, -, -, found⟩, same⟩ := read
    have isRest : rest = cs.dropWhile isDigit := by
      rw [← (Prod.mk.inj same).2, ← (Prod.mk.inj (Option.some.inj found)).2]
      exact drop_length_takeWhile isDigit cs
    rw [isRest]
    cases after : cs.dropWhile isDigit with
    | nil => rfl
    | cons c more =>
        rw [after] at ends
        simpa [mark?] using ends c rfl
  rw [quad?]
  cases read : byte? cs with
  | none => rfl
  | some found =>
      obtain ⟨b, more⟩ := found
      simp [rest b more read]

/-- **An address of the older kind is read back.** -/
theorem readV4?_chars (a b c d : UInt8) (port : UInt16) :
    readV4? (v4 a b c d port).chars = some (v4 a b c d port) := by
  have colon : Ends isDigit (':' :: Decimal.digits port.toNat) := ends_cons rfl _
  have portRead := port?_append port (ends_nil isDigit)
  rw [List.append_nil] at portRead
  simp only [readV4?, chars, quad?_append a b c d colon, portRead, Option.bind_eq_bind,
    Option.bind_some, if_true]

/-! ## Groups -/

/-- The digit that is written for a value has that value. -/
theorem hexValue?_lower (n : Nat) : hexValue? (Hex.lower n) = some (n % 16) := by
  have small : n % 16 < 16 := Nat.mod_lt _ (by decide)
  unfold Hex.lower
  generalize n % 16 = d at small
  revert d
  decide

/-- A group is written in hexadecimal digits only. -/
theorem isHexDigit_of_mem_digits (n : Nat) : ∀ c ∈ Hex.digits n, isHexDigit c = true := by
  -- Along the digits, of which the last comes off the end.
  induction n using Nat.strongRecOn with
  | ind n ih =>
      intro c member
      have last : isHexDigit (Hex.lower n) = true := by rw [isHexDigit, hexValue?_lower]; rfl
      unfold Hex.digits at member
      split at member
      · exact List.mem_singleton.mp member ▸ last
      · rcases List.mem_append.mp member with member | member
        · exact ih (n / 16) (by omega) c member
        · exact List.mem_singleton.mp member ▸ last

/-- The digits of a number add up to it. -/
theorem foldl_hexDigits (n : Nat) :
    (Hex.digits n).foldl (fun n c => 16 * n + (hexValue? c).getD 0) 0 = n := by
  induction n using Nat.strongRecOn with
  | ind n ih =>
      unfold Hex.digits
      split
      next small => simp [hexValue?_lower, Nat.mod_eq_of_lt small]
      next large =>
          rw [List.foldl_append, ih (n / 16) (by omega)]
          simp only [List.foldl_cons, List.foldl_nil, hexValue?_lower, Option.getD_some]
          omega

/-- A group is read up to where its digits end. -/
theorem group?_append (g : UInt16) {rest : List Char} (ends : Ends isHexDigit rest) :
    group? (Hex.digits g.toNat ++ rest) = some (g, rest) := by
  have run : (Hex.digits g.toNat ++ rest).takeWhile (fun c => (hexValue? c).isSome)
      = Hex.digits g.toNat := takeWhile_append_of_ends (isHexDigit_of_mem_digits _) ends
  have some : ¬ (Hex.digits g.toNat).isEmpty = true := by simp [Hex.digits_ne_nil]
  have short : ¬ 4 < (Hex.digits g.toNat).length :=
    Nat.not_lt.mpr (length_le_of_lt_pow (by decide) Hex.length_digits 3 g.toNat
      (Nat.lt_of_lt_of_le g.toNat_lt (by decide)))
  simp only [group?, run, if_neg (not_or.mpr ⟨some, short⟩), foldl_hexDigits, UInt16.ofNat_toNat,
    List.drop_left]

/-- What follows does not go on with groups, be they hexadecimal or the four numbers of an address
of the older family. -/
def EndsGroups (rest : List Char) : Prop :=
  Ends isHexDigit rest ∧ Ends isDigit rest ∧ Ends (· = '.') rest

theorem endsGroups_cons {c : Char} (hex : isHexDigit c = false) (digit : isDigit c = false)
    (point : c ≠ '.') (rest : List Char) : EndsGroups (c :: rest) :=
  ⟨ends_cons hex rest, ends_cons digit rest, ends_cons (decide_eq_false point) rest⟩

/-- There is no group where no digit is. -/
theorem group?_eq_none {cs : List Char} (ends : Ends isHexDigit cs) : group? cs = none := by
  have run : cs.takeWhile (fun c => (hexValue? c).isSome) = [] := takeWhile_of_ends ends
  rw [group?, run]
  rfl

/-- A group that is followed by no point begins no address of the older family. -/
theorem quad?_hexDigits (g : UInt16) {rest : List Char} (ends : EndsGroups rest) :
    quad? (Hex.digits g.toNat ++ rest) = none := by
  refine quad?_eq_none ?_
  have isHex := isHexDigit_of_mem_digits g.toNat
  -- What is left when the decimal digits are gone begins with a letter or with what follows.
  generalize Hex.digits g.toNat = ds at isHex
  induction ds with
  | nil =>
      obtain ⟨-, digit, point⟩ := ends
      cases rest with
      | nil => exact nofun
      | cons c rest =>
          rw [List.nil_append, List.dropWhile_cons_of_neg (by simp [digit c rfl])]
          exact point
  | cons c ds ih =>
      rw [List.cons_append, List.dropWhile_cons]
      split
      · exact ih fun d member => isHex d (List.mem_cons_of_mem _ member)
      · refine ends_cons (decide_eq_false ?_) _
        rintro rfl
        exact absurd (isHex '.' List.mem_cons_self) (by decide)

/-- There is no address of the older kind where the groups end. -/
theorem quad?_of_endsGroups {cs : List Char} (ends : EndsGroups cs) : quad? cs = none := by
  obtain ⟨-, digit, point⟩ := ends
  refine quad?_eq_none ?_
  cases cs with
  | nil => exact nofun
  | cons c cs =>
      rw [List.dropWhile_cons_of_neg (by simp [digit c rfl])]
      exact point

/-- Further groups, each after its colon. -/
def laterChars (gs : List UInt16) : List Char :=
  gs.flatMap fun g => ':' :: Hex.digits g.toNat

/-- Each group but the first stands after its colon. -/
theorem groupChars_cons (g : UInt16) (gs : List UInt16) :
    groupChars (g :: gs) = Hex.digits g.toNat ++ laterChars gs := by
  induction gs generalizing g with
  | nil => simp [groupChars, laterChars]
  | cons h gs ih => rw [groupChars, ih]; rfl

/-- No group is left to read: nothing that begins one follows, with or without a colon. -/
structure Stops (rest : List Char) : Prop where
  ends : EndsGroups rest
  mark : ∀ start, mark? ':' rest = some start → EndsGroups start

theorem stops_cons {c : Char} (hex : isHexDigit c = false) (digit : isDigit c = false)
    (point : c ≠ '.') (colon : c ≠ ':') (rest : List Char) : Stops (c :: rest) :=
  ⟨endsGroups_cons hex digit point rest, by simp [mark?, colon]⟩

/-- Two colons stop the groups: they stand for those that are left out. -/
theorem stops_colons (rest : List Char) : Stops (':' :: ':' :: rest) := by
  refine ⟨endsGroups_cons rfl rfl (by decide) _, ?_⟩
  rintro start ⟨⟩
  exact endsGroups_cons rfl rfl (by decide) _

/-- What begins with no group is left alone. -/
theorem groups_of_stops {isFirst : Bool} {rest : List Char} (stops : Stops rest) (most : Nat) :
    groups isFirst most rest = (([], false), rest) := by
  cases most with
  | zero => rfl
  | succ most =>
      -- Wherever the next group would have to begin, none does.
      have none : ∀ start, (if isFirst = true then some rest else mark? ':' rest) = some start →
          quad? start = none ∧ group? start = none := by
        intro start begins
        have ends : EndsGroups start := by
          cases isFirst with
          | true => exact Option.some.inj begins ▸ stops.ends
          | false => exact stops.mark start begins
        exact ⟨quad?_of_endsGroups ends, group?_eq_none ends.1⟩
      rw [groups]
      split
      · rfl
      · rename_i start begins
        simp [none start begins]

/-- One more group, after its colon unless it is the first. -/
theorem groups_succ {isFirst : Bool} {cs start rest : List Char} {g : UInt16} (most : Nat)
    (begins : (if isFirst then some cs else mark? ':' cs) = some start) (quad : quad? start = none)
    (group : group? start = some (g, rest)) :
    groups isFirst (most + 1) cs
      = let read := groups false most rest; ((g :: read.1.1, read.1.2), read.2) := by
  rw [groups, begins]
  simp [quad, group]

/-- What may follow a group in the text of an address: more groups, or what ends them. -/
theorem endsGroups_laterChars (gs : List UInt16) {rest : List Char} (ends : EndsGroups rest) :
    EndsGroups (laterChars gs ++ rest) := by
  cases gs with
  | nil => exact ends
  | cons g gs => exact endsGroups_cons rfl rfl (by decide) _

/-- Groups are read until something stops them, if there is room for them all. -/
theorem groups_laterChars {gs : List UInt16} {most : Nat} (le : gs.length ≤ most)
    {rest : List Char} (stops : Stops rest) :
    groups false most (laterChars gs ++ rest) = ((gs, false), rest) := by
  induction gs generalizing most with
  | nil => exact groups_of_stops stops most
  | cons g gs ih =>
      obtain ⟨most, rfl⟩ := Nat.exists_eq_add_one_of_ne_zero (Nat.ne_of_gt (Nat.lt_of_lt_of_le
        (Nat.succ_pos _) le))
      have ends := endsGroups_laterChars gs stops.ends
      have written : laterChars (g :: gs) ++ rest
          = ':' :: (Hex.digits g.toNat ++ (laterChars gs ++ rest)) := by simp [laterChars]
      rw [written, groups_succ most rfl (quad?_hexDigits g ends) (group?_append g ends.1),
        ih (Nat.le_of_succ_le_succ le)]

/-- As many groups as there are. -/
theorem groups_groupChars {gs : List UInt16} {most : Nat} (le : gs.length ≤ most)
    {rest : List Char} (stops : Stops rest) :
    groups true most (groupChars gs ++ rest) = ((gs, false), rest) := by
  cases gs with
  | nil => exact groups_of_stops stops most
  | cons g gs =>
      obtain ⟨most, rfl⟩ := Nat.exists_eq_add_one_of_ne_zero (Nat.ne_of_gt (Nat.lt_of_lt_of_le
        (Nat.succ_pos _) le))
      have ends := endsGroups_laterChars gs stops.ends
      rw [groupChars_cons, List.append_assoc,
        groups_succ most rfl (quad?_hexDigits g ends) (group?_append g ends.1),
        groups_laterChars (Nat.le_of_succ_le_succ le) stops]

/-! ## The groups that a text leaves out -/

/-- The groups are those before the run, the run of zeros, and those after it. -/
theorem longestRun_spec (start : Nat) (gs : List UInt16) :
    ∃ k, (longestRun start gs).1 = start + k ∧
      k + (longestRun start gs).2 ≤ gs.length ∧
      gs.take k ++ List.replicate (longestRun start gs).2 0
        ++ gs.drop (k + (longestRun start gs).2) = gs := by
  induction gs generalizing start with
  | nil => exact ⟨0, rfl, Nat.le_refl 0, rfl⟩
  | cons g gs ih =>
      simp only [longestRun]
      split
      -- The run begins right here, and it is all zeros.
      next here =>
          have zeros : (g :: gs).takeWhile (· = 0)
              = List.replicate (leadingZeros (g :: gs)) 0 := by
            refine List.eq_replicate_iff.mpr ⟨rfl, ?_⟩
            intro h member
            simpa using List.mem_takeWhile_imp member
          have rest : (g :: gs).drop (leadingZeros (g :: gs)) = (g :: gs).dropWhile (· = 0) :=
            drop_length_takeWhile _ _
          refine ⟨0, rfl, ?_, ?_⟩
          · rw [Nat.zero_add]
            exact (List.takeWhile_prefix _).length_le
          · rw [Nat.zero_add, List.take_zero, List.nil_append, rest, ← zeros,
              List.takeWhile_append_dropWhile]
      -- The run lies further on, behind one group more.
      next later =>
          obtain ⟨k, first, within, parts⟩ := ih (start + 1)
          refine ⟨k + 1, ?_, ?_, ?_⟩
          · rw [first]
            omega
          · rw [List.length_cons]
            omega
          · rw [Nat.add_right_comm, List.take_succ_cons, List.drop_succ_cons, List.cons_append,
              List.cons_append, parts]

/-- Two bytes of an address of the older kind make up a group again. -/
theorem joinBytes (x : UInt16) : (x >>> 8).toUInt8.toUInt16 <<< 8 ||| x.toUInt8.toUInt16 = x := by
  have small : x.toNat < 2 ^ 16 := x.toNat_lt
  have high : x.toNat >>> 8 % 256 = x.toNat / 256 := by
    rw [Nat.shiftRight_eq_div_pow]
    omega
  have shifted : (x.toNat / 256) <<< 8 % 65536 = (x.toNat / 256) <<< 8 := by
    rw [Nat.shiftLeft_eq]
    omega
  apply UInt16.toNat_inj.mp
  simp only [UInt16.toNat_or, UInt16.toNat_shiftLeft, UInt8.toNat_toUInt16, UInt16.toNat_toUInt8,
    UInt16.toNat_shiftRight]
  show (x.toNat >>> 8 % 256) <<< 8 % 65536 ||| x.toNat % 256 = x.toNat
  rw [high, shifted, ← Nat.shiftLeft_add_eq_or_of_lt (by omega), Nat.shiftLeft_eq]
  omega

/-- The four numbers of an embedded address make its two groups. -/
theorem quadGroups_bytes (x y : UInt16) :
    quadGroups ((x >>> 8).toUInt8, x.toUInt8, (y >>> 8).toUInt8, y.toUInt8) = [x, y] := by
  rw [quadGroups, joinBytes, joinBytes]

/-- Groups on both sides of a gap, which is filled in with zeros. -/
theorem v6Groups?_gap (front : List UInt16) (gap : Nat) {back : List UInt16} {cs rest : List Char}
    {embedded : Bool} (eight : front.length + gap + back.length = 8) (open_ : 0 < gap)
    (read : groups true (7 - front.length) cs = ((back, embedded), rest)) :
    v6Groups? (groupChars front ++ ':' :: ':' :: cs) = some (front ++ List.replicate gap 0 ++ back,
      rest) := by
  have first : groups true 8 (groupChars front ++ ':' :: ':' :: cs)
      = ((front, false), ':' :: ':' :: cs) :=
    groups_groupChars (by omega) (stops_colons cs)
  have short : front.length ≠ 8 := by omega
  have filled : 8 - front.length - back.length = gap := by omega
  have mark : ∀ cs, mark? ':' (':' :: cs) = some cs := fun _ => rfl
  simp [v6Groups?, first, short, mark, read, filled]

/-- The group in front of an embedded address, and the two groups that the latter takes up. -/
theorem groups_embedded (x y : UInt16) {rest : List Char} (ends : Ends isDigit rest) :
    groups true 7 ("ffff:".toList
        ++ (v4Chars (x >>> 8).toUInt8 x.toUInt8 (y >>> 8).toUInt8 y.toUInt8 ++ rest))
      = (([0xFFFF, x, y], true), rest) := by
  have quad := quad?_append (x >>> 8).toUInt8 x.toUInt8 (y >>> 8).toUInt8 y.toUInt8 ends
  generalize v4Chars (x >>> 8).toUInt8 x.toUInt8 (y >>> 8).toUInt8 y.toUInt8 ++ rest = cs at quad
  have written : "ffff:".toList ++ cs = Hex.digits (UInt16.toNat 0xFFFF) ++ ':' :: cs := by
    have digits : Hex.digits (UInt16.toNat 0xFFFF) = ['f', 'f', 'f', 'f'] := by
      simp [Hex.digits, Hex.lower]
    rw [digits]
    rfl
  have colon : EndsGroups (':' :: cs) := endsGroups_cons rfl rfl (by decide) cs
  -- An address of the older kind takes the place of the last two groups.
  have last : groups false 6 (':' :: cs) = (([x, y], true), rest) := by
    have mark : mark? ':' (':' :: cs) = some cs := rfl
    rw [groups]
    simp [mark, quad, quadGroups_bytes]
  rw [written, groups_succ 6 rfl (quad?_hexDigits 0xFFFF colon) (group?_append 0xFFFF colon.1),
    last]

/-- The groups of a text are those of the address. -/
theorem v6Groups?_append {gs : List UInt16} (eight : gs.length = 8) {rest : List Char}
    (stops : Stops rest) : v6Groups? (v6Chars gs ++ rest) = some (gs, rest) := by
  unfold v6Chars
  split
  next x y =>
      exact v6Groups?_gap [] 5 rfl (by decide)
        (groups_embedded x y stops.ends.2.1)
  next =>
      obtain ⟨k, first, within, parts⟩ := longestRun_spec 0 gs
      rw [Nat.zero_add] at first
      simp only [first]
      generalize (longestRun 0 gs).2 = length at within parts
      -- A single zero is written like any other group; a longer run is left out between two colons.
      by_cases long : 1 < length
      · rw [if_pos long, List.append_assoc, List.cons_append, List.cons_append]
        have before : (gs.take k).length = k := List.length_take_of_le (by omega)
        have after : (gs.drop (k + length)).length = 8 - (k + length) := by
          rw [List.length_drop, eight]
        rw [v6Groups?_gap (gs.take k) length (by omega) (by omega)
          (groups_groupChars (by omega) stops), parts]
      · rw [if_neg long, v6Groups?, groups_groupChars (Nat.le_of_eq eight) stops]
        simp [eight]

/-! ## Addresses -/

/-- A scope is read where one is shown. -/
theorem scope_append (zone : UInt32) (rest : List Char) :
    scope ((if zone = 0 then [] else '%' :: Decimal.digits zone.toNat) ++ ']' :: rest)
      = (zone, ']' :: rest) := by
  by_cases zero : zone = 0
  · rw [if_pos zero, zero]
    rfl
  · have mark : ∀ cs, mark? '%' ('%' :: cs) = some cs := fun _ => rfl
    have ends : Ends isDigit (']' :: rest) := ends_cons rfl rest
    rw [if_neg zero, List.cons_append, scope]
    simp only [mark, Option.bind_some,
      number?_append 4294967295 (Nat.le_of_lt_succ zone.toNat_lt) ends,
      UInt32.ofNat_toNat]

/-- **An address of the newer kind is read back**, with its scope and its port. -/
theorem readV6?_chars (gs : List UInt16) (eight : gs.length = 8) (zone : UInt32) (port : UInt16) :
    readV6? (v6 gs eight zone port).chars = some (v6 gs eight zone port) := by
  have open_ : ∀ cs, mark? '[' ('[' :: cs) = some cs := fun _ => rfl
  have close : ∀ cs, mark? ']' (']' :: cs) = some cs := fun _ => rfl
  have portRead := port?_append port (ends_nil isDigit)
  rw [List.append_nil] at portRead
  -- The groups end at the scope or, where none is shown, at the bracket.
  have stops : ∀ rest, Stops
      ((if zone = 0 then [] else '%' :: Decimal.digits zone.toNat) ++ ']' :: rest) := by
    intro rest
    split
    · exact stops_cons rfl rfl (by decide) (by decide) _
    · exact stops_cons rfl rfl (by decide) (by decide) _
  simp only [readV6?, chars, List.cons_append, List.append_assoc, open_, Option.bind_eq_bind,
    Option.bind_some, v6Groups?_append eight (stops _), scope_append, close, portRead]
  simp [eight]

/-- Reading the text of an address gives the address. -/
theorem read?_text (a : Address) : read? a.text = some a := by
  rw [read?, text, String.toList_ofList]
  cases a with
  | v4 a b c d port => rw [readV4?_chars, Option.some_or]
  | v6 gs eight zone port =>
      have bracket : readV4? (v6 gs eight zone port).chars = none := by
        have quad : quad? (v6 gs eight zone port).chars = none :=
          quad?_of_endsGroups (endsGroups_cons (c := '[') rfl rfl (by decide) _)
        rw [readV4?, quad]
        rfl
      rw [bracket, Option.none_or, readV6?_chars]

end Address

end Playgrounds
