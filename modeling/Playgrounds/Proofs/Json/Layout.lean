import Playgrounds.Json.Record
import Playgrounds.Proofs.Json.Faithful

/-!
# Records however they are laid out

A record is told by the members of an object, whatever their order and whatever other members stand
among them, or by the items of an array. A field whose value is its default may be left unsaid: in
an object always, in an array at the end.

* `SpellsText` — the bytes spell a value, with white space around it.
* `Fields.Holds` — what an object must hold for a record to be read from it, field by field;
  `Fields.ofNode_object_iff` says that nothing else is asked of it.
* `Fields.Arranged`, `Fields.Listed` — the members and the items that tell a record.
* `Fields.faithful_format` — a record is read back if its fields are and have different names.
* `Fields.ReadsAnyLayout` — records are read from every text that tells them, and from none that
  says a field twice or leaves out one that has no default.
-/

namespace Playgrounds.Json

/-! ## Whole values -/

/-- A string is sound, whatever it spells. -/
theorem Spelling.isSound_close (s : Spelling) : s.close.isSound = true ∧ ∀ ms whole,
    s.close ≠ .object ms whole := by
  unfold close
  split
  · split <;> exact ⟨rfl, nofun⟩
  · exact ⟨rfl, nofun⟩

/-- The value of every member is sound. -/
def AllSound (ms : List (Node × Node)) : Prop :=
  ∀ m ∈ ms, m.2.isSound = true

/-- What there is of values in a part is sound; in an object, the values of its members too. -/
def Part.IsSound : Part → Prop
  | .value v => v.isSound = true ∧ ∀ ms whole, v = .object ms whole → AllSound ms
  | .items _ => True
  | .members ms => AllSound ms

/-- What a text spells is sound. -/
theorem isSound_of_spells {p : Part} {bs : List UInt8} (spelled : Spells p bs) : p.IsSound := by
  induction spelled with
  | null | yes | no | number | emptyArray | array => exact ⟨rfl, nofun⟩
  -- A string may be no text, and then it is no object either.
  | @string bs t body =>
      obtain ⟨sound, other⟩ := t.isSound_close
      exact ⟨sound, fun ms whole same => absurd same (other ms whole)⟩
  | emptyObject blank =>
      refine ⟨rfl, ?_⟩
      rintro ms whole ⟨⟩ m ⟨⟩
  | object members ih =>
      refine ⟨rfl, ?_⟩
      rintro ms whole ⟨⟩
      exact ih
  | lastItem | item => trivial
  | lastMember before key beforeColon afterColon value after ih =>
      intro m member
      rw [List.mem_singleton.mp member]
      exact ih.1
  | member before key beforeColon afterColon value after more ih ihMore =>
      intro m member
      rcases List.mem_cons.mp member with rfl | member
      · exact ih.1
      · exact ihMore m member

/-- The members of an object that is spelled out are well written. -/
theorem allSound_of_spells {ms : List (Node × Node)} {bs : List UInt8}
    (spelled : Spells (.value (.object ms true)) bs) : AllSound ms :=
  (isSound_of_spells spelled).2 ms true rfl

/-- The bytes spell the value, with white space around it. -/
def SpellsText (v : Node) (text : List UInt8) : Prop :=
  ∃ w bs w', Blank w ∧ Spells (.value v) bs ∧ Blank w' ∧ text = w ++ (bs ++ w')

/-- A text is read as the value that it spells. -/
theorem Format.read_of_spellsText {α : Type} (f : Format α) {v : Node} {text : List UInt8}
    (spelled : SpellsText v text) : f.read text = f.ofNode v := by
  obtain ⟨w, bs, w', before, spelled, after, rfl⟩ := spelled
  rw [read, readFirst, scan_of_spells before spelled after]
  cases f.ofNode v <;> rfl

namespace Fields

variable {types : List Type}

/-- The names of the fields in order. -/
def names : {types : List Type} → Fields types → List String
  | _, nil => []
  | _, cons field rest => field.name :: rest.names

/-- Every field reads back what it writes. -/
def AllFaithful : {types : List Type} → Fields types → Prop
  | _, nil => True
  | _, cons field rest => field.format.Faithful ∧ rest.AllFaithful

/-! ## The members of an object -/

/-- The values that the members of this name have. -/
def valuesOf (name : String) (ms : List (Node × Node)) : List Node :=
  ms.filterMap fun
    | (.text key, value) => if key = name then some value else none
    | _ => none

/-- A member of this name adds its value. -/
theorem valuesOf_cons_self (name : String) (value : Node) (ms : List (Node × Node)) :
    valuesOf name ((.text name, value) :: ms) = value :: valuesOf name ms := by
  simp [valuesOf]

theorem valuesOf_cons_of_ne {name key : String} (other : key ≠ name) (value : Node)
    (ms : List (Node × Node)) : valuesOf name ((.text key, value) :: ms) = valuesOf name ms := by
  simp [valuesOf, other]

/-- Every key is a text. -/
def Keyed (ms : List (Node × Node)) : Prop :=
  ∀ m ∈ ms, ∃ key, m.1 = .text key

/-- What a field holds once the members have been read: nothing new if none has its name, else the
value of the one that does. -/
def Gathers {α : Type} (field : Field α) (ms : List (Node × Node)) (slot slot' : Option α) : Prop :=
  (valuesOf field.name ms = [] ∧ slot' = slot) ∨
    slot = none ∧ ∃ v a, valuesOf field.name ms = [v] ∧ field.format.ofNode v = .ok a ∧
      slot' = some a

/-- A field takes a value only once. -/
theorem gathers_cons_self {α : Type} {field : Field α} {value : Node} {ms : List (Node × Node)}
    {slot slot' : Option α} :
    Gathers field ((.text field.name, value) :: ms) slot slot' ↔
      slot = none ∧ ∃ a, field.format.ofNode value = .ok a ∧ Gathers field ms (some a) slot' := by
  rw [Gathers, valuesOf_cons_self]
  constructor
  · rintro (⟨empty, -⟩ | ⟨rfl, v, a, one, read, rfl⟩)
    · exact nomatch empty
    · obtain ⟨rfl, empty⟩ := List.cons.inj one
      exact ⟨rfl, a, read, .inl ⟨empty, rfl⟩⟩
  · rintro ⟨rfl, a, read, ⟨empty, rfl⟩ | ⟨full, -⟩⟩
    · exact .inr ⟨rfl, value, a, by rw [empty], read, rfl⟩
    · exact nomatch full

/-- A field takes nothing from a member of another name. -/
theorem gathers_cons_of_ne {α : Type} {field : Field α} {key : String} (other : field.name ≠ key)
    {value : Node} {ms : List (Node × Node)} {slot slot' : Option α} :
    Gathers field ((.text key, value) :: ms) slot slot' ↔ Gathers field ms slot slot' := by
  rw [Gathers, valuesOf_cons_of_ne other.symm, Gathers]

/-- A name that no field has is put nowhere. -/
theorem put?_of_notMem : {types : List Type} → (fields : Fields types) → {key : String} →
    key ∉ fields.names → (value : Node) → (slots : Slots types) →
    fields.put? key value slots = none
  | _, nil, _, _, _, _ => rfl
  | _, cons field rest, key, other, value, (slot, slots) => by
      have differs : field.name ≠ key := fun same => other (same ▸ List.mem_cons_self)
      have others : key ∉ rest.names := fun member => other (List.mem_cons_of_mem _ member)
      simp only [put?, if_neg differs, put?_of_notMem rest others, Option.map_none]

/-- A member of the first field's name is read into it, if it is the first of that name. -/
theorem readMembers_cons_self {α : Type} {field : Field α} {rest : Fields types} {value : Node}
    {ms : List (Node × Node)} {slot : Option α} {slots : Slots types}
    {read : Slots (α :: types)} :
    (cons field rest).readMembers ((.text field.name, value) :: ms) (slot, slots) = .ok read ↔
      slot = none ∧ ∃ a, field.format.ofNode value = .ok a ∧
        (cons field rest).readMembers ms (some a, slots) = .ok read := by
  simp only [readMembers, put?, if_true]
  cases slot with
  | some b => simp [Except.bind]
  | none => cases field.format.ofNode value <;> simp [Except.bind, Except.map]

/-- The members are read into the first field and, independently, into the others. -/
theorem readMembers_cons_eq_ok_iff {α : Type} {field : Field α} {rest : Fields types}
    (fresh : field.name ∉ rest.names) {ms : List (Node × Node)} (sound : AllSound ms)
    (slot slot' : Option α) (slots slots' : Slots types) :
    (cons field rest).readMembers ms (slot, slots) = .ok (slot', slots') ↔
      Gathers field ms slot slot' ∧ rest.readMembers ms slots = .ok slots' := by
  -- By the members; what has been read of the earlier ones is left general.
  induction ms generalizing slot slots with
  | nil =>
      constructor
      · rintro ⟨⟩
        exact ⟨.inl ⟨rfl, rfl⟩, rfl⟩
      · rintro ⟨⟨-, rfl⟩ | ⟨-, v, a, one, -⟩, ⟨⟩⟩
        · rfl
        · exact nomatch one
  | cons m ms ih =>
      obtain ⟨key, value⟩ := m
      have ih := ih fun m member => sound m (List.mem_cons_of_mem _ member)
      have isSound : value.isSound = true := sound _ List.mem_cons_self
      cases key with
      | text key =>
          by_cases here : field.name = key
          · subst here
            have passed : rest.readMembers ((.text field.name, value) :: ms) slots
                = rest.readMembers ms slots := by
              simp only [readMembers, put?_of_notMem rest fresh, isSound, if_true]
            refine readMembers_cons_self.trans ?_
            rw [passed, gathers_cons_self]
            constructor
            · rintro ⟨rfl, a, read, later⟩
              obtain ⟨gathers, others⟩ := (ih (some a) slots).mp later
              exact ⟨⟨rfl, a, read, gathers⟩, others⟩
            · rintro ⟨⟨rfl, a, read, gathers⟩, others⟩
              exact ⟨rfl, a, read, (ih (some a) slots).mpr ⟨gathers, others⟩⟩
          · rw [gathers_cons_of_ne here]
            simp only [readMembers, put?, if_neg here]
            cases rest.put? key value slots with
            | none => simpa only [Option.map_none, isSound, if_true] using ih slot slots
            | some read =>
                cases read with
                | error e => simp [Except.bind, Except.map]
                | ok slots => exact ih slot slots
      | _ => simp [readMembers]

/-- Without fields, members are passed over if their names are texts. -/
theorem readMembers_nil_eq_ok_iff {ms : List (Node × Node)} (sound : AllSound ms) :
    nil.readMembers ms () = .ok () ↔ Keyed ms := by
  induction ms with
  | nil => simp [readMembers, Keyed]
  | cons m ms ih =>
      obtain ⟨key, value⟩ := m
      have ih := ih fun m member => sound m (List.mem_cons_of_mem _ member)
      have isSound : value.isSound = true := sound _ List.mem_cons_self
      cases key <;> simp_all [readMembers, put?, Keyed]

/-- A record is complete if its first field has a value or a default, and the others are. -/
theorem complete_cons_eq_ok_iff {α : Type} {field : Field α} {rest : Fields types}
    {slot : Option α} {slots : Slots types} {a : α} {row : Row types} :
    (cons field rest).complete (slot, slots) = .ok (a, row) ↔
      slot.or field.default? = some a ∧ rest.complete slots = .ok row := by
  simp only [complete]
  cases slot.or field.default? with
  | none => simp
  | some b =>
      refine map_eq_ok_iff.trans ?_
      constructor
      · rintro ⟨row, read, ⟨⟩⟩
        exact ⟨rfl, read⟩
      · rintro ⟨⟨⟩, read⟩
        exact ⟨row, read, rfl⟩

/-- The members tell the field: none has its name and the value is the default, or one has, and
holds the value. -/
def Tells {α : Type} (field : Field α) (ms : List (Node × Node)) (a : α) : Prop :=
  (valuesOf field.name ms = [] ∧ field.default? = some a) ∨
    ∃ v, valuesOf field.name ms = [v] ∧ field.format.ofNode v = .ok a

/-- What the members tell of a field is what it gathers from them, or else its default. -/
theorem tells_iff {α : Type} {field : Field α} {ms : List (Node × Node)} {a : α} :
    Tells field ms a ↔ ∃ slot, Gathers field ms none slot ∧ slot.or field.default? = some a := by
  constructor
  · rintro (⟨empty, usual⟩ | ⟨v, one, read⟩)
    · exact ⟨none, .inl ⟨empty, rfl⟩, usual⟩
    · exact ⟨some a, .inr ⟨rfl, v, a, one, read, rfl⟩, rfl⟩
  · rintro ⟨slot, ⟨empty, rfl⟩ | ⟨-, v, b, one, read, rfl⟩, same⟩
    · exact .inl ⟨empty, same⟩
    · cases same
      exact .inr ⟨v, one, read⟩

/-- The members hold the record: every key is a text, and every field is told. -/
def Holds : {types : List Type} → Fields types → List (Node × Node) → Row types → Prop
  | _, nil, ms, () => Keyed ms
  | _, cons field rest, ms, (a, row) => Tells field ms a ∧ rest.Holds ms row

/-- The members of an object are read as the record that they hold. -/
theorem readMembers_bind_complete_iff : {types : List Type} → (fields : Fields types) →
    fields.names.Nodup → {ms : List (Node × Node)} → AllSound ms → (row : Row types) →
    ((fields.readMembers ms fields.unread).bind fields.complete = .ok row ↔ fields.Holds ms row)
  | _, nil, _, ms, sound, () => by
      refine bind_eq_ok_iff.trans (Iff.trans ?_ (readMembers_nil_eq_ok_iff sound))
      exact ⟨fun ⟨(), read, _⟩ => read, fun read => ⟨(), read, rfl⟩⟩
  | _, cons field rest, distinct, ms, sound, (a, row) => by
      obtain ⟨fresh, distinct⟩ := List.nodup_cons.mp distinct
      -- What is left of the record is read from the same members.
      have others := bind_eq_ok_iff.symm.trans
        (readMembers_bind_complete_iff rest distinct sound row)
      refine bind_eq_ok_iff.trans (Iff.trans ?_ (and_congr tells_iff.symm others))
      constructor
      · rintro ⟨⟨slot, slots⟩, read, completed⟩
        obtain ⟨gathers, read⟩ := (readMembers_cons_eq_ok_iff fresh sound _ _ _ _).mp read
        obtain ⟨told, completed⟩ := complete_cons_eq_ok_iff.mp completed
        exact ⟨⟨slot, gathers, told⟩, slots, read, completed⟩
      · rintro ⟨⟨slot, gathers, told⟩, slots, read, completed⟩
        exact ⟨(slot, slots),
          (readMembers_cons_eq_ok_iff fresh sound _ _ _ _).mpr ⟨gathers, read⟩,
          complete_cons_eq_ok_iff.mpr ⟨told, completed⟩⟩

/-- An object is read as a record exactly if its members hold the record. -/
theorem ofNode_object_iff (fields : Fields types) (distinct : fields.names.Nodup)
    {ms : List (Node × Node)} (sound : AllSound ms) (row : Row types) :
    fields.format.ofNode (.object ms true) = .ok row ↔ fields.Holds ms row :=
  readMembers_bind_complete_iff fields distinct sound row

/-! ## Layouts of a record -/

/-- The members that tell a record in order: one for each field, but that a field may be left out
whose value is its default. -/
inductive Told : {types : List Type} → Fields types → Row types → List (Node × Node) → Prop where
  | nil : Told .nil () []
  | given {α : Type} {types : List Type} {field : Field α} {rest : Fields types} {a : α}
    {row : Row types} {ms : List (Node × Node)} (others : Told rest row ms) :
    Told (.cons field rest) (a, row) ((.text field.name, (field.format.toValue a).node) :: ms)
  | left {α : Type} {types : List Type} {field : Field α} {rest : Fields types} {a : α}
    {row : Row types} {ms : List (Node × Node)} (usual : field.default? = some a)
    (others : Told rest row ms) : Told (.cons field rest) (a, row) ms

/-- No member is of a field. -/
def Foreign (fields : Fields types) (ms : List (Node × Node)) : Prop :=
  ∀ m ∈ ms, ∃ key, key ∉ fields.names ∧ m.1 = .text key

/-- The members tell the record in any order, with any others among them. -/
def Arranged (fields : Fields types) (row : Row types) (ms : List (Node × Node)) : Prop :=
  ∃ told others, fields.Told row told ∧ fields.Foreign others ∧ ms.Perm (told ++ others)

/-- The items that tell a record in order: one for each field, but that fields may be left out at
the end whose values are their defaults. -/
inductive Listed : {types : List Type} → Fields types → Row types → List Node → Prop where
  | nil : Listed .nil () []
  | item {α : Type} {types : List Type} {field : Field α} {rest : Fields types} {a : α}
    {row : Row types} {vs : List Node} (others : Listed rest row vs) :
    Listed (.cons field rest) (a, row) ((field.format.toValue a).node :: vs)
  | left {α : Type} {types : List Type} {field : Field α} {rest : Fields types} {a : α}
    {row : Row types} (usual : field.default? = some a) (others : Listed rest row []) :
    Listed (.cons field rest) (a, row) []

/-- The names of the fields in order, and whether each may be left out. -/
def outline : {types : List Type} → Fields types → List (String × Bool)
  | _, nil => []
  | _, cons field rest => (field.name, field.default?.isSome) :: rest.outline

/-- Members of other names tell nothing of a field. -/
theorem valuesOf_eq_nil {name : String} {ms : List (Node × Node)}
    (others : ∀ m ∈ ms, ∃ key, key ≠ name ∧ m.1 = .text key) : valuesOf name ms = [] := by
  refine List.filterMap_eq_nil_iff.mpr ?_
  rintro ⟨_, value⟩ member
  obtain ⟨key, other, rfl⟩ := others _ member
  exact if_neg other

/-- Whether members hold a record is seen from the values of the names of the fields. -/
theorem Holds.congr : {types : List Type} → {fields : Fields types} → {row : Row types} →
    {ms ms' : List (Node × Node)} → Keyed ms' →
    (∀ name ∈ fields.names, (valuesOf name ms').Perm (valuesOf name ms)) → fields.Holds ms row →
    fields.Holds ms' row
  | _, nil, (), _, _, keyed, _, _ => keyed
  | _, cons field rest, (a, row), ms, ms', keyed, same, holds => by
      obtain ⟨tells, holds⟩ := holds
      have others := holds.congr keyed fun name member => same name (List.mem_cons_of_mem _ member)
      refine ⟨?_, others⟩
      have same := same field.name List.mem_cons_self
      -- A field has one value or none, and neither depends on the order.
      rcases tells with ⟨empty, usual⟩ | ⟨v, one, read⟩
      · rw [empty] at same
        exact .inl ⟨same.eq_nil, usual⟩
      · rw [one] at same
        exact .inr ⟨v, List.perm_singleton.mp same, read⟩

/-- The members that tell a record have the names of its fields. -/
theorem Told.key_mem {fields : Fields types} {row : Row types} {ms : List (Node × Node)}
    (told : fields.Told row ms) : ∀ m ∈ ms, ∃ key ∈ fields.names, m.1 = .text key := by
  induction told with
  | nil => exact nofun
  | @given _ _ field _ _ _ _ _ ih =>
      intro m member
      rcases List.mem_cons.mp member with rfl | member
      · exact ⟨field.name, List.mem_cons_self, rfl⟩
      · obtain ⟨key, known, same⟩ := ih m member
        exact ⟨key, List.mem_cons_of_mem _ known, same⟩
  | left _ _ ih =>
      intro m member
      obtain ⟨key, known, same⟩ := ih m member
      exact ⟨key, List.mem_cons_of_mem _ known, same⟩

/-- They tell nothing of a field that is not of this record. -/
theorem Told.valuesOf_eq_nil {fields : Fields types} {row : Row types} {ms : List (Node × Node)}
    (told : fields.Told row ms) {name : String} (fresh : name ∉ fields.names) :
    valuesOf name ms = [] := by
  refine Fields.valuesOf_eq_nil fun m member => ?_
  obtain ⟨key, known, isKey⟩ := told.key_mem m member
  exact ⟨key, fun same => fresh (same ▸ known), isKey⟩

/-- The members that tell a record hold it. -/
theorem Told.holds {fields : Fields types} {row : Row types} {ms : List (Node × Node)}
    (told : fields.Told row ms) (distinct : fields.names.Nodup) (faithful : fields.AllFaithful) :
    fields.Holds ms row := by
  induction told with
  | nil => exact nofun
  | @given _ _ field rest a row ms others ih =>
      obtain ⟨fresh, distinct⟩ := List.nodup_cons.mp distinct
      have none := others.valuesOf_eq_nil fresh
      have holds := ih distinct faithful.2
      refine ⟨.inr ⟨_, ?_, faithful.1 a⟩, holds.congr ?_ ?_⟩
      · rw [valuesOf_cons_self, none]
      · intro m member
        obtain ⟨key, -, same⟩ := (Told.given others).key_mem m member
        exact ⟨key, same⟩
      · intro name known
        have other : field.name ≠ name := fun same => fresh (same ▸ known)
        rw [valuesOf_cons_of_ne other]
  | left usual others ih =>
      obtain ⟨fresh, distinct⟩ := List.nodup_cons.mp distinct
      exact ⟨.inl ⟨others.valuesOf_eq_nil fresh, usual⟩, ih distinct faithful.2⟩

/-- What is written of a record tells it. -/
theorem told_toMembers : {types : List Type} → (fields : Fields types) → (row : Row types) →
    fields.Told row (Value.memberNodes (fields.toMembers row))
  | _, nil, () => .nil
  | _, cons _ rest, (_, row) => .given (told_toMembers rest row)

/-- A record is read back if its fields are and have different names. -/
theorem faithful_format (fields : Fields types) (distinct : fields.names.Nodup)
    (faithful : fields.AllFaithful) : fields.format.Faithful := by
  intro row
  have sound := allSound_of_spells (.writing (.object (fields.toMembers row)))
  have told := told_toMembers fields row
  exact (ofNode_object_iff fields distinct sound row).mpr (told.holds distinct faithful)

/-- Members that tell a record hold it, in any order and with any others among them. -/
theorem Arranged.holds {fields : Fields types} {row : Row types} {ms : List (Node × Node)}
    (arranged : fields.Arranged row ms) (distinct : fields.names.Nodup)
    (faithful : fields.AllFaithful) : fields.Holds ms row := by
  obtain ⟨told, others, tells, foreign, order⟩ := arranged
  refine (tells.holds distinct faithful).congr ?_ ?_
  · intro m member
    rcases List.mem_append.mp (order.mem_iff.mp member) with member | member
    · obtain ⟨key, -, same⟩ := tells.key_mem m member
      exact ⟨key, same⟩
    · obtain ⟨key, -, same⟩ := foreign m member
      exact ⟨key, same⟩
  · intro name known
    have none : valuesOf name others = [] := by
      refine valuesOf_eq_nil fun m member => ?_
      obtain ⟨key, unknown, isKey⟩ := foreign m member
      exact ⟨key, fun same => unknown (same ▸ known), isKey⟩
    -- Members that belong to no field may stand anywhere among those that do.
    have joined : valuesOf name (told ++ others) = valuesOf name told := by
      rw [valuesOf, List.filterMap_append, ← valuesOf, ← valuesOf, none, List.append_nil]
    rw [← joined]
    exact order.filterMap _

/-- Items that tell a record are read as it. -/
theorem Listed.readItems_eq {fields : Fields types} {row : Row types} {vs : List Node}
    (listed : fields.Listed row vs) (faithful : fields.AllFaithful) :
    fields.readItems vs true = .ok row := by
  induction listed with
  | nil => rfl
  | item others ih => simp only [readItems, faithful.1 _, Except.bind, ih faithful.2, Except.map]
  | left usual others ih => simp only [readItems, if_true, usual, ih faithful.2, Except.map]

/-! ## What tells no record -/

/-- No field of a record is held twice. -/
theorem Holds.length_valuesOf_le : {types : List Type} → {fields : Fields types} →
    {row : Row types} → {ms : List (Node × Node)} → fields.Holds ms row → {name : String} →
    name ∈ fields.names → (valuesOf name ms).length ≤ 1
  | _, nil, (), _, _, _, known => nomatch known
  | _, cons field rest, (a, row), ms, holds, name, known => by
      obtain ⟨tells, holds⟩ := holds
      rcases List.mem_cons.mp known with rfl | known
      · rcases tells with ⟨none, -⟩ | ⟨v, one, -⟩
        · simp [none]
        · simp [one]
      · exact holds.length_valuesOf_le known

/-- No field of a record is left out that has no default. -/
theorem Holds.valuesOf_ne_nil : {types : List Type} → {fields : Fields types} →
    {row : Row types} → {ms : List (Node × Node)} → fields.Holds ms row → {name : String} →
    (name, false) ∈ fields.outline → valuesOf name ms ≠ []
  | _, nil, (), _, _, _, known => nomatch known
  | _, cons field rest, (a, row), ms, holds, name, known => by
      obtain ⟨tells, holds⟩ := holds
      rcases List.mem_cons.mp known with same | known
      · obtain ⟨rfl, needed⟩ := Prod.mk.inj same
        rcases tells with ⟨-, usual⟩ | ⟨v, one, -⟩
        · rw [usual] at needed
          exact nomatch needed
        · rw [one]
          exact List.cons_ne_nil v []
      · exact holds.valuesOf_ne_nil known

/-- Nor does an array end before such a field. -/
theorem notMem_outline_drop : {types : List Type} → {fields : Fields types} → {row : Row types} →
    {vs : List Node} → fields.readItems vs true = .ok row → {name : String} →
    (name, false) ∉ fields.outline.drop vs.length
  | _, nil, (), vs, _, _ => by simp [outline]
  | _, cons field rest, (a, row), [], read, name => by
      simp only [readItems, if_true] at read
      intro known
      -- The array ends before this field, which must then have a default.
      cases usual : field.default? with
      | none => simp [usual] at read
      | some b =>
          simp only [usual] at read
          obtain ⟨row', others, -⟩ := map_eq_ok_iff.mp read
          rcases List.mem_cons.mp known with same | known
          · rw [usual] at same
            exact nomatch (Prod.mk.inj same).2
          · exact notMem_outline_drop others known
  | _, cons field rest, (a, row), v :: vs, read, name => by
      obtain ⟨b, -, read⟩ := bind_eq_ok_iff.mp read
      obtain ⟨row', others, -⟩ := map_eq_ok_iff.mp read
      exact notMem_outline_drop others

/-! ## Texts -/

/-- Records with these fields are read from every text that tells them, and from none that says a
field twice or leaves out one that has no default. -/
structure ReadsAnyLayout {β : Type} (fields : Fields types) (toRow : β → Row types)
    (f : Format β) : Prop where
  /-- The members of an object may come in any order and with any others among them. -/
  object : ∀ b ms text, fields.Arranged (toRow b) ms → SpellsText (.object ms true) text →
    f.read text = .ok b
  /-- The items of an array come in order. -/
  array : ∀ b vs text, fields.Listed (toRow b) vs → SpellsText (.array vs true) text →
    f.read text = .ok b
  /-- No field comes twice. -/
  twice : ∀ name ms text, name ∈ fields.names → 2 ≤ (valuesOf name ms).length →
    SpellsText (.object ms true) text → ∀ b, f.read text ≠ .ok b
  /-- No field that has no default is left out of an object. -/
  missing : ∀ name ms text, (name, false) ∈ fields.outline → valuesOf name ms = [] →
    SpellsText (.object ms true) text → ∀ b, f.read text ≠ .ok b
  /-- No array ends before such a field. -/
  short : ∀ name vs text, (name, false) ∈ fields.outline.drop vs.length →
    SpellsText (.array vs true) text → ∀ b, f.read text ≠ .ok b

section

variable {β : Type} {fields : Fields types} {toRow : β → Row types} {ofRow : Row types → β}

/-- A record is read from an object exactly if the members hold it. -/
theorem read_object_iff (distinct : fields.names.Nodup) {ms : List (Node × Node)}
    {text : List UInt8} (spelled : SpellsText (.object ms true) text) (b : β) :
    (fields.format.along toRow ofRow).read text = .ok b ↔
      ∃ row, fields.Holds ms row ∧ ofRow row = b := by
  rw [Format.read_of_spellsText _ spelled]
  refine map_eq_ok_iff.trans (exists_congr fun row => and_congr_left' ?_)
  obtain ⟨_, _, _, -, spelled, -, -⟩ := spelled
  exact ofNode_object_iff fields distinct (allSound_of_spells spelled) row

/-- An array is read as a record exactly if its items are, in the order of the fields. -/
theorem read_array_iff {vs : List Node} {text : List UInt8}
    (spelled : SpellsText (.array vs true) text) (b : β) :
    (fields.format.along toRow ofRow).read text = .ok b ↔
      ∃ row, fields.readItems vs true = .ok row ∧ ofRow row = b := by
  rw [Format.read_of_spellsText _ spelled]
  exact map_eq_ok_iff

/-- Records that correspond to rows are read from any layout if their fields are faithful and have
different names. -/
theorem readsAnyLayout_along (distinct : fields.names.Nodup) (faithful : fields.AllFaithful)
    (inverse : ∀ b, ofRow (toRow b) = b) :
    fields.ReadsAnyLayout toRow (fields.format.along toRow ofRow) where
  object := by
    intro b ms text arranged spelled
    have holds := arranged.holds distinct faithful
    exact (read_object_iff distinct spelled b).mpr ⟨toRow b, holds, inverse b⟩
  array := by
    intro b vs text listed spelled
    exact (read_array_iff spelled b).mpr ⟨toRow b, listed.readItems_eq faithful, inverse b⟩
  twice := by
    intro name ms text known twice spelled b read
    obtain ⟨row, holds, -⟩ := (read_object_iff distinct spelled b).mp read
    have once := holds.length_valuesOf_le known
    omega
  missing := by
    intro name ms text known none spelled b read
    obtain ⟨row, holds, -⟩ := (read_object_iff distinct spelled b).mp read
    exact holds.valuesOf_ne_nil known none
  short := by
    intro name vs text known spelled b read
    obtain ⟨row, read, -⟩ := (read_array_iff spelled b).mp read
    exact notMem_outline_drop read known

end

end Fields

end Playgrounds.Json
