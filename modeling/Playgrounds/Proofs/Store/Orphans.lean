import Playgrounds.Proofs.Store.Clients
import Playgrounds.Proofs.Store.Ownership

/-!
# Instances that no index names

Several clients share a server, and every instance has one owner. Whatever they do, in whatever
order, an index names only records of its own session. That it names all of them can fail: a client
that removes a session is told the names in its index first, and removes no other record. An
instance that is written between the two loses the index but not its record.

* `Stranded` — this has happened to an instance, and nobody has touched its record since.
* `Change.effect` — what one exchange does to records and indexes.
* `Shared.IsSound` — what holds in every state that can be reached.
* `indexed_iff_not_stranded` — records and indexes agree exactly as long as nothing is stranded.
-/

namespace Playgrounds.Store

open Std

variable {ι : Type}

/-! ## What commands do to an instance -/

/-- The commands write this instance. -/
def Writes (cs : List Command) (i : Instance) : Prop :=
  .set (Key.ofInstance i.name) (Instance.format.write i) ∈ cs

/-- The commands write or remove the record of an instance. -/
def Touches (cs : List Command) (name : String) : Prop :=
  .delete (Key.ofInstance name) ∈ cs ∨ ∃ text, .set (Key.ofInstance name) text ∈ cs

/-- The commands remove the index of a session. -/
def Clears (cs : List Command) (sessionId : String) : Prop :=
  .delete (Key.instancesOf sessionId) ∈ cs

/-! ## Being too late -/

/-- The instance is as somebody wrote it, and a client has not been heard since. -/
def WrittenSince (client : ι) (history : List (Heard ι)) (i : Instance) : Prop :=
  ∃ later put earlier, history = later ++ put :: earlier ∧ Writes put.commands i ∧
    (∀ e ∈ later, ¬ Touches e.commands i.name) ∧ ∀ e ∈ later ++ [put], e.client ≠ client

/-- A client removed the index of an instance's session and left the record, which was written after
the client had been heard last. Nobody has touched the record since. -/
def Stranded (history : List (Heard ι)) (i : Instance) : Prop :=
  ∃ later removal earlier, history = later ++ removal :: earlier ∧
    Clears removal.commands i.sessionId ∧
    (∀ e ∈ later ++ [removal], ¬ Touches e.commands i.name) ∧
    WrittenSince removal.client earlier i

/-- A list is split at its head, or further on. -/
theorem exists_split_cons {α : Type} {p : List α → α → List α → Prop} {a : α} {as : List α} :
    (∃ l x r, a :: as = l ++ x :: r ∧ p l x r) ↔
      p [] a as ∨ ∃ l x r, as = l ++ x :: r ∧ p (a :: l) x r := by
  constructor
  · rintro ⟨_ | ⟨b, l⟩, x, r, same, holds⟩
    · cases same
      exact .inl holds
    · obtain ⟨rfl, rfl⟩ := List.cons.inj same
      exact .inr ⟨l, x, r, rfl, holds⟩
  · rintro (holds | ⟨l, x, r, rfl, holds⟩)
    · exact ⟨[], a, as, rfl, holds⟩
    · exact ⟨a :: l, x, r, rfl, holds⟩

variable {history : List (Heard ι)} {e : Heard ι} {i : Instance}

theorem not_writtenSince_nil {client : ι} : ¬ WrittenSince client [] i := by
  rintro ⟨later, put, earlier, same, -⟩
  exact List.append_ne_nil_of_right_ne_nil later (List.cons_ne_nil put earlier) same.symm

theorem not_stranded_nil : ¬ Stranded ([] : List (Heard ι)) i := by
  rintro ⟨later, removal, earlier, same, -⟩
  exact List.append_ne_nil_of_right_ne_nil later (List.cons_ne_nil removal earlier) same.symm

/-- An instance has been written since a client was last heard if the last exchange is another's and
writes it, or leaves untouched what was written before. -/
theorem writtenSince_cons {client : ι} :
    WrittenSince client (e :: history) i ↔ e.client ≠ client ∧
      (Writes e.commands i ∨ ¬ Touches e.commands i.name ∧ WrittenSince client history i) := by
  rw [WrittenSince, exists_split_cons]
  constructor
  · rintro (⟨writes, -, other⟩ | ⟨later, put, earlier, rfl, writes, untouched, other⟩)
    · exact ⟨other e List.mem_cons_self, .inl writes⟩
    · rw [List.forall_mem_cons] at untouched
      rw [List.cons_append, List.forall_mem_cons] at other
      exact ⟨other.1, .inr ⟨untouched.1, later, put, earlier, rfl, writes, untouched.2, other.2⟩⟩
  · rintro ⟨here, writes | ⟨untouched, later, put, earlier, rfl, writes, before, other⟩⟩
    · refine .inl ⟨writes, (fun _ h => nomatch h), ?_⟩
      exact List.forall_mem_singleton.mpr here
    · refine .inr ⟨later, put, earlier, rfl, writes, ?_, ?_⟩
      · exact List.forall_mem_cons.mpr ⟨untouched, before⟩
      · exact List.forall_mem_cons.mpr ⟨here, other⟩

/-- An instance is stranded by the last exchange, or was so before and is untouched by it. -/
theorem stranded_cons :
    Stranded (e :: history) i ↔ ¬ Touches e.commands i.name ∧ (Stranded history i ∨
      Clears e.commands i.sessionId ∧ WrittenSince e.client history i) := by
  rw [Stranded, exists_split_cons]
  constructor
  · rintro (⟨clears, untouched, since⟩ | ⟨later, removal, earlier, rfl, clears, untouched, since⟩)
    · exact ⟨untouched e List.mem_cons_self, .inr ⟨clears, since⟩⟩
    · rw [List.cons_append, List.forall_mem_cons] at untouched
      exact ⟨untouched.1, .inl ⟨later, removal, earlier, rfl, clears, untouched.2, since⟩⟩
  · rintro ⟨here, ⟨later, removal, earlier, rfl, clears, untouched, since⟩ | ⟨clears, since⟩⟩
    · refine .inr ⟨later, removal, earlier, rfl, clears, ?_, since⟩
      exact List.forall_mem_cons.mpr ⟨here, untouched⟩
    · exact .inl ⟨clears, List.forall_mem_singleton.mpr here, since⟩

/-! ## What an exchange does to an instance -/

/-- How the commands of an exchange account for records and indexes afterwards. -/
structure Effect (told : String → List String → Prop) (h : Holdings) (cs : List Command)
    (h' : Holdings) : Prop where
  /-- Records that are not touched stay. -/
  frame : ∀ name, ¬ Touches cs name → h'.tables.instances[name]? = h.tables.instances[name]?
  /-- Names of such records stay in their indexes, unless an index is removed. -/
  index : ∀ sessionId name, ¬ Touches cs name →
    (name ∈ h'.index sessionId ↔ name ∈ h.index sessionId ∧ ¬ Clears cs sessionId)
  /-- What is written is there, and is named in the index of its session. -/
  written : ∀ i, Writes cs i →
    h'.tables.instances[i.name]? = some i ∧ i.name ∈ h'.index i.sessionId
  /-- A record that is touched and still there has been written. -/
  touched : ∀ i, Touches cs i.name → h'.tables.instances[i.name]? = some i → Writes cs i
  /-- Whoever removes an index removes the records of all names that they have been told. -/
  cleared : ∀ sessionId, Clears cs sessionId →
    ∃ names, told sessionId names ∧ ∀ name ∈ names, Touches cs name

variable {owner : String → String} {told : String → List String → Prop} {h h' : Holdings}
  {cs : List Command}

theorem Writes.touches (writes : Writes cs i) : Touches cs i.name :=
  .inr ⟨_, writes⟩

/-- Commands that have nothing to do with instances. -/
theorem effect_of_untouched (untouched : ∀ name, ¬ Touches cs name)
    (uncleared : ∀ sessionId, ¬ Clears cs sessionId)
    (records : h'.tables.instances = h.tables.instances) (indexes : h'.index = h.index) :
    Effect told h cs h' := by
  refine ⟨?_, ?_, ?_, ?_, ?_⟩
  · intro name _
    rw [records]
  · intro sessionId name _
    rw [indexes]
    exact (and_iff_left (uncleared sessionId)).symm
  · intro i writes
    exact absurd writes.touches (untouched i.name)
  · intro i touches
    exact absurd touches (untouched i.name)
  · intro sessionId clears
    exact absurd clears (uncleared sessionId)

/-- What to write an instance does to others. -/
theorem effect_putInstance (j : Instance) :
    Effect told h [.set (Key.ofInstance j.name) (Instance.format.write j),
      .addMember (Key.instancesOf j.sessionId) j.name] (h.putInstance j) := by
  have touches : ∀ name, Touches [.set (Key.ofInstance j.name) (Instance.format.write j),
      .addMember (Key.instancesOf j.sessionId) j.name] name ↔ j.name = name := by
    intro name
    simp [Touches, ofInstance_inj, eq_comm]
  have uncleared : ∀ sessionId, ¬ Clears [.set (Key.ofInstance j.name) (Instance.format.write j),
      .addMember (Key.instancesOf j.sessionId) j.name] sessionId := by
    intro sessionId
    simp [Clears]
  refine ⟨?_, ?_, ?_, ?_, ?_⟩
  · intro name untouched
    rw [Holdings.getElem?_putInstance, if_neg (mt (touches name).mpr untouched)]
  · intro sessionId name untouched
    rw [Holdings.mem_index_putInstance]
    constructor
    · rintro (⟨_, here⟩ | before)
      · exact absurd ((touches name).mpr here) untouched
      · exact ⟨before, uncleared sessionId⟩
    · exact fun before => .inr before.1
  · intro i writes
    -- Faithful formats write different instances differently.
    have same : i = j := by
      rcases List.mem_cons.mp writes with here | rest
      · exact Instance.faithful_format.write_inj.mp (Command.set.inj here).2
      · exact nomatch List.mem_singleton.mp rest
    subst same
    rw [Holdings.getElem?_putInstance, Holdings.mem_index_putInstance]
    exact ⟨if_pos rfl, .inl ⟨rfl, rfl⟩⟩
  · intro i touched found
    rw [Holdings.getElem?_putInstance, if_pos ((touches i.name).mp touched)] at found
    cases found
    exact List.mem_cons_self
  · intro sessionId clears
    exact absurd clears (uncleared sessionId)

/-- What to remove an instance does to others. -/
theorem effect_dropInstance (gone sessionId : String) :
    Effect told h [.delete (Key.ofInstance gone), .removeMember (Key.instancesOf sessionId) gone]
      (h.dropInstance gone sessionId) := by
  have touches : ∀ name, Touches [.delete (Key.ofInstance gone),
      .removeMember (Key.instancesOf sessionId) gone] name ↔ gone = name := by
    intro name
    simp [Touches, ofInstance_inj, eq_comm]
  have uncleared : ∀ id, ¬ Clears [.delete (Key.ofInstance gone),
      .removeMember (Key.instancesOf sessionId) gone] id := by
    intro id
    simp [Clears, (ofInstance_ne_instancesOf gone id).symm]
  refine ⟨?_, ?_, ?_, ?_, ?_⟩
  · intro name untouched
    rw [Holdings.getElem?_dropInstance, if_neg (mt (touches name).mpr untouched)]
  · intro id name untouched
    rw [Holdings.mem_index_dropInstance]
    constructor
    · exact fun before => ⟨before.1, uncleared id⟩
    · exact fun before => ⟨before.1, fun same => untouched ((touches name).mpr same.2)⟩
  · intro i writes
    simp [Writes] at writes
  · intro i touched found
    rw [Holdings.getElem?_dropInstance, if_pos ((touches i.name).mp touched)] at found
    exact nomatch found
  · intro id clears
    exact absurd clears (uncleared id)

/-- What to remove a session does to instances: those named are gone, and all are out of its
index. -/
theorem effect_dropSession {id : String} {names : List String} (plain : Plain id)
    (known : told id names) :
    Effect told h (Keyed.sessionRemoval id names) (h.dropSession id names) := by
  have touches : ∀ name, Touches (Keyed.sessionRemoval id names) name ↔ name ∈ names := by
    intro name
    simp [Touches, Keyed.sessionRemoval, ofInstance_inj, ofInstance_ne_instancesOf,
      ofInstance_ne_ofSession name]
  have clears : ∀ sessionId, Clears (Keyed.sessionRemoval id names) sessionId ↔
      id = sessionId := by
    intro sessionId
    rw [eq_comm (a := id)]
    simp [Clears, Keyed.sessionRemoval, instancesOf_inj, ofInstance_ne_instancesOf,
      instancesOf_ne_ofSession sessionId plain]
  refine ⟨?_, ?_, ?_, ?_, ?_⟩
  · intro name untouched
    rw [Holdings.getElem?_dropSession, if_neg (mt (touches name).mpr untouched)]
  · intro sessionId name untouched
    rw [Holdings.mem_index_dropSession, clears]
  · intro i writes
    simp [Writes, Keyed.sessionRemoval] at writes
  · intro i touched found
    rw [Holdings.getElem?_dropSession, if_pos ((touches i.name).mp touched)] at found
    exact nomatch found
  · intro sessionId cleared
    cases (clears sessionId).mp cleared
    exact ⟨names, known, fun name h => (touches name).mpr h⟩

/-- What an exchange does to records and indexes can be read off what was said. -/
theorem Change.effect (change : Change owner told h cs h') : Effect told h cs h' := by
  cases change with
  -- A command that only reads is neither a write nor a deletion.
  | reading only =>
      refine effect_of_untouched ?_ ?_ rfl rfl
      · rintro name (deletes | ⟨text, sets⟩)
        · rcases only _ deletes with ⟨_, same⟩ | ⟨_, same⟩ <;> cases same
        · rcases only _ sets with ⟨_, same⟩ | ⟨_, same⟩ <;> cases same
      · intro sessionId deletes
        rcases only _ deletes with ⟨_, same⟩ | ⟨_, same⟩ <;> cases same
  | putSession plain =>
      refine effect_of_untouched ?_ ?_ rfl rfl
      · intro name
        simp [Touches, ofInstance_ne_ofSession name]
      · intro sessionId
        simp [Clears]
  | putInstance => exact effect_putInstance _
  | dropInstance => exact effect_dropInstance _ _
  | dropSession plain _ known => exact effect_dropSession plain known

/-! ## Every state that can be reached -/

/-- What a client was told of a session's instances: all but those written since. -/
def Told (h : Holdings) (history : List (Heard ι)) (client : ι) (id : String)
    (names : List String) : Prop :=
  ∀ i : Instance, h.tables.instances[i.name]? = some i → i.name ∈ h.index id → i.name ∉ names →
    WrittenSince client history i

/-- The server keeps these holdings, and what has been heard accounts for them. -/
structure Shared.IsSound (owner : String → String) (s : Shared ι) (h : Holdings) : Prop where
  keeps : Keeps s.server h
  owned : h.IsOwned owner
  underway : ∀ client, Underway owner (Told h s.history client) (s.dialogues client)
  written : ∀ client i, WrittenSince client s.history i → h.tables.instances[i.name]? = some i
  stranded : ∀ i, Stranded s.history i ↔
    h.tables.instances[i.name]? = some i ∧ i.name ∉ h.index i.sessionId

/-- What one client was told stays right while another is heard. -/
theorem Told.cons {client : ι} {told : String → List String → Prop}
    (effect : Effect told h e.commands h') (other : e.client ≠ client) {id : String}
    {names : List String} (before : Told h history client id names) :
    Told h' (e :: history) client id names := by
  intro i found named missing
  rw [writtenSince_cons]
  refine ⟨other, ?_⟩
  by_cases touches : Touches e.commands i.name
  · exact .inl (effect.touched i touches found)
  · rw [effect.frame i.name touches] at found
    rw [effect.index id i.name touches] at named
    exact .inr ⟨touches, before i found named.1 missing⟩

/-- A record that was written and left alone since is still there. -/
theorem Effect.written_cons (effect : Effect told h e.commands h')
    (before : ∀ client i, WrittenSince client history i → h.tables.instances[i.name]? = some i) :
    ∀ client i, WrittenSince client (e :: history) i → h'.tables.instances[i.name]? = some i := by
  intro client i since
  rcases (writtenSince_cons.mp since).2 with writes | ⟨untouched, since⟩
  · exact (effect.written i writes).1
  · rw [effect.frame i.name untouched]
    exact before client i since

/-- An instance is stranded exactly if no index names its record. -/
theorem Effect.stranded_cons (effect : Effect (Told h history e.client) h e.commands h')
    (written : ∀ client i, WrittenSince client history i → h.tables.instances[i.name]? = some i)
    (before : ∀ i, Stranded history i ↔
      h.tables.instances[i.name]? = some i ∧ i.name ∉ h.index i.sessionId) :
    ∀ i, Stranded (e :: history) i ↔
      h'.tables.instances[i.name]? = some i ∧ i.name ∉ h'.index i.sessionId := by
  intro i
  rw [Store.stranded_cons]
  by_cases touches : Touches e.commands i.name
  -- A record that is touched and still there has just been written, and indexed with it.
  · refine iff_of_false (fun h => h.1 touches) ?_
    rintro ⟨found, missing⟩
    exact missing (effect.written i (effect.touched i touches found)).2
  -- Otherwise record and name are as before, unless the index is removed in this very exchange.
  rw [effect.frame i.name touches, effect.index i.sessionId i.name touches, before]
  constructor
  · rintro ⟨_, ⟨found, missing⟩ | ⟨clears, since⟩⟩
    · exact ⟨found, fun named => missing named.1⟩
    · exact ⟨written e.client i since, fun named => named.2 clears⟩
  · rintro ⟨found, missing⟩
    refine ⟨touches, ?_⟩
    by_cases named : i.name ∈ h.index i.sessionId
    -- The index is removed here by a client that was not told this name.
    · have clears : Clears e.commands i.sessionId := by
        by_contra keeps
        exact missing ⟨named, keeps⟩
      obtain ⟨names, told, gone⟩ := effect.cleared i.sessionId clears
      exact .inr ⟨clears, told i found named fun listed => touches (gone i.name listed)⟩
    · exact .inl ⟨found, named⟩

namespace Shared

/-- The invariant holds at first. -/
theorem isSound_initial (orders : Nat → Listing) :
    (initial orders : Shared ι).IsSound owner .empty where
  keeps := keeps_empty orders
  owned := Holdings.isOwned_empty
  underway _ := .done _
  written _ _ since := absurd since not_writtenSince_nil
  stranded i := by
    refine iff_of_false not_stranded_nil ?_
    rintro ⟨found, -⟩
    exact nomatch ExtTreeMap.getElem?_empty.symm.trans found

variable [DecidableEq ι] {s : Shared ι}

/-- An operation may begin at any time. -/
theorem IsSound.start (sound : s.IsSound owner h) (client : ι) {w : Write}
    (respects : w.Respects owner) : (s.step (.start client w)).IsSound owner h := by
  rw [step]
  split
  · refine { sound with underway := ?_ }
    intro other
    show Underway owner _ (Function.update s.dialogues client _ other)
    rw [Function.update_apply]
    split
    · exact .starting respects
    · exact sound.underway other
  · exact sound

/-- **Each exchange keeps the invariant.** -/
theorem IsSound.exchange (sound : s.IsSound owner h) (client : ι) :
    ∃ h', (s.step (.exchange client)).IsSound owner h' := by
  rw [step]
  split
  · exact ⟨h, sound⟩
  obtain ⟨h', change, keeps, underway⟩ :=
    (sound.underway client).exchange sound.keeps sound.owned
  have effect := change.effect
  refine ⟨h', keeps, change.isOwned sound.owned, ?_, ?_, ?_⟩
  · intro other
    show Underway owner _ (Function.update s.dialogues client _ other)
    rw [Function.update_apply]
    split
    -- The client has just been told every name there is.
    · refine underway.mono ?_
      intro id names told i _ named missing
      exact absurd (told.mem_iff.mpr (ExtTreeSet.mem_toList.mpr named)) missing
    · rename_i different
      refine (sound.underway other).mono ?_
      intro id names before
      exact before.cons (e := ⟨client, _⟩) effect (Ne.symm different)
  · exact effect.written_cons (e := ⟨client, _⟩) sound.written
  · exact effect.stranded_cons (e := ⟨client, _⟩) sound.written sound.stranded

/-- The moves of operations that respect the owners lead to sound states only. -/
theorem IsSound.foldl (sound : s.IsSound owner h) {moves : List (Move ι)}
    (respects : ∀ client w, .start client w ∈ moves → w.Respects owner) :
    ∃ h', (moves.foldl step s).IsSound owner h' := by
  induction moves generalizing s h with
  | nil => exact ⟨h, sound⟩
  | cons move rest ih =>
      have respects' : ∀ client w, .start client w ∈ rest → w.Respects owner :=
        fun client w h => respects client w (List.mem_cons_of_mem _ h)
      cases move with
      | start client w =>
          exact ih (sound.start client (respects client w List.mem_cons_self)) respects'
      | exchange client =>
          obtain ⟨h', sound'⟩ := sound.exchange client
          exact ih sound' respects'

end Shared

/-! ## Records and indexes -/

/-- No name is given to instances of two sessions. -/
def OneSession (moves : List (Move ι)) : Prop :=
  ∀ client other i j, .start client (.instancePut i) ∈ moves →
    .start other (.instancePut j) ∈ moves → i.name = j.name → i.sessionId = j.sessionId

/-- Then every name has an owner. -/
theorem OneSession.exists_owner {moves : List (Move ι)} (one : OneSession moves) :
    ∃ owner : String → String, ∀ client i, .start client (.instancePut i) ∈ moves →
      i.sessionId = owner i.name := by
  have owns : ∀ name, ∃ sessionId, ∀ client i, .start client (.instancePut i) ∈ moves →
      i.name = name → i.sessionId = sessionId := by
    intro name
    by_cases put : ∃ client i, .start client (.instancePut i) ∈ moves ∧ i.name = name
    · obtain ⟨client, i, here, rfl⟩ := put
      exact ⟨i.sessionId, fun other j there same => one other client j i there here same⟩
    · refine ⟨"", fun client i here same => ?_⟩
      exact absurd ⟨client, i, here, same⟩ put
  -- A name that is never given may have any owner.
  choose owner owns using owns
  exact ⟨owner, fun client i here => owns i.name client i here rfl⟩

variable [DecidableEq ι]

/-- **The invariant holds after any moves**, with an owner for each instance. -/
theorem exists_isSound_after (orders : Nat → Listing) {moves : List (Move ι)}
    (plain : ∀ client w, .start client w ∈ moves → w.operation.IsPlain) (one : OneSession moves) :
    ∃ owner h, (Shared.after orders moves).IsSound owner h := by
  obtain ⟨owner, owns⟩ := one.exists_owner
  refine ⟨owner, (Shared.isSound_initial orders).foldl ?_⟩
  intro client w here
  refine ⟨plain client w here, ?_⟩
  rintro i rfl
  exact owns client i here

/-- A client that asks for the instance gets it, and yet listing its session does not show it and
removing its session does not remove it. -/
structure Server.Hides (s : Server) (i : Instance) : Prop where
  record : s.record i.name = .ok i
  listing : ∃ is, (s.talk (Keyed.dialogue (.instancesOf i.sessionId))).1.1 = .ok is ∧ i ∉ is
  removal : (s.talk (Keyed.dialogue (.sessionDelete i.sessionId))).2.record i.name = .ok i

/-- An instance is hidden exactly if its record is there and its name is not in the index. -/
theorem Keeps.hides_iff {s : Server} (keeps : Keeps s h) (i : Instance) :
    s.Hides i ↔ h.tables.instances[i.name]? = some i ∧ i.name ∉ h.index i.sessionId := by
  constructor
  · rintro ⟨record, -, removal⟩
    have found := (keeps.record_ok_iff i.name i).mp record
    have plain : Plain i.sessionId := keeps.tidy.plainOwner i.name i found
    exact ⟨found, ((keeps.record_removal plain i.name i).mp removal).1⟩
  · rintro ⟨found, missing⟩
    have plain : Plain i.sessionId := keeps.tidy.plainOwner i.name i found
    refine ⟨(keeps.record_ok_iff i.name i).mpr found, ⟨_, keeps.listing plain, ?_⟩, ?_⟩
    · rw [Holdings.mem_listed keeps.tidy]
      exact fun shown => missing shown.1
    · exact (keeps.record_removal plain i.name i).mpr ⟨missing, found⟩

/-- **NO ORPHANS BUT THE STRANDED.** Any number of clients write and remove sessions and instances,
their exchanges in any order, and no name is given to two sessions. In every state, an index names
only records of its session. A record is named in the index of its session exactly if it is not
stranded, and a stranded one is hidden from whoever lists or removes the session. So records and
indexes agree exactly as long as no client removes the index of a session that it was told too
early. -/
theorem indexed_iff_not_stranded (orders : Nat → Listing) (moves : List (Move ι))
    (plain : ∀ client w, .start client w ∈ moves → w.operation.IsPlain)
    (one : OneSession moves) :
    let s := Shared.after orders moves
    (∀ id name, s.server.IsIndexed id name →
      ∃ i, s.server.record name = .ok i ∧ i.sessionId = id) ∧
    (∀ name i, s.server.record name = .ok i →
      (s.server.IsIndexed i.sessionId name ↔ ¬ Stranded s.history i)) ∧
    (∀ i, s.server.Hides i ↔ Stranded s.history i) ∧
    ((∀ id name, s.server.IsIndexed id name ↔
      ∃ i, s.server.record name = .ok i ∧ i.sessionId = id) ↔ ∀ i, ¬ Stranded s.history i) := by
  intro s
  obtain ⟨owner, h, sound⟩ := exists_isSound_after orders plain one
  have keeps : Keeps s.server h := sound.keeps
  have stranded : ∀ i, Stranded s.history i ↔ _ := sound.stranded
  have recorded : ∀ id name, s.server.IsIndexed id name →
      ∃ i, s.server.record name = .ok i ∧ i.sessionId = id := by
    intro id name indexed
    obtain ⟨i, found, same⟩ :=
      sound.owned.index id name ((keeps.isIndexed_iff id name).mp indexed)
    exact ⟨i, (keeps.record_ok_iff name i).mpr found, same⟩
  have indexed : ∀ name i, s.server.record name = .ok i →
      (s.server.IsIndexed i.sessionId name ↔ ¬ Stranded s.history i) := by
    intro name i record
    have found := (keeps.record_ok_iff name i).mp record
    -- A record stands under its own name.
    have own : i.name = name := keeps.tidy.instance name i found
    subst own
    rw [keeps.isIndexed_iff, stranded, not_and_not_right]
    exact ⟨fun named _ => named, fun named => named found⟩
  refine ⟨recorded, indexed, ?_, ?_, ?_⟩
  · intro i
    rw [keeps.hides_iff, stranded]
  · intro agree i lost
    have found := ((stranded i).mp lost).1
    have record := (keeps.record_ok_iff i.name i).mpr found
    exact (indexed i.name i record).mp ((agree i.sessionId i.name).mpr ⟨i, record, rfl⟩) lost
  · intro none id name
    refine ⟨recorded id name, ?_⟩
    rintro ⟨i, record, rfl⟩
    exact (indexed name i record).mpr (none i)

/-! ## A race -/

/-- While one client removes the sample session, the other writes the sample instance. -/
def racingMoves : List (Move Bool) :=
  [.start false (.sessionPut sampleSession), .exchange false,
    .start false (.sessionDelete "s"), .exchange false,
    .start true (.instancePut sampleInstance), .exchange true,
    .exchange false]

/-- The ids in the race are plain. -/
theorem plain_racingMoves : ∀ client w, .start client w ∈ racingMoves → w.operation.IsPlain := by
  have plain : ∀ id ∈ some "s", Plain id := by
    rintro id ⟨⟩
    exact plain_sample
  intro client w h
  simp only [racingMoves, List.mem_cons, Move.start.injEq, List.not_mem_nil] at h
  obtain ⟨-, rfl⟩ | h | ⟨-, rfl⟩ | h | ⟨-, rfl⟩ | h | h | h := h
  · exact plain
  · exact nomatch h
  · exact plain
  · exact nomatch h
  · exact plain
  · exact nomatch h
  · exact nomatch h
  · exact nomatch h

/-- The instance in the race is written for one session only. -/
theorem oneSession_racingMoves : OneSession racingMoves := by
  have written : ∀ client i, .start client (.instancePut i) ∈ racingMoves →
      i = sampleInstance := by
    intro client i h
    have both : client = true ∧ i = sampleInstance := by
      simpa [racingMoves] using h
    exact both.2
  intro client other i j here there _
  rw [written client i here, written other j there]

/-- The instance was written after its names were read and before the session was removed. -/
theorem stranded_racingMoves :
    Stranded (Shared.after alphabetically racingMoves).history sampleInstance := by
  have heard : (Shared.after alphabetically racingMoves).history =
      [⟨false, Keyed.sessionRemoval "s" []⟩,
        ⟨true, [.set (Key.ofInstance "n") (Instance.format.write sampleInstance),
          .addMember (Key.instancesOf "s") "n"]⟩,
        ⟨false, [.members (Key.instancesOf "s")]⟩,
        ⟨false, [.set (Key.ofSession "s") (Session.format.write sampleSession),
          .addMember Key.sessionIds "s"]⟩] := by
    decide +kernel
  have untouched : ¬ Touches (Keyed.sessionRemoval "s" []) "n" := by
    simp [Touches, Keyed.sessionRemoval, ofInstance_ne_instancesOf,
      ofInstance_ne_ofSession "n"]
  -- The last exchange removes the index, the one before wrote the instance.
  rw [heard]
  refine stranded_cons.mpr ⟨untouched, .inr ⟨List.mem_cons_self, ?_⟩⟩
  exact writtenSince_cons.mpr ⟨Bool.noConfusion, .inl List.mem_cons_self⟩

/-- Both clients are done, and the record of the instance is in no index. -/
theorem not_isIndexed_racingMoves :
    (∀ client w, .start client w ∈ racingMoves → w.operation.IsPlain) ∧ OneSession racingMoves ∧
      (Shared.after alphabetically racingMoves).IsIdle ∧
      (Shared.after alphabetically racingMoves).server.record "n" = .ok sampleInstance ∧
      ¬ (Shared.after alphabetically racingMoves).server.IsIndexed "s" "n" := by
  obtain ⟨owner, h, sound⟩ :=
    exists_isSound_after alphabetically plain_racingMoves oneSession_racingMoves
  obtain ⟨found, missing⟩ := (sound.stranded sampleInstance).mp stranded_racingMoves
  refine ⟨plain_racingMoves, oneSession_racingMoves, ?_, ?_, ?_⟩
  · have idle : ∀ client,
        ((Shared.after alphabetically racingMoves).dialogues client).isDone = true := by
      decide +kernel
    exact idle
  · exact (sound.keeps.record_ok_iff "n" _).mpr found
  · exact fun indexed => missing ((sound.keeps.isIndexed_iff "s" "n").mp indexed)

theorem indexed_iff_not_stranded_racingMoves :
    (∀ client w, .start client w ∈ racingMoves → w.operation.IsPlain) ∧ OneSession racingMoves ∧
      (Shared.after alphabetically racingMoves).server.Hides sampleInstance :=
  ⟨plain_racingMoves, oneSession_racingMoves,
    ((indexed_iff_not_stranded alphabetically racingMoves plain_racingMoves
      oneSession_racingMoves).2.2.1 _).mpr stranded_racingMoves⟩

end Playgrounds.Store
