import Playgrounds.Proofs.Store.Ownership

/-!
# What a key may hold, whatever the session ids

Session ids may be any texts here. The index of a session's instances then shares its key with the
record of another session, the one whose id is longer by `:instances`. Such a key holds the one or
the other, and a command for the one is refused while the other is there.

* `Dialogue.talk_of_isQuiet` — a dialogue with a quiet server is a run on its key space.
* `Fits`, `IsKept` — what a place may hold after some operations, and that every place does.
* `IsKept.run_sessionPut`, … — what each operation that writes does to such a key space.
* `isFrom_after` — every run leads to such a key space.
-/

namespace Playgrounds.Store

open Std Json

/-! ## Runs on a key space -/

namespace Dialogue

variable {α β : Type}

/-- With a quiet server a dialogue is a run on its key space. -/
theorem talk_of_isQuiet {s : Server} (quiet : s.IsQuiet) (d : Dialogue α) :
    (s.talk d).1.1 = (d.run s.orders s.entries).1 ∧ (s.talk d).2.IsQuiet ∧
      (s.talk d).2.entries = (d.run s.orders s.entries).2 := by
  induction d generalizing s with
  | done a => exact ⟨rfl, quiet, rfl⟩
  | send c next ih =>
      rw [Server.talk, Server.exec, Server.perform_of_isQuiet (s := s.receive c.words) quiet]
      exact ih _ (s := ⟨_, s.armed, _, _⟩) quiet
  | transact cs next ih =>
      obtain ⟨received, answered⟩ := Server.transact_of_isQuiet quiet cs
      rw [Server.talk, answered]
      exact ih _ (s := ⟨_, s.armed, _, _⟩) quiet
  | report skipped next ih => exact ih quiet

/-- What follows a dialogue is run on what the dialogue leaves, in the orders that are left then. -/
theorem run_bind (d : Dialogue α) (f : α → Dialogue β) (orders : Nat → Listing) (k : KeySpace) :
    ∃ orders', (d.bind f).run orders k
      = (f (d.run orders k).1).run orders' (d.run orders k).2 := by
  induction d generalizing orders k with
  | done a => exact ⟨orders, rfl⟩
  | send c next ih => exact ih (KeySpace.run (orders 0) c k).1 _ _
  | transact cs next ih => exact ih (.ok (KeySpace.runAll orders cs k).1) _ _
  | report skipped next ih => exact ih orders k

/-- To change the result of a dialogue asks nothing more of the server. -/
theorem run_bind_done (d : Dialogue α) (f : α → β) (orders : Nat → Listing) (k : KeySpace) :
    (d.bind fun a => .done (f a)).run orders k
      = (f (d.run orders k).1, (d.run orders k).2) := by
  obtain ⟨orders', ran⟩ := d.run_bind (fun a => .done (f a)) orders k
  rw [ran, run]

end Dialogue

theorem Server.after_append_singleton (orders : Nat → Listing) (ops : List AnyOperation)
    (op : AnyOperation) :
    Server.after orders (ops ++ [op])
      = ((Server.after orders ops).talk (Keyed.dialogue op.2)).2 := by
  rw [after, List.foldl_append]
  rfl

/-- What every operation of a run keeps holds at its end. -/
theorem Server.after_of_run {P : KeySpace → Prop} (empty : P ∅) {ops : List AnyOperation}
    (step : ∀ op ∈ ops, ∀ orders k, P k → P ((Keyed.dialogue op.2).run orders k).2)
    (orders : Nat → Listing) :
    (Server.after orders ops).IsQuiet ∧ P (Server.after orders ops).entries := by
  induction ops using List.reverseRecOn with
  | nil => exact ⟨rfl, empty⟩
  | append_singleton ops op ih =>
      obtain ⟨quiet, holds⟩ := ih fun other h => step other (List.mem_append_left _ h)
      obtain ⟨-, quiet', entries⟩ := Dialogue.talk_of_isQuiet quiet (Keyed.dialogue op.2)
      rw [after_append_singleton, entries]
      exact ⟨quiet', step op (List.mem_append_right _ List.mem_cons_self) _ _ holds⟩

/-! ## One command or two -/

namespace KeySpace

variable {k k' : KeySpace} {key index : String}

/-- A set is put under one key; an empty one leaves nothing there. -/
theorem getElem?_putSet (k : KeySpace) (key a : String) (s : ExtTreeSet String) :
    (k.putSet key s)[a]? = if key = a then setEntry s else k[a]? := by
  unfold putSet setEntry
  by_cases empty : s.isEmpty = true
  · rw [if_pos empty, if_pos empty, getElem?_erase_eq]
  · rw [if_neg empty, if_neg empty, getElem?_insert_eq]

/-- A set is found by what its key holds, and nothing else. -/
theorem set?_congr (same : k[key]? = k'[key]?) : k.set? key = k'.set? key := by
  rw [set?, set?, same]

/-- No set can be read exactly where a text is. -/
theorem set?_eq_none_iff : k.set? key = none ↔ ∃ text, k[key]? = some (.text text) := by
  rw [set?]
  rcases k[key]? with _ | ⟨_ | _⟩ <;> simp

/-- The record under a key, if there is a text and the text can be read. -/
def readable? {α : Type} (format : Format α) (k : KeySpace) (key : String) : Option α :=
  match k[key]? with
  | some (.text text) => (format.read (Text.bytes text)).toOption
  | _ => none

theorem readable?_congr {α : Type} (format : Format α) (same : k[key]? = k'[key]?) :
    k.readable? format key = k'.readable? format key := by
  rw [readable?, readable?, same]

end KeySpace

namespace Keyed

variable {α : Type} {k k' : KeySpace} {key index member : String}
  {orders : Nat → Listing}

/-- A record is read, missing, not readable, or hidden behind a set. -/
theorem run_get (format : Format α) (kind : RecordKind) (id key : String) (k : KeySpace) :
    (get format kind id key).run orders k = (match k[key]? with
      | none => .error (.notFound kind id)
      | some (.text text) => (format.read (Text.bytes text)).mapError .unreadable
      | some (.set _) => .error (refused .wrongKind), k) := by
  rw [get, Dialogue.run, KeySpace.run]
  rcases k[key]? with _ | ⟨_ | _⟩ <;> rfl

/-- A record is written, and then named in its index unless something else is in the way. -/
theorem run_put (format : Format α) (a : α) (apart : key ≠ index) (k : KeySpace) :
    (put format key index member a).run orders k =
      match k.set? index with
      | some names => (.ok (),
          KeySpace.putSet (k.insert key (.text (format.write a))) index (names.insert member))
      | none => (.error (refused .wrongKind), k.insert key (.text (format.write a))) := by
  have same : KeySpace.set? (k.insert key (.text (format.write a))) index = k.set? index :=
    KeySpace.set?_congr (by rw [getElem?_insert_eq, if_neg apart])
  simp only [put, transact, Dialogue.run, KeySpace.runAll, KeySpace.run, same]
  cases k.set? index <;> rfl

/-- A record is removed, and then its name from an index unless something else is in the way. -/
theorem run_drop (apart : key ≠ index) (k : KeySpace) :
    (transact [.delete key, .removeMember index member]).run orders k =
      match k.set? index with
      | some names => (.ok (), KeySpace.putSet (k.erase key) index (names.erase member))
      | none => (.error (refused .wrongKind), k.erase key) := by
  have same : KeySpace.set? (k.erase key) index = k.set? index :=
    KeySpace.set?_congr (by rw [getElem?_erase_eq, if_neg apart])
  simp only [transact, Dialogue.run, KeySpace.runAll, KeySpace.run, same]
  cases k.set? index <;> rfl

/-- Removes the records of some instances. -/
def dropRecords (names : List String) (k : KeySpace) : KeySpace :=
  names.foldl (fun k name => k.erase (Key.ofInstance name)) k

/-- Records that are dropped are gone, and nothing else is. -/
theorem getElem?_dropRecords (names : List String) (k : KeySpace) (a : String) :
    (dropRecords names k)[a]? = if a ∈ names.map Key.ofInstance then none else k[a]? := by
  induction names generalizing k with
  | nil => simp [dropRecords]
  | cons name names ih =>
      rw [dropRecords, List.foldl_cons]
      refine (ih (k.erase (Key.ofInstance name))).trans ?_
      rw [getElem?_erase_eq, List.map_cons]
      by_cases here : a = Key.ofInstance name
      · simp [here]
      · simp [here, Ne.symm here]

/-- Removing records is never refused. -/
theorem runAll_dropRecords (orders : Nat → Listing) (names : List String) (cs : List Command)
    (k : KeySpace) :
    firstRefusal (KeySpace.runAll orders
        (names.map (fun name => .delete (Key.ofInstance name)) ++ cs) k).1
        = firstRefusal (KeySpace.runAll orders cs (dropRecords names k)).1 ∧
      (KeySpace.runAll orders (names.map (fun name => .delete (Key.ofInstance name)) ++ cs) k).2
        = (KeySpace.runAll orders cs (dropRecords names k)).2 := by
  induction names generalizing k with
  | nil => exact ⟨rfl, rfl⟩
  | cons name names ih => exact ih (k.erase (Key.ofInstance name))

/-- To remove a session drops the records that were named, its index, its own record and its id. -/
theorem run_sessionRemoval {id : String} {ids : ExtTreeSet String} (names : List String)
    (set : k.set? Key.sessionIds = some ids) :
    (transact (sessionRemoval id names)).run orders k = (.ok (), KeySpace.putSet
      (((dropRecords names k).erase (Key.instancesOf id)).erase (Key.ofSession id))
      Key.sessionIds (ids.erase id)) := by
  obtain ⟨accepted, entries⟩ := runAll_dropRecords orders names
    [.delete (Key.instancesOf id), .delete (Key.ofSession id), .removeMember Key.sessionIds id] k
  -- None of the keys that are deleted is that of the ids.
  have left : KeySpace.set? (((dropRecords names k).erase (Key.instancesOf id)).erase
      (Key.ofSession id)) Key.sessionIds = some ids := by
    rw [← set]
    refine KeySpace.set?_congr ?_
    rw [getElem?_erase_eq, if_neg (ofSession_ne_sessionIds id), getElem?_erase_eq,
      if_neg (instancesOf_ne_sessionIds id), getElem?_dropRecords, if_neg]
    intro here
    obtain ⟨name, -, same⟩ := List.mem_map.mp here
    exact ofInstance_ne_sessionIds name same
  simp only [transact, Dialogue.run, sessionRemoval, accepted, entries, KeySpace.runAll,
    KeySpace.run, left]
  rfl

/-- To load records changes nothing. -/
theorem run_load_snd (format : Format α) (index : String) (keyOf : String → String)
    (ids : List String) (k : KeySpace) : ((load format index keyOf ids).run orders k).2 = k := by
  induction ids with
  | nil => rfl
  | cons id ids ih =>
      rw [load, Dialogue.run, KeySpace.run]
      rcases k[keyOf id]? with _ | ⟨text | _⟩
      · exact ih
      · cases read : format.read (Text.bytes text) with
        | ok a =>
            simp only [read, Dialogue.run_bind_done]
            exact ih
        | error fault =>
            simp only [read, Dialogue.run]
            exact ih
      · rfl

/-- A listing changes nothing. -/
theorem run_loadIndexed_snd (format : Format α) (index : String) (keyOf : String → String)
    (k : KeySpace) : ((loadIndexed format index keyOf).run orders k).2 = k := by
  rw [loadIndexed, Dialogue.run, KeySpace.run]
  cases k.set? index with
  | none => rfl
  | some ids => exact run_load_snd format index keyOf _ k

/-- Where every key holds a text or nothing, what can be read is loaded, and all of it. -/
theorem run_load (format : Format α) (index : String) (keyOf : String → String)
    {ids : List String} (texts : ∀ id ∈ ids, ∀ names, k[keyOf id]? ≠ some (.set names)) :
    (load format index keyOf ids).run orders k
      = (.ok (ids.filterMap fun id => k.readable? format (keyOf id)), k) := by
  induction ids with
  | nil => rfl
  | cons id ids ih =>
      have ih := ih fun other h => texts other (List.mem_cons_of_mem _ h)
      have noSet := texts id List.mem_cons_self
      rw [List.filterMap_cons, KeySpace.readable?, load, Dialogue.run, KeySpace.run]
      -- The record is gone, a text that is read, a text that is not, or a set, of which there is
      -- none.
      generalize k[keyOf id]? = held at noSet
      rcases held with _ | ⟨text | names⟩
      · exact ih
      · cases read : format.read (Text.bytes text) with
        | ok a =>
            simp only [read, Dialogue.run_bind_done]
            exact congrArg (fun o => (o.1.map (a :: ·), o.2)) ih
        | error fault =>
            simp only [read]
            exact ih
      · exact absurd rfl (noSet names)

/-- A listing reads what it can of the records that the index names, in the order in which it names
them. -/
theorem run_loadIndexed (format : Format α) (keyOf : String → String) {names : ExtTreeSet String}
    (set : k.set? index = some names)
    (texts : ∀ id ∈ names, ∀ names, k[keyOf id]? ≠ some (.set names)) :
    (loadIndexed format index keyOf).run orders k = (.ok (((orders 0).names names).filterMap
      fun id => k.readable? format (keyOf id)), k) := by
  rw [loadIndexed, Dialogue.run, KeySpace.run, set]
  refine run_load format index keyOf fun id named => texts id ?_
  exact ExtTreeSet.mem_toList.mp (((orders 0).perm names).mem_iff.mp named)

end Keyed

/-- The operation writes or removes a record. -/
def Operation.IsWrite {α : Type} : Operation α → Prop
  | .sessionPut _ | .sessionDelete _ | .instancePut _ | .instanceDelete _ | .playgroundPut _ => True
  | _ => False

/-- An operation that is no write changes nothing. -/
theorem Keyed.run_snd_of_not_isWrite {α : Type} {op : Operation α} (reads : ¬ op.IsWrite)
    (orders : Nat → Listing) (k : KeySpace) : ((dialogue op).run orders k).2 = k := by
  cases op with
  | sessionGet | instanceGet | playgroundGet => rw [dialogue, run_get]
  | sessions | playgrounds => rw [dialogue, run_loadIndexed_snd]
  | instancesOf sessionId =>
      rw [dialogue, Dialogue.run_bind_done]
      exact run_loadIndexed_snd Instance.format _ _ k
  | sessionPut | sessionDelete | instancePut | instanceDelete | playgroundPut =>
      exact absurd trivial reads

/-! ## What places may hold -/

/-- What a place may hold after some operations. The index of a session's instances may hold the
record of the session whose id is that of the index. -/
inductive Fits (done : AnyOperation → Prop) : Place → Entry → Prop where
  | sessionIds (ids : ExtTreeSet String) : Fits done .sessionIds (.set ids)
  | playgroundIds (ids : ExtTreeSet String) : Fits done .playgroundIds (.set ids)
  | session {p : Place} {s : Session} (own : p.key = Key.ofSession s.id)
    (put : done ⟨Unit, .sessionPut s⟩) : Fits done p (.text (Session.format.write s))
  | instance {i : Instance} (put : done ⟨Unit, .instancePut i⟩) :
    Fits done (.instance i.name) (.text (Instance.format.write i))
  | playground {p : Playground} (put : done ⟨Unit, .playgroundPut p⟩) :
    Fits done (.playground p.id) (.text (Playground.format.write p))
  | names {sessionId : String} {names : ExtTreeSet String} (nonempty : names ≠ ∅)
    (put : ∀ name ∈ names, ∃ i : Instance, done ⟨Unit, .instancePut i⟩ ∧ i.name = name ∧
      i.sessionId = sessionId) : Fits done (.instances sessionId) (.set names)

/-- Every place holds what it may. -/
def IsKept (done : AnyOperation → Prop) (k : KeySpace) : Prop :=
  ∀ (p : Place) (e : Entry), k[p.key]? = some e → Fits done p e

variable {done : AnyOperation → Prop} {k : KeySpace} {p : Place} {orders : Nat → Listing}

theorem isKept_empty : IsKept done ∅ :=
  fun _ _ found => nomatch ExtTreeMap.getElem?_empty.symm.trans found

namespace IsKept

/-- What fits its place may be put there. -/
theorem insert (kept : IsKept done k) {e : Entry} (fits : Fits done p e) :
    IsKept done (k.insert p.key e) := by
  intro q e' found
  rw [getElem?_insert_eq] at found
  split at found
  next here =>
      cases found
      cases Place.key_injective here
      exact fits
  next => exact kept q e' found

/-- Anything may be erased. -/
theorem erase (kept : IsKept done k) (key : String) : IsKept done (k.erase key) := by
  intro q e found
  rw [getElem?_erase_eq] at found
  split at found
  · exact nomatch found
  · exact kept q e found

/-- A set that fits its place may be put there. -/
theorem putSet (kept : IsKept done k) {s : ExtTreeSet String}
    (fits : s ≠ ∅ → Fits done p (.set s)) : IsKept done (k.putSet p.key s) := by
  intro q e found
  rw [KeySpace.getElem?_putSet] at found
  split at found
  next here =>
      obtain ⟨nonempty, rfl⟩ := setEntry_eq_some.mp found
      cases Place.key_injective here
      exact fits nonempty
  next => exact kept q e found

/-- Any records may be dropped. -/
theorem dropRecords (kept : IsKept done k) (names : List String) :
    IsKept done (Keyed.dropRecords names k) := by
  induction names generalizing k with
  | nil => exact kept
  | cons name names ih => exact ih (kept.erase _)

/-! ### What is found under a key -/

/-- Under the key of an instance is its record or nothing. -/
theorem instance_cases (kept : IsKept done k) (name : String) :
    k[Key.ofInstance name]? = none ∨ ∃ i : Instance, done ⟨Unit, .instancePut i⟩ ∧ i.name = name ∧
      k[Key.ofInstance name]? = some (.text (Instance.format.write i)) := by
  cases found : k[Key.ofInstance name]? with
  | none => exact .inl rfl
  | some e =>
      cases kept (.instance name) e found with
      | session own => exact absurd own (ofInstance_ne_ofSession name _)
      | «instance» put => exact .inr ⟨_, put, rfl, rfl⟩

/-- Under the key of a playground is its record or nothing. -/
theorem playground_cases (kept : IsKept done k) (id : String) :
    k[Key.ofPlayground id]? = none ∨ ∃ p : Playground, done ⟨Unit, .playgroundPut p⟩ ∧ p.id = id ∧
      k[Key.ofPlayground id]? = some (.text (Playground.format.write p)) := by
  cases found : k[Key.ofPlayground id]? with
  | none => exact .inl rfl
  | some e =>
      cases kept (.playground id) e found with
      | session own => exact absurd own.symm (ofSession_ne_key _ nofun nofun)
      | playground put => exact .inr ⟨_, put, rfl, rfl⟩

/-- Under the key of a session's record lies nothing, the record, or the index of a session whose id
is shorter. -/
theorem session_cases (kept : IsKept done k) (id : String) :
    k[Key.ofSession id]? = none ∨
    (∃ s : Session, done ⟨Unit, .sessionPut s⟩ ∧ s.id = id ∧
      k[Key.ofSession id]? = some (.text (Session.format.write s))) ∨
    ∃ sessionId names, id = sessionId ++ ":instances" ∧ names ≠ ∅ ∧
      k[Key.ofSession id]? = some (.set names) := by
  obtain ⟨p, same, -⟩ := Place.exists_ofSession id
  cases found : k[Key.ofSession id]? with
  | none => exact .inl rfl
  | some e =>
      -- The key of a session is its own, or that of the index of another.
      rw [← same] at found
      cases kept p e found with
      | session own put => exact .inr (.inl ⟨_, put, ofSession_inj.mp (own.symm.trans same), rfl⟩)
      | names nonempty =>
          exact .inr (.inr ⟨_, _, ofSession_eq_instancesOf_iff.mp same.symm, nonempty, rfl⟩)
      | sessionIds => exact absurd same.symm (ofSession_ne_key id nofun nofun)
      | playgroundIds => exact absurd same.symm (ofSession_ne_key id nofun nofun)
      | «instance» => exact absurd same.symm (ofSession_ne_key id nofun nofun)
      | playground => exact absurd same.symm (ofSession_ne_key id nofun nofun)

/-- Under the key of an index lie the names of instances that were written, or the record of the
session whose id is longer. -/
theorem names_cases (kept : IsKept done k) (sessionId : String) :
    (k.set? (Key.instancesOf sessionId) = none ∧ ∃ s : Session, done ⟨Unit, .sessionPut s⟩ ∧
      s.id = sessionId ++ ":instances" ∧
      k[Key.instancesOf sessionId]? = some (.text (Session.format.write s))) ∨
    ∃ names, k.set? (Key.instancesOf sessionId) = some names ∧ ∀ name ∈ names, ∃ i : Instance,
      done ⟨Unit, .instancePut i⟩ ∧ i.name = name ∧ i.sessionId = sessionId := by
  rw [KeySpace.set?]
  cases found : k[Key.instancesOf sessionId]? with
  | none => exact .inr ⟨∅, rfl, fun _ h => absurd h ExtTreeSet.not_mem_empty⟩
  | some e =>
      cases kept (.instances sessionId) e found with
      | session own put =>
          exact .inl ⟨rfl, _, put, ofSession_eq_instancesOf_iff.mp own.symm, rfl⟩
      | names nonempty put => exact .inr ⟨_, rfl, put⟩

/-- The ids of sessions and of playgrounds lie under keys of their own. -/
theorem exists_set? (kept : IsKept done k) (own : p = .sessionIds ∨ p = .playgroundIds) :
    ∃ ids, k.set? p.key = some ids := by
  cases set : k.set? p.key with
  | some ids => exact ⟨ids, rfl⟩
  | none =>
      obtain ⟨text, found⟩ := KeySpace.set?_eq_none_iff.mp set
      rcases own with rfl | rfl
      all_goals
        cases kept _ _ found with
        | session own => exact absurd own.symm (ofSession_ne_key _ nofun nofun)

/-! ### Operations that write -/

/-- To write a session never fails. -/
theorem run_sessionPut (kept : IsKept done k) (s : Session) :
    ∃ ids, (Keyed.dialogue (.sessionPut s)).run orders k = (.ok (), KeySpace.putSet
      (k.insert (Key.ofSession s.id) (.text (Session.format.write s))) Key.sessionIds ids) := by
  obtain ⟨ids, set⟩ : ∃ ids, k.set? Key.sessionIds = some ids :=
    kept.exists_set? (p := .sessionIds) (.inl rfl)
  refine ⟨ids.insert s.id, ?_⟩
  rw [Keyed.dialogue, Keyed.run_put _ _ (ofSession_ne_sessionIds s.id), set]

/-- To write a playground never fails. -/
theorem run_playgroundPut (kept : IsKept done k) (p : Playground) :
    ∃ ids, (Keyed.dialogue (.playgroundPut p)).run orders k = (.ok (), KeySpace.putSet
      (k.insert (Key.ofPlayground p.id) (.text (Playground.format.write p)))
      Key.playgroundIds ids) := by
  obtain ⟨ids, set⟩ : ∃ ids, k.set? Key.playgroundIds = some ids :=
    kept.exists_set? (p := .playgroundIds) (.inr rfl)
  have apart : Key.ofPlayground p.id ≠ Key.playgroundIds :=
    Place.key_ne (p := .playground p.id) (q := .playgroundIds) Place.noConfusion
  refine ⟨ids.insert p.id, ?_⟩
  rw [Keyed.dialogue, Keyed.run_put _ _ apart, set]

/-- To remove a session fails only where a text stands in the place of its index, and then it
changes nothing. -/
theorem run_sessionDelete (kept : IsKept done k) (id : String) :
    ∃ ids, (Keyed.dialogue (.sessionDelete id)).run orders k =
      match k.set? (Key.instancesOf id) with
      | some names => (.ok (), KeySpace.putSet
          (((Keyed.dropRecords ((orders 0).names names) k).erase (Key.instancesOf id)).erase
            (Key.ofSession id)) Key.sessionIds ids)
      | none => (.error (Keyed.refused .wrongKind), k) := by
  obtain ⟨ids, set⟩ : ∃ ids, k.set? Key.sessionIds = some ids :=
    kept.exists_set? (p := .sessionIds) (.inl rfl)
  refine ⟨ids.erase id, ?_⟩
  rw [Keyed.dialogue, Dialogue.run, KeySpace.run]
  cases k.set? (Key.instancesOf id) with
  | none => rfl
  | some names => exact Keyed.run_sessionRemoval _ set

/-- To write an instance fails only where a text stands in the place of the index, and then the
record is written nevertheless. -/
theorem run_instancePut (k : KeySpace) (i : Instance) :
    (Keyed.dialogue (.instancePut i)).run orders k =
      match k.set? (Key.instancesOf i.sessionId) with
      | some names => (.ok (), KeySpace.putSet
          (k.insert (Key.ofInstance i.name) (.text (Instance.format.write i)))
          (Key.instancesOf i.sessionId) (names.insert i.name))
      | none => (.error (Keyed.refused .wrongKind),
          k.insert (Key.ofInstance i.name) (.text (Instance.format.write i))) :=
  Keyed.run_put _ _ (ofInstance_ne_instancesOf i.name i.sessionId) k

/-- To remove an instance that is not there does nothing. -/
theorem run_instanceDelete_of_none {name : String} (absent : k[Key.ofInstance name]? = none) :
    (Keyed.dialogue (.instanceDelete name)).run orders k = (.ok (), k) := by
  rw [Keyed.dialogue]
  obtain ⟨orders', ran⟩ := Dialogue.run_bind (Keyed.get Instance.format .instanceRecord name
    (Key.ofInstance name)) _ orders k
  rw [ran, Keyed.run_get, absent]
  rfl

/-- To remove an instance fails only where a text stands in the place of the index, and then the
record is gone nevertheless. -/
theorem run_instanceDelete_of_some {name : String} {i : Instance}
    (found : k[Key.ofInstance name]? = some (.text (Instance.format.write i))) :
    (Keyed.dialogue (.instanceDelete name)).run orders k =
      match k.set? (Key.instancesOf i.sessionId) with
      | some names => (.ok (), KeySpace.putSet (k.erase (Key.ofInstance name))
          (Key.instancesOf i.sessionId) (names.erase name))
      | none => (.error (Keyed.refused .wrongKind), k.erase (Key.ofInstance name)) := by
  rw [Keyed.dialogue]
  obtain ⟨orders', ran⟩ := Dialogue.run_bind (Keyed.get Instance.format .instanceRecord name
    (Key.ofInstance name)) _ orders k
  rw [ran, Keyed.run_get, found]
  simp only [Instance.faithful_format.read_write]
  exact Keyed.run_drop (ofInstance_ne_instancesOf name i.sessionId) k

/-- The instances of a session are those that its index names and whose records are there, by name,
in whatever order the server names them. -/
theorem run_instancesOf (kept : IsKept done k) {sessionId : String} {names : ExtTreeSet String}
    (set : k.set? (Key.instancesOf sessionId) = some names) :
    ((Keyed.dialogue (.instancesOf sessionId)).run orders k).1 = .ok (names.toList.filterMap
      fun name => k.readable? Instance.format (Key.ofInstance name)) := by
  -- What can be read under the key of an instance is an instance of that name.
  have own : ∀ (name : String) (i : Instance),
      k.readable? Instance.format (Key.ofInstance name) = some i → i.name = name := by
    intro name i read
    rw [KeySpace.readable?] at read
    rcases kept.instance_cases name with absent | ⟨j, -, rfl, found⟩
    · rw [absent] at read
      cases read
    · rw [found] at read
      simp only [Instance.faithful_format.read_write] at read
      exact congrArg Instance.name (Option.some.inj read).symm
  have texts : ∀ name ∈ names, ∀ names, k[Key.ofInstance name]? ≠ some (.set names) := by
    intro name _ names held
    rcases kept.instance_cases name with absent | ⟨j, -, -, found⟩
    · cases absent.symm.trans held
    · cases found.symm.trans held
  rw [Keyed.dialogue]
  refine (congrArg Prod.fst (Dialogue.run_bind_done _ _ orders k)).trans ?_
  rw [Keyed.run_loadIndexed Instance.format Key.ofInstance set texts]
  exact congrArg Except.ok (mergeSort_filterMap own ((orders 0).perm names))

/-- An operation that has been done leaves a key space in which every place holds what it may. -/
theorem run {α : Type} (kept : IsKept done k) (op : Operation α) (isDone : done ⟨α, op⟩) :
    IsKept done ((Keyed.dialogue op).run orders k).2 := by
  cases op with
  | sessionPut s =>
      obtain ⟨ids, ran⟩ := kept.run_sessionPut s
      obtain ⟨p, same, -⟩ := Place.exists_ofSession s.id
      rw [ran, ← same]
      exact (kept.insert (.session same isDone)).putSet (p := .sessionIds) fun _ => .sessionIds ids
  | sessionDelete id =>
      obtain ⟨ids, ran⟩ := kept.run_sessionDelete id
      rw [ran]
      cases k.set? (Key.instancesOf id) with
      | none => exact kept
      | some names =>
          exact (((kept.dropRecords _).erase _).erase _).putSet (p := .sessionIds)
            fun _ => .sessionIds ids
  | instancePut i =>
      -- The record comes first, and stays whether or not its index can be written.
      have written : IsKept done (k.insert _ _) :=
        kept.insert (p := .instance i.name) (.instance isDone)
      rw [run_instancePut]
      rcases kept.names_cases i.sessionId with ⟨set, -⟩ | ⟨names, set, put⟩
      · rw [set]
        exact written
      · rw [set]
        refine written.putSet (p := .instances i.sessionId) fun nonempty => .names nonempty ?_
        intro name named
        rcases ExtTreeSet.mem_insert.mp named with same | named
        · exact ⟨i, isDone, Std.compare_eq_iff_eq.mp same, rfl⟩
        · exact put name named
  | instanceDelete name =>
      rcases kept.instance_cases name with absent | ⟨i, -, -, found⟩
      · rw [run_instanceDelete_of_none absent]
        exact kept
      · rw [run_instanceDelete_of_some found]
        rcases kept.names_cases i.sessionId with ⟨set, -⟩ | ⟨names, set, put⟩
        · rw [set]
          exact kept.erase _
        · rw [set]
          refine (kept.erase _).putSet (p := .instances i.sessionId) fun nonempty =>
            .names nonempty ?_
          exact fun other named => put other (ExtTreeSet.mem_of_mem_erase named)
  | playgroundPut p =>
      obtain ⟨ids, ran⟩ := kept.run_playgroundPut p
      rw [ran]
      exact (kept.insert (p := .playground p.id) (.playground isDone)).putSet
        (p := .playgroundIds) fun _ => .playgroundIds ids
  | sessionGet | sessions | instanceGet | instancesOf | playgroundGet | playgrounds =>
      rw [Keyed.run_snd_of_not_isWrite id]
      exact kept

end IsKept

/-! ## What clients read -/

namespace Server

/-- The record of a session as a client reads it. -/
def session (s : Server) (id : String) : Outcome Session :=
  (s.talk (Keyed.dialogue (.sessionGet id))).1.1

/-- The instances of a session as a client is told. -/
def instances (s : Server) (sessionId : String) : Outcome (List Instance) :=
  (s.talk (Keyed.dialogue (.instancesOf sessionId))).1.1

/-- The record of a playground as a client reads it. -/
def playground (s : Server) (id : String) : Outcome Playground :=
  (s.talk (Keyed.dialogue (.playgroundGet id))).1.1

/-- The index of a session names some instance. -/
def HasIndex (s : Server) (sessionId : String) : Prop :=
  ∃ name, s.IsIndexed sessionId name

section

variable {s : Server} (quiet : s.IsQuiet)

include quiet

/-- A session that is written under its key is read. -/
theorem session_of_text {t : Session}
    (found : s.entries[Key.ofSession t.id]? = some (.text (Session.format.write t))) :
    s.session t.id = .ok t := by
  rw [session, (Dialogue.talk_of_isQuiet quiet _).1, Keyed.dialogue, Keyed.run_get, found]
  simp only [Session.faithful_format.read_write]
  rfl

/-- A session is not read where a set stands in its place. -/
theorem session_of_set {id : String} {names : ExtTreeSet String}
    (found : s.entries[Key.ofSession id]? = some (.set names)) :
    s.session id = .error (Keyed.refused .wrongKind) := by
  rw [session, (Dialogue.talk_of_isQuiet quiet _).1, Keyed.dialogue, Keyed.run_get, found]

/-- An instance that is written under its key is read. -/
theorem record_of_text {i : Instance}
    (found : s.entries[Key.ofInstance i.name]? = some (.text (Instance.format.write i))) :
    s.record i.name = .ok i := by
  rw [record, (Dialogue.talk_of_isQuiet quiet _).1, Keyed.dialogue, Keyed.run_get, found]
  simp only [Instance.faithful_format.read_write]
  rfl

end

/-- All that a quiet server holds comes from these operations. -/
structure IsFrom (done : AnyOperation → Prop) (s : Server) : Prop where
  quiet : s.IsQuiet
  kept : IsKept done s.entries

end Server

/-- What a server holds still comes from operations after one more of them. -/
theorem Server.IsFrom.talk {s : Server} (h : s.IsFrom done) {α : Type} (op : Operation α)
    (isDone : done ⟨α, op⟩) : (s.talk (Keyed.dialogue op)).2.IsFrom done := by
  obtain ⟨-, quiet, entries⟩ := Dialogue.talk_of_isQuiet h.quiet (Keyed.dialogue op)
  exact ⟨quiet, entries ▸ h.kept.run op isDone⟩

/-- What a server holds after a run comes from the operations of the run. -/
theorem isFrom_after (orders : Nat → Listing) {ops : List AnyOperation}
    (all : ∀ op ∈ ops, done op) : (Server.after orders ops).IsFrom done := by
  obtain ⟨quiet, kept⟩ := Server.after_of_run isKept_empty
    (fun op here _ _ kept => IsKept.run kept op.2 (all op here)) orders
  exact ⟨quiet, kept⟩

namespace Server.IsFrom

variable {s : Server}

/-- The record of a session is absent, or is read, or the index of another session is in the way. -/
theorem session_cases (h : s.IsFrom done) (id : String) :
    (s.session id = .error (.notFound .sessionRecord id) ∧ s.entries[Key.ofSession id]? = none) ∨
    (∃ t : Session, done ⟨Unit, .sessionPut t⟩ ∧ t.id = id ∧ s.session id = .ok t ∧
      s.entries[Key.ofSession id]? = some (.text (Session.format.write t))) ∨
    s.session id = .error (Keyed.refused .wrongKind) ∧
      ∃ sessionId, id = sessionId ++ ":instances" ∧ s.HasIndex sessionId := by
  rcases h.kept.session_cases id with
    absent | ⟨t, put, rfl, found⟩ | ⟨owner, names, rfl, some, found⟩
  · refine .inl ⟨?_, absent⟩
    rw [session, (Dialogue.talk_of_isQuiet h.quiet _).1, Keyed.dialogue, Keyed.run_get, absent]
  · exact .inr (.inl ⟨t, put, rfl, session_of_text h.quiet found, found⟩)
  · obtain ⟨name, named⟩ : ∃ name, name ∈ names := by
      by_contra none
      exact some (ExtTreeSet.ext_mem fun name => by simpa using fun named => none ⟨name, named⟩)
    refine .inr (.inr ⟨session_of_set h.quiet found, owner, rfl, name, names, ?_, named⟩)
    rwa [← ofSession_eq_instancesOf_iff.mpr rfl]

/-- An instance is read as it was written, or it is missing. -/
theorem record_cases (h : s.IsFrom done) (name : String) :
    (s.record name = .error (.notFound .instanceRecord name) ∧
      s.entries[Key.ofInstance name]? = none) ∨
    ∃ i : Instance, done ⟨Unit, .instancePut i⟩ ∧ i.name = name ∧ s.record name = .ok i ∧
      s.entries[Key.ofInstance name]? = some (.text (Instance.format.write i)) := by
  rcases h.kept.instance_cases name with absent | ⟨i, put, rfl, found⟩
  · refine .inl ⟨?_, absent⟩
    rw [record, (Dialogue.talk_of_isQuiet h.quiet _).1, Keyed.dialogue, Keyed.run_get, absent]
  · exact .inr ⟨i, put, rfl, record_of_text h.quiet found, found⟩

/-- A playground is read as it was written, or it is missing. -/
theorem playground_cases (h : s.IsFrom done) (id : String) :
    s.playground id = .error (.notFound .playgroundRecord id) ∨
    ∃ p : Playground, done ⟨Unit, .playgroundPut p⟩ ∧ p.id = id ∧ s.playground id = .ok p := by
  rw [playground, (Dialogue.talk_of_isQuiet h.quiet _).1, Keyed.dialogue, Keyed.run_get]
  rcases h.kept.playground_cases id with absent | ⟨p, put, own, found⟩
  · rw [absent]
    exact .inl rfl
  · rw [found]
    simp only [Playground.faithful_format.read_write]
    exact .inr ⟨p, put, own, rfl⟩

/-- The record of the session with the longer id is there exactly if no set can be found. -/
theorem set?_eq_none_iff (h : s.IsFrom done) (sessionId : String) :
    s.entries.set? (Key.instancesOf sessionId) = none ↔
      ∃ t, s.session (sessionId ++ ":instances") = .ok t := by
  rw [KeySpace.set?_eq_none_iff, ← ofSession_eq_instancesOf_iff.mpr rfl]
  rcases h.session_cases (sessionId ++ ":instances") with
    ⟨answer, found⟩ | ⟨t, -, -, answer, found⟩ | ⟨answer, owner, same, name, names, found, -⟩
  · rw [answer, found]
    simp
  · rw [answer, found]
    exact iff_of_true ⟨_, rfl⟩ ⟨t, rfl⟩
  · rw [answer, ofSession_eq_instancesOf_iff.mpr same, found]
    simp

end Server.IsFrom

end Playgrounds.Store
