import Playgrounds.Proofs.Store.Contents

/-!
# How far sessions are apart

Operations on one session leave what is read of another, whatever the two ids are, unless one of the
ids is the other followed by `:instances`: the index of the session with the shorter id lies under
the key of the record of the other.

* `Server.Concerns` — an operation is about a session and its instances.
* `Server.IsFrom.getElem?_run` — the footprint of such an operation.
* `undisturbed_iff` — which sessions can disturb which, and when a session that is not there is not
  reported as absent.
-/

namespace Playgrounds.Store

open Std Json

/-- The operation writes or removes a session, or an instance that belongs to no other. -/
def Server.Concerns {α : Type} (s : Server) (sessionId : String) : Operation α → Prop
  | .sessionPut t => t.id = sessionId
  | .sessionDelete id => id = sessionId
  | .instancePut i => i.sessionId = sessionId
  | .instanceDelete name => ∀ i, s.record name = .ok i → i.sessionId = sessionId
  | _ => False

/-- No name is given to instances of two sessions. -/
def OneOwner (ops : List AnyOperation) : Prop :=
  ∀ i j : Instance, ⟨Unit, .instancePut i⟩ ∈ ops → ⟨Unit, .instancePut j⟩ ∈ ops →
    i.name = j.name → i.sessionId = j.sessionId

/-! ## Footprints -/

variable {done : AnyOperation → Prop} {s : Server}

/-- An operation on a session changes nothing but its record, its index, the records of its
instances and the set of session ids. -/
theorem Server.IsFrom.getElem?_run {α : Type} (h : s.IsFrom done) {op : Operation α}
    (isDone : done ⟨α, op⟩) {sessionId key : String} (concerns : s.Concerns sessionId op)
    (notSession : Key.ofSession sessionId ≠ key) (notIndex : Key.instancesOf sessionId ≠ key)
    (notIds : Key.sessionIds ≠ key)
    (notInstance : ∀ i : Instance, done ⟨Unit, .instancePut i⟩ → i.sessionId = sessionId →
      Key.ofInstance i.name ≠ key) :
    ((Keyed.dialogue op).run s.orders s.entries).2[key]? = s.entries[key]? := by
  cases op with
  | sessionPut t =>
      obtain ⟨ids, ran⟩ := h.kept.run_sessionPut t
      cases (concerns : t.id = sessionId)
      rw [ran, KeySpace.getElem?_putSet, if_neg notIds, getElem?_insert_eq, if_neg notSession]
  | sessionDelete removed =>
      obtain ⟨ids, ran⟩ := h.kept.run_sessionDelete removed
      cases (concerns : removed = sessionId)
      rw [ran]
      rcases h.kept.names_cases sessionId with ⟨set, -⟩ | ⟨names, set, put⟩
      · rw [set]
      · rw [set]
        show (KeySpace.putSet _ _ _)[key]? = _
        rw [KeySpace.getElem?_putSet, if_neg notIds, getElem?_erase_eq, if_neg notSession,
          getElem?_erase_eq, if_neg notIndex, Keyed.getElem?_dropRecords, if_neg]
        -- The records that go with a session are those that were written for it.
        intro named
        obtain ⟨name, listed, rfl⟩ := List.mem_map.mp named
        have listed := ((s.orders 0).perm names).mem_iff.mp listed
        obtain ⟨i, isPut, rfl, own⟩ := put name (ExtTreeSet.mem_toList.mp listed)
        exact notInstance i isPut own rfl
  | instancePut i =>
      cases (concerns : i.sessionId = sessionId)
      have apart := notInstance i isDone rfl
      rw [IsKept.run_instancePut]
      rcases h.kept.names_cases i.sessionId with ⟨set, -⟩ | ⟨names, set, -⟩
      · rw [set]
        exact (getElem?_insert_eq ..).trans (if_neg apart)
      · rw [set]
        show (KeySpace.putSet _ _ _)[key]? = _
        rw [KeySpace.getElem?_putSet, if_neg notIndex, getElem?_insert_eq, if_neg apart]
  | instanceDelete name =>
      rcases h.record_cases name with ⟨-, absent⟩ | ⟨i, put, rfl, record, found⟩
      · rw [IsKept.run_instanceDelete_of_none absent]
      cases concerns i record
      have apart := notInstance i put rfl
      rw [IsKept.run_instanceDelete_of_some found]
      rcases h.kept.names_cases i.sessionId with ⟨set, -⟩ | ⟨names, set, -⟩
      · rw [set]
        exact (getElem?_erase_eq ..).trans (if_neg apart)
      · rw [set]
        show (KeySpace.putSet _ _ _)[key]? = _
        rw [KeySpace.getElem?_putSet, if_neg notIndex, getElem?_erase_eq, if_neg apart]
  | sessionGet | sessions | instanceGet | instancesOf | playgroundPut | playgroundGet
  | playgrounds => exact concerns.elim

/-! ## What the readings depend on -/

section

variable {s' : Server} (quiet : s.IsQuiet)

include quiet

/-- The reading of a session depends on the entry under its key. -/
theorem Server.session_congr (quiet' : s'.IsQuiet) {id : String}
    (same : s'.entries[Key.ofSession id]? = s.entries[Key.ofSession id]?) :
    s'.session id = s.session id := by
  rw [session, session, (Dialogue.talk_of_isQuiet quiet _).1, (Dialogue.talk_of_isQuiet quiet' _).1,
    Keyed.dialogue, Keyed.run_get, Keyed.run_get, same]

/-- A listing is refused where a text stands in the place of its index. -/
theorem Server.instances_of_text {id text : String}
    (found : s.entries[Key.instancesOf id]? = some (.text text)) :
    s.instances id = .error (Keyed.refused .wrongKind) := by
  have none : s.entries.set? (Key.instancesOf id) = none :=
    KeySpace.set?_eq_none_iff.mpr ⟨text, found⟩
  rw [instances, (Dialogue.talk_of_isQuiet quiet _).1, Keyed.dialogue]
  refine (congrArg Prod.fst (Dialogue.run_bind_done _ _ s.orders s.entries)).trans ?_
  simp only [Keyed.loadIndexed, Dialogue.run, KeySpace.run, none]
  rfl

end

/-- The records that an index names and that are there are listed, whatever the order in which the
server names them. -/
theorem Server.IsFrom.instances_of_set (h : s.IsFrom done) {id : String} {names : ExtTreeSet String}
    (set : s.entries.set? (Key.instancesOf id) = some names) :
    s.instances id = .ok (names.toList.filterMap
      fun name => s.entries.readable? Instance.format (Key.ofInstance name)) := by
  rw [instances, (Dialogue.talk_of_isQuiet h.quiet _).1]
  exact h.kept.run_instancesOf set

/-- A listing depends on the index and on the records that the index names. -/
theorem Server.IsFrom.instances_congr {s' : Server} (h : s.IsFrom done) (h' : s'.IsFrom done)
    {id : String} (index : s'.entries[Key.instancesOf id]? = s.entries[Key.instancesOf id]?)
    (records : ∀ names, s.entries.set? (Key.instancesOf id) = some names → ∀ name ∈ names,
      s'.entries[Key.ofInstance name]? = s.entries[Key.ofInstance name]?) :
    s'.instances id = s.instances id := by
  cases set : s.entries.set? (Key.instancesOf id) with
  | none =>
      obtain ⟨text, found⟩ := KeySpace.set?_eq_none_iff.mp set
      rw [instances_of_text h.quiet found, instances_of_text h'.quiet (index.trans found)]
  | some names =>
      have set' := (KeySpace.set?_congr index).trans set
      rw [h.instances_of_set set, h'.instances_of_set set']
      refine congrArg Except.ok (List.filterMap_congr fun name named => ?_)
      exact KeySpace.readable?_congr _ (records names set name (ExtTreeSet.mem_toList.mp named))

/-! ## Operations on another session -/

section

variable {α : Type} {op : Operation α} {a b : String} (h : s.IsFrom done) (isDone : done ⟨α, op⟩)
  (concerns : s.Concerns a op) (apart : a ≠ b)

include h isDone concerns apart

/-- An operation on one session leaves the reading of another alone, unless that is named like its
index. -/
theorem Server.IsFrom.session_talk (longer : b ≠ a ++ ":instances") :
    (s.talk (Keyed.dialogue op)).2.session b = s.session b := by
  obtain ⟨-, quiet, entries⟩ := Dialogue.talk_of_isQuiet h.quiet (Keyed.dialogue op)
  refine session_congr h.quiet quiet ?_
  rw [entries]
  refine h.getElem?_run isDone concerns ?_ ?_ ?_ ?_
  · exact fun same => apart (ofSession_inj.mp same)
  · exact fun same => longer (ofSession_eq_instancesOf_iff.mp same.symm)
  · exact (ofSession_ne_sessionIds b).symm
  · exact fun i _ _ => ofInstance_ne_ofSession i.name b

/-- The index of a session names only its own instances, which no operation on another removes. -/
theorem Server.IsFrom.instances_talk (shorter : a ≠ b ++ ":instances")
    (one : ∀ i j : Instance, done ⟨Unit, .instancePut i⟩ → done ⟨Unit, .instancePut j⟩ →
      i.name = j.name → i.sessionId = j.sessionId) :
    (s.talk (Keyed.dialogue op)).2.instances b = s.instances b := by
  obtain ⟨-, -, entries⟩ := Dialogue.talk_of_isQuiet h.quiet (Keyed.dialogue op)
  refine h.instances_congr (h.talk op isDone) ?_ ?_
  · rw [entries]
    refine h.getElem?_run isDone concerns ?_ ?_ ?_ ?_
    · exact fun same => shorter (ofSession_eq_instancesOf_iff.mp same)
    · exact fun same => apart (instancesOf_inj.mp same)
    · exact (instancesOf_ne_sessionIds b).symm
    · exact fun i _ _ => ofInstance_ne_instancesOf i.name b
  · intro names set name named
    rcases h.kept.names_cases b with ⟨none, -⟩ | ⟨names', set', put⟩
    · exact nomatch none.symm.trans set
    rw [set] at set'
    cases set'
    -- Each record that is listed was written for this session, so the operation is not about it.
    obtain ⟨j, isPut, rfl, own⟩ := put name named
    rw [entries]
    refine h.getElem?_run isDone concerns ?_ ?_ ?_ ?_
    · exact (ofInstance_ne_ofSession j.name a).symm
    · exact (ofInstance_ne_instancesOf j.name a).symm
    · exact (ofInstance_ne_sessionIds j.name).symm
    · intro i isPut' own' same
      have owners := one i j isPut' isPut (ofInstance_inj.mp same)
      exact apart (own'.symm.trans (owners.trans own))

end

/-! ## Who disturbs whom -/

/-- No operation on the session changes a reading, in whatever orders the server names members. -/
def Spares {β : Type} (sessionId : String) (read : Server → β) : Prop :=
  ∀ (orders : Nat → Listing) (ops : List AnyOperation) (op : AnyOperation), OneOwner (ops ++ [op]) →
    (Server.after orders ops).Concerns sessionId op.2 →
    read (Server.after orders (ops ++ [op])) = read (Server.after orders ops)

/-! ### On a server that holds nothing -/

section

variable (orders : Nat → Listing)

/-- A single operation runs on an empty key space. -/
theorem entries_after_singleton (op : AnyOperation) :
    (Server.after orders [op]).IsQuiet ∧
      (Server.after orders [op]).entries = ((Keyed.dialogue op.2).run orders ∅).2 :=
  (Dialogue.talk_of_isQuiet (s := .new orders) rfl (Keyed.dialogue op.2)).2

theorem isFrom_new (done : AnyOperation → Prop) : (Server.new orders).IsFrom done :=
  ⟨rfl, isKept_empty⟩

/-- A new server has no session. -/
theorem session_new (id : String) :
    (Server.new orders).session id = .error (.notFound .sessionRecord id) := by
  rw [Server.session, (Dialogue.talk_of_isQuiet (s := .new orders) rfl _).1, Keyed.dialogue,
    Keyed.run_get, show (Server.new orders).entries = ∅ from rfl, ExtTreeMap.getElem?_empty]

theorem set?_empty (key : String) : KeySpace.set? ∅ key = some ∅ := by
  rw [KeySpace.set?, ExtTreeMap.getElem?_empty]

theorem instances_new (id : String) : (Server.new orders).instances id = .ok [] :=
  (isFrom_new orders fun _ => True).instances_of_set (set?_empty _)

/-- A session is written. -/
def lone (id : String) : AnyOperation := ⟨Unit, .sessionPut { sampleSession with id }⟩

/-- An instance of a session is written. -/
def loneInstance (sessionId : String) : AnyOperation :=
  ⟨Unit, .instancePut { sampleInstance with sessionId }⟩

/-- A session alone is written under its key. -/
theorem entries_lone (id : String) :
    (Server.after orders [lone id]).entries[Key.ofSession id]?
      = some (.text (Session.format.write { sampleSession with id })) := by
  have kept : IsKept (fun _ => True) ∅ := isKept_empty
  obtain ⟨ids, ran⟩ := kept.run_sessionPut { sampleSession with id }
  rw [(entries_after_singleton orders _).2]
  show ((Keyed.dialogue (.sessionPut _)).run orders ∅).2[_]? = _
  rw [ran, KeySpace.getElem?_putSet, if_neg (ofSession_ne_sessionIds id).symm, getElem?_insert_eq,
    if_pos rfl]

/-- An instance alone is the one name in its index. -/
theorem entries_loneInstance (sessionId : String) :
    (Server.after orders [loneInstance sessionId]).entries[Key.instancesOf sessionId]?
      = some (.set (ExtTreeSet.insert ∅ "n")) := by
  rw [(entries_after_singleton orders _).2]
  show ((Keyed.dialogue (.instancePut _)).run orders ∅).2[_]? = _
  rw [IsKept.run_instancePut]
  simp only [set?_empty, KeySpace.getElem?_putSet, if_true]
  rfl

/-- An instance alone is written under its key. -/
theorem record_loneInstance (sessionId : String) :
    (Server.after orders [loneInstance sessionId]).entries[Key.ofInstance "n"]?
      = some (.text (Instance.format.write { sampleInstance with sessionId })) := by
  have apart : Key.instancesOf sessionId ≠ Key.ofInstance "n" :=
    (ofInstance_ne_instancesOf "n" sessionId).symm
  rw [(entries_after_singleton orders _).2]
  show ((Keyed.dialogue (.instancePut _)).run orders ∅).2[_]? = _
  rw [IsKept.run_instancePut]
  simp only [set?_empty, KeySpace.getElem?_putSet]
  rw [if_neg apart]
  exact (getElem?_insert_eq ..).trans (if_pos rfl)

/-- An instance alone is listed. -/
theorem instances_loneInstance (sessionId : String) :
    (Server.after orders [loneInstance sessionId]).instances sessionId
      = .ok [{ sampleInstance with sessionId }] := by
  have h : (Server.after orders [loneInstance sessionId]).IsFrom fun _ => True :=
    isFrom_after orders fun _ _ => trivial
  have named : KeySpace.set? (Server.after orders [loneInstance sessionId]).entries
      (Key.instancesOf sessionId) = some (ExtTreeSet.insert ∅ "n") := by
    rw [KeySpace.set?, entries_loneInstance]
  have one : (ExtTreeSet.insert (∅ : ExtTreeSet String) "n").toList = ["n"] := rfl
  rw [h.instances_of_set named, one]
  simp only [List.filterMap_cons, KeySpace.readable?, record_loneInstance,
    Instance.faithful_format.read_write]
  rfl

theorem oneOwner_singleton (op : AnyOperation) : OneOwner [op] := by
  intro i j hi hj _
  cases (List.mem_singleton.mp hi).trans (List.mem_singleton.mp hj).symm
  rfl

/-- A session alone is read. -/
theorem session_lone (id : String) :
    (Server.after orders [lone id]).session id = .ok { sampleSession with id } :=
  Server.session_of_text (t := { sampleSession with id }) (entries_after_singleton orders _).1
    (entries_lone orders id)

/-- The record is under the key of the index of the session whose id is shorter. -/
theorem instances_lone (sessionId : String) :
    (Server.after orders [lone (sessionId ++ ":instances")]).instances sessionId
      = .error (Keyed.refused .wrongKind) := by
  have found := entries_lone orders (sessionId ++ ":instances")
  rw [ofSession_eq_instancesOf_iff.mpr rfl] at found
  exact Server.instances_of_text (entries_after_singleton orders _).1 found

/-- The index is under the key of the record of the session whose id is longer. -/
theorem session_loneInstance (sessionId : String) :
    (Server.after orders [loneInstance sessionId]).session (sessionId ++ ":instances")
      = .error (Keyed.refused .wrongKind) := by
  have found := entries_loneInstance orders sessionId
  rw [← ofSession_eq_instancesOf_iff.mpr rfl] at found
  exact Server.session_of_set (entries_after_singleton orders _).1 found

end

/-! ### In every run -/

variable {a b : String}

/-- The reading of a session is spared by exactly those whose id is not its own, and which do not
have it for an index. -/
theorem spares_session_iff :
    Spares a (·.session b) ↔ a ≠ b ∧ b ≠ a ++ ":instances" := by
  constructor
  · intro spares
    refine ⟨?_, ?_⟩
    · rintro rfl
      have same := spares alphabetically [] (lone a) (oneOwner_singleton _) rfl
      exact nomatch (session_lone _ a).symm.trans (same.trans (session_new _ a))
    · rintro rfl
      have same := spares alphabetically [] (loneInstance a) (oneOwner_singleton _) rfl
      have differ := (session_loneInstance _ a).symm.trans (same.trans (session_new _ _))
      exact nomatch Except.error.inj differ
  · rintro ⟨apart, longer⟩ orders ops op - concerns
    have h : (Server.after orders ops).IsFrom (· ∈ ops ++ [op]) :=
      isFrom_after orders fun _ => List.mem_append_left _
    rw [Server.after_append_singleton]
    exact h.session_talk (List.mem_append_right _ List.mem_cons_self) concerns apart longer

/-- The listing of a session is spared by exactly those whose id is not its own, and which are not
its index. -/
theorem spares_instances_iff :
    Spares a (·.instances b) ↔ a ≠ b ∧ a ≠ b ++ ":instances" := by
  constructor
  · intro spares
    refine ⟨?_, ?_⟩
    · rintro rfl
      have same := spares alphabetically [] (loneInstance a) (oneOwner_singleton _) rfl
      have differ := (instances_loneInstance _ a).symm.trans (same.trans (instances_new _ a))
      exact nomatch Except.ok.inj differ
    · rintro rfl
      have same := spares alphabetically [] (lone (b ++ ":instances")) (oneOwner_singleton _) rfl
      exact nomatch (instances_lone _ b).symm.trans (same.trans (instances_new _ b))
  · rintro ⟨apart, shorter⟩ orders ops op one concerns
    have h : (Server.after orders ops).IsFrom (· ∈ ops ++ [op]) :=
      isFrom_after orders fun _ => List.mem_append_left _
    rw [Server.after_append_singleton]
    exact h.instances_talk (List.mem_append_right _ List.mem_cons_self) concerns apart shorter one

namespace Server.IsFrom

/-- A session that cannot be read is absent, or an index is in the way. -/
theorem session_error (h : s.IsFrom done) {id : String} {e : Failure}
    (failed : s.session id = .error e) :
    e = .notFound .sessionRecord id ∨ e = Keyed.refused .wrongKind := by
  rcases h.session_cases id with ⟨answer, -⟩ | ⟨t, -, -, answer, -⟩ | ⟨answer, -⟩
  · exact .inl (Except.error.inj (failed.symm.trans answer))
  · exact nomatch failed.symm.trans answer
  · exact .inr (Except.error.inj (failed.symm.trans answer))

/-- An index is in the way of a record exactly if the id is that of its session, made longer. -/
theorem session_eq_wrongKind_iff (h : s.IsFrom done) (id : String) :
    s.session id = .error (Keyed.refused .wrongKind) ↔
      ∃ sessionId, id = sessionId ++ ":instances" ∧ s.HasIndex sessionId := by
  constructor
  · intro refused
    rcases h.session_cases id with ⟨answer, -⟩ | ⟨t, -, -, answer, -⟩ | ⟨-, owner⟩
    · exact nomatch Except.error.inj (refused.symm.trans answer)
    · exact nomatch refused.symm.trans answer
    · exact owner
  · rintro ⟨sessionId, rfl, name, names, found, -⟩
    rw [← ofSession_eq_instancesOf_iff.mpr rfl] at found
    exact session_of_set h.quiet found

/-- The reading of an instance fails only where it is missing. -/
theorem record_error (h : s.IsFrom done) {name : String} {e : Failure}
    (failed : s.record name = .error e) : e = .notFound .instanceRecord name := by
  rcases h.record_cases name with ⟨answer, -⟩ | ⟨i, -, -, answer, -⟩
  · exact Except.error.inj (failed.symm.trans answer)
  · exact nomatch failed.symm.trans answer

/-- The reading of a playground fails only where it is missing. -/
theorem playground_error (h : s.IsFrom done) {id : String} {e : Failure}
    (failed : s.playground id = .error e) : e = .notFound .playgroundRecord id := by
  rcases h.playground_cases id with answer | ⟨p, -, -, answer⟩
  · exact Except.error.inj (failed.symm.trans answer)
  · exact nomatch failed.symm.trans answer

end Server.IsFrom

/-- **ONLY A LONGER ID IS DISTURBED.** The operations on a session leave the record of another
session in every run exactly if the other's id is not this one's followed by `:instances`, and they
leave the instances of the other exactly if this id is not the other's so followed. After any run, a
record that is not read is reported as absent, except for that of a session whose id is so made from
the id of a session that has instances in its index. -/
theorem undisturbed_iff (a b : String) :
    (Spares a (·.session b) ↔ a ≠ b ∧ b ≠ a ++ ":instances") ∧
    (Spares a (·.instances b) ↔ a ≠ b ∧ a ≠ b ++ ":instances") ∧
    ∀ (orders : Nat → Listing) (ops : List AnyOperation), let s := Server.after orders ops
      (∀ id e, s.session id = .error e →
        e = .notFound .sessionRecord id ∨ e = Keyed.refused .wrongKind) ∧
      (∀ id, s.session id = .error (Keyed.refused .wrongKind) ↔
        ∃ sessionId, id = sessionId ++ ":instances" ∧ s.HasIndex sessionId) ∧
      (∀ name e, s.record name = .error e → e = .notFound .instanceRecord name) ∧
      ∀ id e, s.playground id = .error e → e = .notFound .playgroundRecord id := by
  refine ⟨spares_session_iff, spares_instances_iff, fun orders ops => ?_⟩
  have h : (Server.after orders ops).IsFrom (· ∈ ops) := isFrom_after orders fun _ => id
  refine ⟨?_, ?_, ?_, ?_⟩
  · exact fun id e => h.session_error
  · exact h.session_eq_wrongKind_iff
  · exact fun name e => h.record_error
  · exact fun id e => h.playground_error

/-- Writing an instance of one session makes the reading of another, which is not there, fail
otherwise than by its absence. -/
theorem session_disturbed_by_shorter :
    "x" ≠ "x:instances" ∧ OneOwner ([] ++ [loneInstance "x"]) ∧
      (Server.after alphabetically []).Concerns "x" (loneInstance "x").2 ∧
      (Server.after alphabetically []).session "x:instances"
        = .error (.notFound .sessionRecord "x:instances") ∧
      (Server.after alphabetically ([] ++ [loneInstance "x"])).session "x:instances"
        = .error (Keyed.refused .wrongKind) :=
  ⟨by decide, oneOwner_singleton _, rfl, session_new _ _, session_loneInstance _ "x"⟩

end Playgrounds.Store
