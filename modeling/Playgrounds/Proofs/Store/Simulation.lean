import Playgrounds.Proofs.Store.Holdings

/-!
# The store on a server does what the store in memory does

As long as no session id ends like the key of an index, and no instance is written under another
session than its record has, the key space is the image of the tables: the index of a session names
the instances whose records have that session. Then every operation has the same result on both, up
to the order in which sessions and playgrounds come; the instances of a session are sorted, and come
in the same order whatever order the server names them in.

* `Tables.Stored` — the image of the tables, key by key.
* `Holdings.run_ofTables` — an operation keeps the image.
* `Operation.InOrder` — the order that a result promises.
* `server_simulates_tables` — the two stores agree over every run.
-/

namespace Playgrounds.Store

open Std

/-! ## Which operations are allowed -/

namespace Operation

variable {α : Type}

/-- The instance that an operation writes, if it writes one. -/
def written? : Operation α → Option Instance
  | instancePut i => some i
  | _ => none

/-- Whether a result stands in the order that is promised: instances strictly by name. -/
def InOrder : Operation α → α → Prop
  | instancesOf _, is => is.Pairwise fun i j => i.name < j.name
  | _, _ => True

end Operation

namespace Tables

/-- The operation uses plain session ids only, and moves no instance to another session. -/
def Permits {α : Type} (t : Tables) (op : Operation α) : Prop :=
  op.IsPlain ∧ ∀ i ∈ op.written?, ∀ old, t.instances[i.name]? = some old →
    old.sessionId = i.sessionId

/-- Every operation of a run is permitted when its turn comes. -/
def PermitsAll (t : Tables) : List AnyOperation → Prop
  | [] => True
  | op :: rest => t.Permits op.2 ∧ (t.run op.2).2.PermitsAll rest

/-- The tables after a run that starts from nothing. -/
def after (ops : List AnyOperation) : Tables :=
  ops.foldl (fun t op => (t.run op.2).2) empty

/-! ## The image of the tables -/

/-- What the image of the tables has under a key: one text for each record, the ids of the sessions
and of the playgrounds, and for each session the names of the instances whose records have it. -/
inductive Stored (t : Tables) : String → Entry → Prop where
  | sessionRecord {id : String} {s : Session} (found : t.sessions[id]? = some s) :
    Stored t (Key.ofSession id) (.text (Session.format.write s))
  | instanceRecord {name : String} {i : Instance} (found : t.instances[name]? = some i) :
    Stored t (Key.ofInstance name) (.text (Instance.format.write i))
  | playgroundRecord {id : String} {p : Playground} (found : t.playgrounds[id]? = some p) :
    Stored t (Key.ofPlayground id) (.text (Playground.format.write p))
  | sessionIds {members : ExtTreeSet String} (nonempty : members ≠ ∅)
    (all : ∀ id, id ∈ members ↔ id ∈ t.sessions) : Stored t Key.sessionIds (.set members)
  | playgroundIds {members : ExtTreeSet String} (nonempty : members ≠ ∅)
    (all : ∀ id, id ∈ members ↔ id ∈ t.playgrounds) : Stored t Key.playgroundIds (.set members)
  | instancesOf {sessionId : String} {members : ExtTreeSet String} (nonempty : members ≠ ∅)
    (all : ∀ name, name ∈ members ↔
      ∃ i : Instance, t.instances[name]? = some i ∧ i.sessionId = sessionId) :
    Stored t (Key.instancesOf sessionId) (.set members)

/-- The names of the instances whose records have a session. -/
def owned (t : Tables) (sessionId : String) : ExtTreeSet String :=
  ids (t.instances.filter fun _ i => i.sessionId == sessionId)

variable {t : Tables}

theorem mem_owned {sessionId name : String} :
    name ∈ t.owned sessionId ↔
      ∃ i : Instance, t.instances[name]? = some i ∧ i.sessionId = sessionId := by
  rw [owned, mem_ids]
  simp [Option.filter_eq_some_iff]

end Tables

namespace Holdings

/-- The holdings in which every index agrees with the records. -/
def ofTables (t : Tables) : Holdings := ⟨t, t.owned⟩

variable {t : Tables} {k : KeySpace}

/-- A key space that shows these holdings is the image of the tables. -/
theorem stored_iff (tidy : t.IsTidy) (shows : Shows k (ofTables t).view) (key : String)
    (e : Entry) : k[key]? = some e ↔ t.Stored key e := by
  constructor
  · intro found
    obtain ⟨p, rfl⟩ := shows.owned key e found
    rw [shows.place] at found
    cases p with
    | sessionIds =>
        obtain ⟨nonempty, rfl⟩ := setEntry_eq_some.mp found
        exact .sessionIds nonempty fun id => by rw [mem_ids, mem_iff_getElem?]; rfl
    | playgroundIds =>
        obtain ⟨nonempty, rfl⟩ := setEntry_eq_some.mp found
        exact .playgroundIds nonempty fun id => by rw [mem_ids, mem_iff_getElem?]; rfl
    | session id =>
        obtain ⟨s, record, rfl⟩ := Option.map_eq_some_iff.mp found
        exact .sessionRecord record
    | «instances» id =>
        obtain ⟨nonempty, rfl⟩ := setEntry_eq_some.mp found
        exact .instancesOf nonempty fun name => Tables.mem_owned
    | «instance» name =>
        obtain ⟨i, record, rfl⟩ := Option.map_eq_some_iff.mp found
        exact .instanceRecord record
    | playground id =>
        obtain ⟨p, record, rfl⟩ := Option.map_eq_some_iff.mp found
        exact .playgroundRecord record
  -- Each entry of the image is what the place of its key shows.
  · intro stored
    have shown : ∃ p : Place, p.key = key ∧ (ofTables t).view p = some e := by
      cases stored with
      | @sessionRecord id s found =>
          have own : s.id = id := tidy.session id s found
          exact ⟨.session ⟨id, own ▸ tidy.plain id s found⟩, rfl,
            Option.map_eq_some_iff.mpr ⟨s, found, rfl⟩⟩
      | @instanceRecord name i found =>
          exact ⟨.instance name, rfl, Option.map_eq_some_iff.mpr ⟨i, found, rfl⟩⟩
      | @playgroundRecord id p found =>
          exact ⟨.playground id, rfl, Option.map_eq_some_iff.mpr ⟨p, found, rfl⟩⟩
      | @sessionIds members nonempty all =>
          have same : members = ids t.sessions :=
            ExtTreeSet.ext_mem fun id => by rw [all, mem_ids, mem_iff_getElem?]
          subst same
          exact ⟨.sessionIds, rfl, setEntry_eq_some.mpr ⟨nonempty, rfl⟩⟩
      | @playgroundIds members nonempty all =>
          have same : members = ids t.playgrounds :=
            ExtTreeSet.ext_mem fun id => by rw [all, mem_ids, mem_iff_getElem?]
          subst same
          exact ⟨.playgroundIds, rfl, setEntry_eq_some.mpr ⟨nonempty, rfl⟩⟩
      | @instancesOf sessionId members nonempty all =>
          have same : members = t.owned sessionId :=
            ExtTreeSet.ext_mem fun name => by rw [all, Tables.mem_owned]
          subst same
          exact ⟨.instances sessionId, rfl, setEntry_eq_some.mpr ⟨nonempty, rfl⟩⟩
    obtain ⟨p, rfl, holds⟩ := shown
    rw [shows.place, holds]

/-! ## An operation keeps the image -/

/-- Holdings whose indexes agree with the records are determined by their tables. -/
theorem eq_ofTables {h : Holdings} (agree : ∀ sessionId name, name ∈ h.index sessionId ↔
    ∃ i : Instance, h.tables.instances[name]? = some i ∧ i.sessionId = sessionId) :
    h = ofTables h.tables := by
  obtain ⟨tables, index⟩ := h
  have same : index = tables.owned := by
    funext sessionId
    exact ExtTreeSet.ext_mem fun name => by rw [Tables.mem_owned]; exact agree sessionId name
  rw [same]
  rfl

/-- Where the index agrees with the records, the listing is that of the tables. -/
theorem listed_ofTables (t : Tables) (sessionId : String) :
    (ofTables t).listed sessionId = t.instancesOf sessionId := by
  have found : ∀ name ∈ (t.instances.filter fun _ i => i.sessionId == sessionId).keys,
      t.instances[name]? = (t.instances.filter fun _ i => i.sessionId == sessionId)[name]? := by
    intro name named
    obtain ⟨i, record⟩ := (mem_iff_getElem? _ name).mp (ExtTreeMap.mem_keys.mp named)
    rw [record]
    rw [ExtTreeMap.getElem?_filter'] at record
    exact Option.eq_some_of_filter_eq_some record
  show (ids _).toList.filterMap (t.instances[·]?) = _
  rw [toList_ids, List.filterMap_congr found, filterMap_keys, Tables.instancesOf,
    values_eq_map_snd, values_eq_map_snd, ExtTreeMap.toList_filter, List.filter_map]
  rfl

/-- An instance that stays with its session keeps the indexes right when it is written. -/
theorem putInstance_ofTables {i : Instance}
    (stays : ∀ old, t.instances[i.name]? = some old → old.sessionId = i.sessionId) :
    (ofTables t).putInstance i = ofTables (t.run (.instancePut i)).2 := by
  refine eq_ofTables fun sessionId name => ?_
  rw [mem_index_putInstance, getElem?_putInstance]
  show _ ∨ name ∈ t.owned sessionId ↔ _
  rw [Tables.mem_owned]
  by_cases here : i.name = name
  · subst here
    rw [if_pos rfl]
    constructor
    · rintro (⟨same, _⟩ | ⟨old, record, same⟩)
      · exact ⟨i, rfl, same⟩
      -- Only its own session has the name in its index: the record has not moved.
      · exact ⟨i, rfl, (stays old record).symm.trans same⟩
    · rintro ⟨j, written, same⟩
      cases Option.some.inj written
      exact .inl ⟨same, rfl⟩
  · rw [if_neg here]
    exact or_iff_right fun same => here same.2

/-- The name of a removed instance leaves the index of the session that its record has. -/
theorem dropInstance_ofTables {name : String} {i : Instance}
    (record : t.instances[name]? = some i) :
    (ofTables t).dropInstance name i.sessionId = ofTables (t.run (.instanceDelete name)).2 := by
  refine eq_ofTables fun sessionId other => ?_
  rw [mem_index_dropInstance, getElem?_dropInstance]
  show other ∈ t.owned sessionId ∧ _ ↔ _
  rw [Tables.mem_owned]
  by_cases here : name = other
  · subst here
    rw [if_pos rfl]
    constructor
    · rintro ⟨⟨j, found, same⟩, notHere⟩
      rw [record] at found
      cases found
      exact absurd ⟨same, rfl⟩ notHere
    · rintro ⟨_, found, _⟩
      exact nomatch found
  · rw [if_neg here]
    exact and_iff_left fun same => here same.2

/-- The names in the index of a session are those of all its records. -/
theorem dropSession_ofTables (t : Tables) (id : String) :
    (ofTables t).dropSession id (t.owned id).toList = ofTables (t.run (.sessionDelete id)).2 := by
  -- The names in the index are those of the records that have the session.
  have removed : t.instances.filter (fun name _ => name ∉ (t.owned id).toList)
      = t.instances.filter fun _ i => i.sessionId != id := by
    refine ExtTreeMap.ext_getElem? fun name => ?_
    rw [ExtTreeMap.getElem?_filter', ExtTreeMap.getElem?_filter']
    cases record : t.instances[name]? with
    | none => rfl
    | some i => simp [Option.filter_some, Tables.mem_owned, record, bne]
  have tables : ((ofTables t).dropSession id (t.owned id).toList).tables
      = (t.run (.sessionDelete id)).2 := by
    show Tables.mk _ _ _ = Tables.mk _ _ _
    rw [show (ofTables t).tables.instances = t.instances from rfl, removed]
    rfl
  rw [← tables]
  refine eq_ofTables fun sessionId name => ?_
  rw [mem_index_dropSession, getElem?_dropSession]
  show name ∈ t.owned sessionId ∧ _ ↔ _
  rw [Tables.mem_owned]
  constructor
  · rintro ⟨⟨i, record, rfl⟩, other⟩
    refine ⟨i, ?_, rfl⟩
    rw [if_neg]
    · exact record
    · intro named
      obtain ⟨j, found, same⟩ := Tables.mem_owned.mp (ExtTreeSet.mem_toList.mp named)
      rw [record] at found
      cases found
      exact other same.symm
  · rintro ⟨i, record, rfl⟩
    split at record
    · exact nomatch record
    · rename_i notNamed
      refine ⟨⟨i, record, rfl⟩, ?_⟩
      rintro rfl
      exact notNamed (ExtTreeSet.mem_toList.mpr (Tables.mem_owned.mpr ⟨i, record, rfl⟩))

/-- An operation that is permitted does to the image of the tables what it does to the tables. -/
theorem run_ofTables {α : Type} (op : Operation α) (permitted : t.Permits op) :
    (ofTables t).run op = ((t.run op).1, ofTables (t.run op).2) := by
  cases op with
  | sessionGet | sessionPut | sessions | instanceGet | playgroundPut | playgroundGet
  | playgrounds => rfl
  | sessionDelete id =>
      rw [run, show (ofTables t).index id = t.owned id from rfl, dropSession_ofTables]
      rfl
  | instancePut i =>
      rw [run, putInstance_ofTables (permitted.2 i rfl)]
      rfl
  | instanceDelete name =>
      rw [run]
      cases record : (ofTables t).tables.instances[name]? with
      | none =>
          -- Memory erases the record that is not there; the server is not even asked.
          have nothing : t.instances.erase name = t.instances := by
            refine ExtTreeMap.ext_getElem? fun other => ?_
            rw [getElem?_erase_eq]
            split
            · subst other
              exact record.symm
            · rfl
          simp only [Tables.run, nothing]
      | some i => exact congrArg (Prod.mk _) (dropInstance_ofTables record)
  | instancesOf sessionId =>
      rw [run, listed_ofTables]
      rfl

end Holdings

/-! ## Runs -/

/-- Permitted operations are plain. -/
theorem Tables.PermitsAll.isPlain {t : Tables} {ops : List AnyOperation}
    (permitted : t.PermitsAll ops) : ∀ op ∈ ops, op.2.IsPlain := by
  induction ops generalizing t with
  | nil => exact fun _ h => nomatch h
  | cons op rest ih =>
      rintro other (_ | ⟨_, h⟩)
      · exact permitted.1.1
      · exact ih permitted.2 other h

/-- A run of permitted operations keeps the image. -/
theorem Holdings.foldl_ofTables {t : Tables} {ops : List AnyOperation}
    (permitted : t.PermitsAll ops) :
    ops.foldl (fun h op => (h.run op.2).2) (ofTables t)
      = ofTables (ops.foldl (fun t op => (t.run op.2).2) t) := by
  induction ops generalizing t with
  | nil => rfl
  | cons op rest ih =>
      rw [List.foldl_cons, run_ofTables op.2 permitted.1]
      exact ih permitted.2

theorem Holdings.empty_eq_ofTables : empty = ofTables .empty := by
  refine eq_ofTables fun sessionId name => ?_
  simp [empty, Tables.empty]

/-- **After permitted operations the indexes agree with the records.** -/
theorem Holdings.after_eq_ofTables {ops : List AnyOperation}
    (permitted : Tables.empty.PermitsAll ops) : after ops = ofTables (Tables.after ops) := by
  rw [after, empty_eq_ofTables, foldl_ofTables permitted]
  rfl

variable {t : Tables}

/-- The only failure of the store in memory is that a record is absent. -/
theorem Tables.isNotFound_of_error {α : Type} {op : Operation α} {e : Failure}
    (failed : (t.run op).1 = .error e) : e.isNotFound = true := by
  have missing : ∀ {β : Type} (records : Table β) (kind : RecordKind) (id : String),
      Tables.find records kind id = .error e → e.isNotFound = true := by
    intro β records kind id failed
    unfold Tables.find at failed
    split at failed
    · exact nomatch failed
    · cases failed
      rfl
  cases op with
  | sessionGet | instanceGet | playgroundGet => exact missing _ _ _ failed
  | sessionPut | sessionDelete | sessions | instancePut | instanceDelete | instancesOf
  | playgroundPut | playgrounds => exact nomatch failed

/-- In memory the instances of a session come by name. -/
theorem Tables.IsTidy.inOrder (tidy : t.IsTidy) {α : Type} {op : Operation α} {a : α}
    (done : (t.run op).1 = .ok a) : op.InOrder a := by
  cases op with
  | instancesOf sessionId =>
      have listed : t.instancesOf sessionId = a := Except.ok.inj done
      rw [← listed, ← Holdings.listed_ofTables]
      exact Holdings.listed_pairwise tidy sessionId
  | sessionGet | sessionPut | sessionDelete | sessions | instanceGet | instancePut
  | instanceDelete | playgroundPut | playgroundGet | playgrounds => trivial

/-- A result that agrees with that of the tables stands in the order that is promised. -/
theorem Tables.IsTidy.inOrder_of_agrees (tidy : t.IsTidy) {α : Type} {op : Operation α} {a : α}
    (agrees : op.Agrees (.ok a) (t.run op).1) : op.InOrder a := by
  cases op with
  | instancesOf sessionId => exact tidy.inOrder (agrees.eq fun _ _ => id).symm
  | sessionGet | sessionPut | sessionDelete | sessions | instanceGet | instancePut
  | instanceDelete | playgroundPut | playgroundGet | playgrounds => trivial

/-- **THE SERVER SIMULATES THE TABLES.** After any run of permitted operations from nothing, in
whatever orders the server names the members of its sets, a permitted operation has on the server
the result that it has in memory, and passes over no record: sessions and playgrounds may come in
another order, and the instances of a session come strictly by name. Its only failure is that a
record is absent. Afterwards the key space is the image of the tables, with nothing under any other
key. -/
theorem server_simulates_tables (orders : Nat → Listing) (ops : List AnyOperation)
    (permitted : Tables.empty.PermitsAll ops) {α : Type} (op : Operation α)
    (next : (Tables.after ops).Permits op) :
    let result := (Server.after orders ops).talk (Keyed.dialogue op)
    op.Agrees result.1.1 ((Tables.after ops).run op).1 ∧ result.1.2 = [] ∧
      (∀ e, result.1.1 = .error e → e.isNotFound = true) ∧
      (∀ a, result.1.1 = .ok a → op.InOrder a) ∧
      ∀ key e, result.2.entries[key]? = some e ↔ ((Tables.after ops).run op).2.Stored key e := by
  intro result
  have keeps := keeps_after orders permitted.isPlain
  rw [Holdings.after_eq_ofTables permitted] at keeps
  obtain ⟨agrees, silent, keeps'⟩ := keeps.step op next.1
  rw [Holdings.run_ofTables op next] at agrees keeps'
  refine ⟨agrees, silent, ?_, ?_, Holdings.stored_iff keeps'.tidy keeps'.shows⟩
  · intro e failed
    have agrees : op.Agrees result.1.1 _ := agrees
    rw [failed] at agrees
    -- Outcomes that agree are failures together, and the tables know only one.
    generalize inMemory : ((Tables.after ops).run op).1 = outcome at agrees
    cases agrees
    exact Tables.isNotFound_of_error inMemory
  · intro a done
    have agrees : op.Agrees result.1.1 _ := agrees
    rw [done] at agrees
    exact keeps.tidy.inOrder_of_agrees agrees

/-! ## A run -/

/-- A session of the runs that are carried out below. -/
def sampleSession : Session := ⟨"s", "p", .epoch, .epoch⟩

/-- An instance of that session. -/
def sampleInstance : Instance := ⟨"n", "s", "", "", "", .epoch⟩

theorem plain_sample : Plain "s" :=
  plain_of_length (by decide)

/-- Members are always named in reverse. -/
def backwards : Nat → Listing := fun _ => ⟨(·.toList.reverse), fun _ => List.reverse_perm _⟩

/-- Two sessions are written, then an instance of the one, an instance of the other, and one more of
the first. -/
def sampleRun : List AnyOperation :=
  [⟨Unit, .sessionPut sampleSession⟩, ⟨Unit, .sessionPut { sampleSession with id := "t" }⟩,
    ⟨Unit, .instancePut sampleInstance⟩,
    ⟨Unit, .instancePut { sampleInstance with name := "l", sessionId := "t" }⟩,
    ⟨Unit, .instancePut { sampleInstance with name := "m" }⟩]

/-- No two instances of the run have the same name, so that none is moved. -/
theorem permitsAll_sampleRun : Tables.empty.PermitsAll sampleRun := by
  have plain : ∀ {id : String}, id.length < 10 → ∀ id' ∈ some id, Plain id' := by
    rintro id short _ ⟨⟩
    exact plain_of_length short
  refine ⟨⟨plain (by decide), ?_⟩, ⟨plain (by decide), ?_⟩, ⟨plain (by decide), ?_⟩,
    ⟨plain (by decide), ?_⟩, ⟨plain (by decide), ?_⟩, trivial⟩
  · exact fun _ h => nomatch h
  · exact fun _ h => nomatch h
  -- Each instance is new, so there is no record that could have another session.
  all_goals
    rintro i ⟨⟩ old found
    cases found

/-- The server names members backwards, and the instances of a session still come by name. -/
theorem server_simulates_tables_listing :
    Tables.empty.PermitsAll sampleRun ∧
      (Tables.after sampleRun).Permits (.instancesOf "s") ∧
      ((Server.after backwards sampleRun).talk (Keyed.dialogue (.instancesOf "s"))).1.1
        = .ok [{ sampleInstance with name := "m" }, sampleInstance] := by
  have next : (Tables.after sampleRun).Permits (.instancesOf "s") := by
    refine ⟨?_, fun _ h => nomatch h⟩
    rintro id ⟨⟩
    exact plain_sample
  refine ⟨permitsAll_sampleRun, next, ?_⟩
  rw [(server_simulates_tables backwards _ permitsAll_sampleRun _ next).1.eq fun _ _ => id]
  rfl

end Playgrounds.Store
