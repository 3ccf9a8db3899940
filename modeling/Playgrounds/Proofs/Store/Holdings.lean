import Playgrounds.Proofs.Record.Faithful
import Playgrounds.Proofs.Store.Quiet
import Playgrounds.Store.Tables

/-!
# What a store server holds

`Holdings` are the records on a server together with the index of each session's instances, as the
server keeps it. `Holdings.run` performs an operation on them, and the dialogue of the operation
does the same to any key space that shows them. Ownership is written down twice, in a record and in
an index, and nothing here says that the two agree.

* `Holdings.view` — what each place of the key space holds.
* `Holdings.commits_putSession`, … — what each transaction does.
* `Holdings.yields_run` — what the dialogue of an operation does, in whatever order the server names
  the members of its sets.
* `Keeps` — a quiet server with these holdings; every run of plain operations leads to one.
-/

namespace Playgrounds.Store

open Std Json

/-! ## Plain operations -/

namespace Operation

variable {α : Type}

/-- The session id that an operation uses, if it uses one. -/
def sessionId? : Operation α → Option String
  | sessionGet id | sessionDelete id | instancesOf id => some id
  | sessionPut s => some s.id
  | instancePut i => some i.sessionId
  | sessions | instanceGet _ | instanceDelete _ | playgroundPut _ | playgroundGet _
  | playgrounds => none

/-- The operation uses no session id that ends like the key of an index of instances. -/
def IsPlain (op : Operation α) : Prop :=
  ∀ id ∈ op.sessionId?, Plain id

/-! ## Agreeing results -/

/-- Two results of an operation are the same; sessions and playgrounds may come in any order. -/
def Same : Operation α → α → α → Prop
  | sessions, found, found' => found.Perm found'
  | playgrounds, found, found' => found.Perm found'
  | _, a, b => a = b

/-- Both outcomes are failures, and the same one, or both are results, and the same but for the
order of a listing that has none. -/
inductive Agrees (op : Operation α) : Outcome α → Outcome α → Prop where
  | ok {a b : α} (same : op.Same a b) : Agrees op (.ok a) (.ok b)
  | error (e : Failure) : Agrees op (.error e) (.error e)

variable {op : Operation α} {a b : Outcome α}

/-- A result is the same as itself. -/
theorem Same.refl (op : Operation α) (a : α) : op.Same a a := by
  cases op with
  | sessions | playgrounds => exact .refl _
  | sessionGet | sessionPut | sessionDelete | instanceGet | instancePut | instanceDelete
  | instancesOf | playgroundPut | playgroundGet => exact rfl

/-- Equal outcomes agree. -/
theorem Agrees.of_eq (same : a = b) : op.Agrees a b := by
  subst same
  cases a with
  | ok a => exact .ok (.refl op a)
  | error e => exact .error e

/-- Where no order is left open, outcomes that agree are equal. -/
theorem Agrees.eq (agrees : op.Agrees a b) (ordered : ∀ a b, op.Same a b → a = b) : a = b := by
  cases agrees with
  | ok same => exact congrArg Except.ok (ordered _ _ same)
  | error => rfl

end Operation

/-! ## Records read by their names -/

section

variable {find : String → Option Instance} (own : ∀ name i, find name = some i → i.name = name)

include own

/-- Records that are read by their names come in the order of their names. -/
theorem pairwise_filterMap (s : ExtTreeSet String) :
    (s.toList.filterMap find).Pairwise fun i j => i.name < j.name := by
  refine List.Pairwise.filterMap _ ?_ (toList_pairwise_lt s)
  intro a b less i foundA j foundB
  rw [own a i foundA, own b j foundB]
  exact less

/-- Sorting leaves no trace of the order in which records were read, as no two of them have the same
name. -/
theorem mergeSort_filterMap {s : ExtTreeSet String} {names : List String}
    (perm : names.Perm s.toList) :
    (names.filterMap find).mergeSort (fun a b => decide (a.name ≤ b.name))
      = s.toList.filterMap find := by
  have sorted : ((names.filterMap find).mergeSort fun a b => decide (a.name ≤ b.name)).Pairwise
      fun a b => decide (a.name ≤ b.name) = true :=
    List.pairwise_mergeSort (fun _ _ _ => by simpa using String.le_trans)
      (fun _ _ => by simpa using String.le_total _ _) _
  have ordered : (s.toList.filterMap find).Pairwise fun a b => decide (a.name ≤ b.name) = true :=
    (pairwise_filterMap own s).imp fun less =>
      decide_eq_true (String.not_lt.mp (String.lt_asymm less))
  have same := (List.mergeSort_perm (names.filterMap find)
    fun a b => decide (a.name ≤ b.name)).trans (perm.filterMap find)
  refine List.Perm.eq_of_pairwise ?_ sorted ordered same
  -- Two records with the same name were read under the same name.
  intro a b listedA listedB le ge
  have equal : a.name = b.name := String.le_antisymm (of_decide_eq_true le) (of_decide_eq_true ge)
  obtain ⟨nameA, -, foundA⟩ := List.mem_filterMap.mp (same.mem_iff.mp listedA)
  obtain ⟨nameB, -, foundB⟩ := List.mem_filterMap.mp listedB
  rw [← own nameA a foundA, equal, own nameB b foundB] at foundA
  exact Option.some.inj (foundA.symm.trans foundB)

end

/-! ## Tidy tables -/

/-- Every record lies under its own id, and the session ids in records are plain. -/
structure Tables.IsTidy (t : Tables) : Prop where
  session : UnderOwn Session.id t.sessions
  «instance» : UnderOwn Instance.name t.instances
  playground : UnderOwn Playground.id t.playgrounds
  plain : All (fun s => Plain s.id) t.sessions
  plainOwner : All (fun i => Plain i.sessionId) t.instances

theorem Tables.isTidy_empty : Tables.empty.IsTidy :=
  ⟨all_empty, all_empty, all_empty, all_empty, all_empty⟩

/-! ## Holdings -/

/-- The records on a server, and the names in the index of each session. -/
structure Holdings where
  tables : Tables
  index : String → ExtTreeSet String

namespace Holdings

/-- Nothing at all. -/
def empty : Holdings := ⟨.empty, fun _ => ∅⟩

/-- What each place of the key space holds. -/
def view (h : Holdings) : View
  | .sessionIds => setEntry (ids h.tables.sessions)
  | .playgroundIds => setEntry (ids h.tables.playgrounds)
  | .session id => h.tables.sessions[id.val]?.map fun s => .text (Session.format.write s)
  | .instances id => setEntry (h.index id)
  | .instance name => h.tables.instances[name]?.map fun i => .text (Instance.format.write i)
  | .playground id => h.tables.playgrounds[id]?.map fun p => .text (Playground.format.write p)

theorem shows_empty : Shows ∅ empty.view := by
  have nothing : empty.view = fun _ => none := by
    funext p
    cases p <;> simp [view, empty, Tables.empty, ids_empty, setEntry]
  rw [nothing]
  exact Store.shows_empty

/-! ## The transactions -/

/-- A session is written. -/
def putSession (h : Holdings) (s : Session) : Holdings :=
  { h with tables.sessions := h.tables.sessions.insert s.id s }

/-- A playground is written. -/
def putPlayground (h : Holdings) (p : Playground) : Holdings :=
  { h with tables.playgrounds := h.tables.playgrounds.insert p.id p }

/-- An instance is written, and its name goes into the index of its session. -/
def putInstance (h : Holdings) (i : Instance) : Holdings where
  tables.sessions := h.tables.sessions
  tables.instances := h.tables.instances.insert i.name i
  tables.playgrounds := h.tables.playgrounds
  index := Function.update h.index i.sessionId ((h.index i.sessionId).insert i.name)

/-- The record of an instance is removed, and its name from the index of a session. -/
def dropInstance (h : Holdings) (name sessionId : String) : Holdings where
  tables.sessions := h.tables.sessions
  tables.instances := h.tables.instances.erase name
  tables.playgrounds := h.tables.playgrounds
  index := Function.update h.index sessionId ((h.index sessionId).erase name)

/-- The records of some instances are removed, then a session and its index. -/
def dropSession (h : Holdings) (id : String) (names : List String) : Holdings where
  tables.sessions := h.tables.sessions.erase id
  tables.instances := h.tables.instances.filter fun name _ => name ∉ names
  tables.playgrounds := h.tables.playgrounds
  index := Function.update h.index id ∅

variable (h : Holdings)

/-! ### Records and indexes afterwards -/

/-- Of the records only that of the instance is new. -/
theorem getElem?_putInstance (i : Instance) (name : String) :
    (h.putInstance i).tables.instances[name]?
      = if i.name = name then some i else h.tables.instances[name]? :=
  getElem?_insert_eq ..

/-- Of the records only that of the instance is gone. -/
theorem getElem?_dropInstance (gone sessionId name : String) :
    (h.dropInstance gone sessionId).tables.instances[name]?
      = if gone = name then none else h.tables.instances[name]? :=
  getElem?_erase_eq ..

/-- Of the records those are gone that were named. -/
theorem getElem?_dropSession (id : String) (names : List String) (name : String) :
    (h.dropSession id names).tables.instances[name]?
      = if name ∈ names then none else h.tables.instances[name]? := by
  rw [dropSession, ExtTreeMap.getElem?_filter']
  by_cases gone : name ∈ names
  · cases h.tables.instances[name]? <;> simp [gone]
  · cases h.tables.instances[name]? <;> simp [gone]

/-- The name is added to the index of the session that the record has. -/
theorem mem_index_putInstance (i : Instance) {sessionId name : String} :
    name ∈ (h.putInstance i).index sessionId ↔
      i.sessionId = sessionId ∧ i.name = name ∨ name ∈ h.index sessionId := by
  show name ∈ Function.update h.index _ _ sessionId ↔ _
  rw [Function.update_apply]
  by_cases same : sessionId = i.sessionId
  · subst same
    simp [ExtTreeSet.mem_insert]
  · simp [same, Ne.symm same]

/-- The name is taken out of one index only. -/
theorem mem_index_dropInstance {gone owner sessionId name : String} :
    name ∈ (h.dropInstance gone owner).index sessionId ↔
      name ∈ h.index sessionId ∧ ¬ (owner = sessionId ∧ gone = name) := by
  show name ∈ Function.update h.index _ _ sessionId ↔ _
  rw [Function.update_apply]
  by_cases same : sessionId = owner
  · subst same
    simp [ExtTreeSet.mem_erase, and_comm]
  · simp [same, Ne.symm same]

/-- An index is gone whole, and the others stay as they are. -/
theorem mem_index_dropSession {id sessionId name : String} {names : List String} :
    name ∈ (h.dropSession id names).index sessionId ↔
      name ∈ h.index sessionId ∧ id ≠ sessionId := by
  show name ∈ Function.update h.index _ _ sessionId ↔ _
  rw [Function.update_apply]
  by_cases same : sessionId = id
  · subst same
    simp
  · simp [same, Ne.symm same]

/-- Which names are removed with a session matters, and not in which order they are given. -/
theorem dropSession_congr (id : String) {names names' : List String} (same : names.Perm names') :
    h.dropSession id names = h.dropSession id names' := by
  have removed : (fun (name : String) (_ : Instance) => decide (name ∉ names))
      = fun name _ => decide (name ∉ names') := by
    funext name _
    exact decide_eq_decide.mpr (not_congr same.mem_iff)
  rw [dropSession, dropSession, removed]

/-! ### What the server does -/

/-- The transaction that writes a session. -/
theorem commits_putSession {s : Session} (plain : Plain s.id) :
    Commits [.set (Key.ofSession s.id) (Session.format.write s),
      .addMember Key.sessionIds s.id] h.view (h.putSession s).view := by
  refine Commits.set (p := .session ⟨s.id, plain⟩) (Commits.addMember (p := .sessionIds)
    (s := ids h.tables.sessions) rfl (.of_eq ?_))
  funext p
  cases p with
  | session id =>
      by_cases same : id = ⟨s.id, plain⟩
      · simp [view, putSession, same]
      -- Two plain places are the same only if their ids are.
      · have other : ¬ s.id = id.val := fun e => same (Subtype.ext e.symm)
        simp [view, putSession, getElem?_insert_eq, same, other]
  | sessionIds => simp [view, putSession, ids_insert]
  | playgroundIds | «instances» | «instance» | playground => simp [view, putSession]

/-- The transaction that writes a playground. -/
theorem commits_putPlayground (p : Playground) :
    Commits [.set (Key.ofPlayground p.id) (Playground.format.write p),
      .addMember Key.playgroundIds p.id] h.view (h.putPlayground p).view := by
  refine Commits.set (p := .playground p.id) (Commits.addMember (p := .playgroundIds)
    (s := ids h.tables.playgrounds) rfl (.of_eq ?_))
  funext q
  cases q with
  | playground id =>
      by_cases same : id = p.id
      · simp [view, putPlayground, same]
      · simp [view, putPlayground, getElem?_insert_eq, same, Ne.symm same]
  | playgroundIds => simp [view, putPlayground, ids_insert]
  | sessionIds | «instances» | «instance» | session => simp [view, putPlayground]

/-- The transaction that writes an instance. -/
theorem commits_putInstance (i : Instance) :
    Commits [.set (Key.ofInstance i.name) (Instance.format.write i),
      .addMember (Key.instancesOf i.sessionId) i.name] h.view (h.putInstance i).view := by
  refine Commits.set (p := .instance i.name) (Commits.addMember (p := .instances i.sessionId)
    (s := h.index i.sessionId) rfl (.of_eq ?_))
  funext p
  cases p with
  | «instance» name =>
      by_cases same : name = i.name
      · simp [view, putInstance, same]
      · simp [view, putInstance, getElem?_insert_eq, same, Ne.symm same]
  | «instances» id =>
      by_cases same : id = i.sessionId
      · simp [view, putInstance, same]
      · simp [view, putInstance, same]
  | sessionIds | playgroundIds | session | playground => simp [view, putInstance]

/-- The transaction that removes an instance. -/
theorem commits_dropInstance (name sessionId : String) :
    Commits [.delete (Key.ofInstance name), .removeMember (Key.instancesOf sessionId) name]
      h.view (h.dropInstance name sessionId).view := by
  refine Commits.delete (p := .instance name) (Commits.removeMember (p := .instances sessionId)
    (s := h.index sessionId) rfl (.of_eq ?_))
  funext p
  cases p with
  | «instance» name' =>
      by_cases same : name' = name
      · simp [view, dropInstance, same]
      · simp [view, dropInstance, getElem?_erase_eq, same, Ne.symm same]
  | «instances» id =>
      by_cases same : id = sessionId
      · simp [view, dropInstance, same]
      · simp [view, dropInstance, same]
  | sessionIds | playgroundIds | session | playground => simp [view, dropInstance]

/-- The transaction that removes a session. -/
theorem commits_dropSession {id : String} (plain : Plain id) (names : List String) :
    Commits (Keyed.sessionRemoval id names) h.view (h.dropSession id names).view := by
  refine Commits.deleteInstances (Commits.delete (p := .instances id) (Commits.delete
    (p := .session ⟨id, plain⟩) (Commits.removeMember (p := .sessionIds)
    (s := ids h.tables.sessions) ?_ (.of_eq ?_))))
  · simp [view]
  funext p
  cases p with
  | session id' =>
      by_cases same : id' = ⟨id, plain⟩
      · simp [view, dropSession, same]
      · have other : ¬ id = id'.val := fun e => same (Subtype.ext e.symm)
        simp [view, dropSession, getElem?_erase_eq, same, other]
  | «instance» name =>
      by_cases gone : name ∈ names
      · simp [view, getElem?_dropSession, gone]
      · simp [view, getElem?_dropSession, gone]
  | «instances» id' =>
      by_cases same : id' = id
      · simp [view, dropSession, same, setEntry]
      · simp [view, dropSession, same]
  | sessionIds => simp [view, dropSession, ids_erase]
  | playgroundIds | playground => simp [view, dropSession]

/-! ## Operations -/

/-- The records that the index of a session names. -/
def listed (sessionId : String) : List Instance :=
  (h.index sessionId).toList.filterMap (h.tables.instances[·]?)

/-- Performs an operation. -/
def run {α : Type} : Operation α → Holdings → Outcome α × Holdings
  | .sessionGet id, h => (Tables.find h.tables.sessions .sessionRecord id, h)
  | .sessionPut s, h => (.ok (), h.putSession s)
  | .sessionDelete id, h => (.ok (), h.dropSession id (h.index id).toList)
  | .sessions, h => (.ok h.tables.sessions.values, h)
  | .instanceGet name, h => (Tables.find h.tables.instances .instanceRecord name, h)
  | .instancePut i, h => (.ok (), h.putInstance i)
  | .instanceDelete name, h =>
    match h.tables.instances[name]? with
    | some i => (.ok (), h.dropInstance name i.sessionId)
    | none => (.ok (), h)
  | .instancesOf sessionId, h => (.ok (h.listed sessionId), h)
  | .playgroundPut p, h => (.ok (), h.putPlayground p)
  | .playgroundGet id, h => (Tables.find h.tables.playgrounds .playgroundRecord id, h)
  | .playgrounds, h => (.ok h.tables.playgrounds.values, h)

variable {h}

/-- The records that an index names come in the order of their names, each name once. -/
theorem listed_pairwise (tidy : h.tables.IsTidy) (sessionId : String) :
    (h.listed sessionId).Pairwise fun i j => i.name < j.name :=
  pairwise_filterMap tidy.instance _

section

variable (tidy : h.tables.IsTidy)

include tidy

theorem isTidy_putSession {s : Session} (plain : Plain s.id) : (h.putSession s).tables.IsTidy :=
  { tidy with
    session := tidy.session.insert rfl
    plain := tidy.plain.insert plain }

theorem isTidy_putPlayground (p : Playground) : (h.putPlayground p).tables.IsTidy :=
  { tidy with playground := tidy.playground.insert rfl }

theorem isTidy_putInstance {i : Instance} (plain : Plain i.sessionId) :
    (h.putInstance i).tables.IsTidy :=
  { tidy with
    «instance» := tidy.instance.insert rfl
    plainOwner := tidy.plainOwner.insert plain }

theorem isTidy_dropInstance (name sessionId : String) :
    (h.dropInstance name sessionId).tables.IsTidy :=
  { tidy with
    «instance» := tidy.instance.erase name
    plainOwner := tidy.plainOwner.erase name }

theorem isTidy_dropSession (id : String) (names : List String) :
    (h.dropSession id names).tables.IsTidy :=
  { tidy with
    session := tidy.session.erase id
    «instance» := tidy.instance.filter _
    plain := tidy.plain.erase id
    plainOwner := tidy.plainOwner.filter _ }

end

/-- **A plain operation leaves the tables tidy.** -/
theorem isTidy_run {α : Type} (tidy : h.tables.IsTidy) (op : Operation α) (plain : op.IsPlain) :
    (h.run op).2.tables.IsTidy := by
  cases op with
  | sessionPut s => exact isTidy_putSession tidy (plain s.id rfl)
  | sessionDelete id => exact isTidy_dropSession tidy id _
  | instancePut i => exact isTidy_putInstance tidy (plain i.sessionId rfl)
  | instanceDelete name =>
      rw [run]
      split
      · exact isTidy_dropInstance tidy name _
      · exact tidy
  | playgroundPut p => exact isTidy_putPlayground tidy p
  | sessionGet | sessions | instanceGet | instancesOf | playgroundGet | playgrounds => exact tidy

/-- A listing reads back the records of an index, here those of a whole table, in any order. -/
theorem yields_values {α : Type} {format : Format α} (faithful : format.Faithful)
    {keyOf : String → String} {p : Place} {t : Table α} (set : h.view p = setEntry (ids t))
    (holds : ∀ (id : String) (a : α), t[id]? = some a → ∃ q : Place, q.key = keyOf id ∧
      h.view q = some (.text (format.write a))) :
    (Keyed.loadIndexed format p.key keyOf).Yields h.view
      (fun result => ∃ found : List α, result = .ok found ∧ found.Perm t.values) h.view := by
  have held : ∀ id ∈ ids t, ∃ q : Place, q.key = keyOf id ∧
      h.view q = t[id]?.map fun a => .text (format.write a) := by
    intro id named
    obtain ⟨a, found⟩ := (mem_ids t).mp named
    rw [found]
    exact holds id a found
  refine (Dialogue.Yields.loadIndexed faithful set held).mono ?_
  rintro result ⟨names, perm, rfl⟩
  refine ⟨_, rfl, ?_⟩
  rw [← filterMap_keys, ← toList_ids]
  exact perm.filterMap _

/-- The dialogue of an operation with a quiet server does to its key space what the operation does
to the holdings that it shows. -/
theorem yields_run {α : Type} (tidy : h.tables.IsTidy) (op : Operation α) (plain : op.IsPlain) :
    (Keyed.dialogue op).Yields h.view (op.Agrees · (h.run op).1) (h.run op).2.view := by
  have agrees : ∀ {α : Type} {op : Operation α} {o : Outcome α},
      ∀ a, a = o → op.Agrees a o := fun _ same => .of_eq same
  cases op with
  | sessionGet id =>
      exact .mono (.get Session.faithful_format (p := .session ⟨id, plain id rfl⟩) rfl rfl) agrees
  | sessionPut s =>
      exact (Dialogue.Yields.transact (h.commits_putSession (plain s.id rfl))).mono agrees
  | sessionDelete id =>
      -- The names come in any order, but the same records are removed.
      refine .send fun order k shows =>
        ⟨_, shows.run_members (p := .instances id) order rfl, ?_⟩
      rw [run, ← h.dropSession_congr id (order.perm (h.index id))]
      exact (Dialogue.Yields.transact (h.commits_dropSession (plain id rfl) _)).mono agrees
  | sessions =>
      refine (yields_values (p := .sessionIds) Session.faithful_format rfl ?_).mono ?_
      · intro id s found
        have own : s.id = id := tidy.session id s found
        refine ⟨.session ⟨id, own ▸ tidy.plain id s found⟩, rfl, ?_⟩
        rw [view, found, Option.map_some]
      · rintro _ ⟨found, rfl, perm⟩
        exact .ok perm
  | instanceGet name =>
      exact .mono (.get Instance.faithful_format (p := .instance name) rfl rfl) agrees
  | instancePut i => exact (Dialogue.Yields.transact (h.commits_putInstance i)).mono agrees
  | instanceDelete name =>
      -- The record is read first, as it names the session whose index has the instance.
      have read : (Keyed.get Instance.format .instanceRecord name (Key.ofInstance name)).Yields
          h.view (· = Tables.find h.tables.instances .instanceRecord name) h.view :=
        Dialogue.Yields.get Instance.faithful_format (p := .instance name) rfl rfl
      -- The record says which index has the name.
      refine read.bind fun _ answer => ?_
      rw [answer, Tables.find, run]
      cases h.tables.instances[name]? with
      | none => exact .done (.of_eq rfl) _
      | some i =>
          exact (Dialogue.Yields.transact (h.commits_dropInstance name i.sessionId)).mono agrees
  | instancesOf sessionId =>
      have held : ∀ name ∈ h.index sessionId, ∃ q : Place, q.key = Key.ofInstance name ∧
          h.view q = h.tables.instances[name]?.map fun i => .text (Instance.format.write i) :=
        fun name _ => ⟨.instance name, rfl, rfl⟩
      refine (Dialogue.Yields.loadIndexed (p := .instances sessionId) Instance.faithful_format rfl
        held).bind ?_
      rintro _ ⟨names, perm, rfl⟩
      exact .done (.of_eq (congrArg Except.ok (mergeSort_filterMap tidy.instance perm))) _
  | playgroundPut p => exact (Dialogue.Yields.transact (h.commits_putPlayground p)).mono agrees
  | playgroundGet id =>
      exact .mono (.get Playground.faithful_format (p := .playground id) rfl rfl) agrees
  | playgrounds =>
      refine (yields_values (p := .playgroundIds) Playground.faithful_format rfl ?_).mono ?_
      · intro id p found
        refine ⟨.playground id, rfl, ?_⟩
        rw [view, found, Option.map_some]
      · rintro _ ⟨found, rfl, perm⟩
        exact .ok perm

end Holdings

/-! ## Runs -/

/-- An operation, whatever its result. -/
abbrev AnyOperation := (α : Type) × Operation α

/-- The server after a run that starts from nothing, if it names members in these orders. -/
def Server.after (orders : Nat → Listing) (ops : List AnyOperation) : Server :=
  ops.foldl (fun s op => (s.talk (Keyed.dialogue op.2)).2) (new orders)

/-- The holdings after a run that starts from nothing. -/
def Holdings.after (ops : List AnyOperation) : Holdings :=
  ops.foldl (fun h op => (h.run op.2).2) empty

/-- A quiet server that has these holdings. -/
structure Keeps (s : Server) (h : Holdings) : Prop where
  quiet : s.IsQuiet
  tidy : h.tables.IsTidy
  shows : Shows s.entries h.view

variable {s : Server} {h : Holdings}

theorem keeps_empty (orders : Nat → Listing) : Keeps (.new orders) .empty :=
  ⟨rfl, Tables.isTidy_empty, Holdings.shows_empty⟩

/-- An operation has the result on the server that it has on its holdings, and passes over no
record. -/
theorem Keeps.step {α : Type} (keeps : Keeps s h) (op : Operation α) (plain : op.IsPlain) :
    op.Agrees (s.talk (Keyed.dialogue op)).1.1 (h.run op).1 ∧
      (s.talk (Keyed.dialogue op)).1.2 = [] ∧
      Keeps (s.talk (Keyed.dialogue op)).2 (h.run op).2 := by
  obtain ⟨agrees, silent, quiet, shows⟩ :=
    Holdings.yields_run keeps.tidy op plain s keeps.quiet keeps.shows
  exact ⟨agrees, silent, quiet, Holdings.isTidy_run keeps.tidy op plain, shows⟩

/-- **Each run of plain operations leads to a server that has the holdings of the run.** -/
theorem Keeps.foldl (keeps : Keeps s h) {ops : List AnyOperation}
    (plain : ∀ op ∈ ops, op.2.IsPlain) :
    Keeps (ops.foldl (fun s op => (s.talk (Keyed.dialogue op.2)).2) s)
      (ops.foldl (fun h op => (h.run op.2).2) h) := by
  induction ops generalizing s h with
  | nil => exact keeps
  | cons op rest ih =>
      obtain ⟨_, _, keeps⟩ := keeps.step op.2 (plain op List.mem_cons_self)
      exact ih keeps fun other h => plain other (List.mem_cons_of_mem _ h)

/-- Every run of plain operations leads to a server that has the holdings of the run. -/
theorem keeps_after (orders : Nat → Listing) {ops : List AnyOperation}
    (plain : ∀ op ∈ ops, op.2.IsPlain) : Keeps (Server.after orders ops) (Holdings.after ops) :=
  (keeps_empty orders).foldl plain

end Playgrounds.Store
