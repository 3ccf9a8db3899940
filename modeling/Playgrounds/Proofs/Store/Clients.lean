import Playgrounds.Proofs.Store.Holdings

/-!
# Several clients of one store server

Clients share a server. It runs one command or one transaction at a time, and between two exchanges
of one client's dialogue any other client may have its own. An operation that reads first and writes
later may so write what follows from something that is no longer true.

* `Dialogue.exchange` — one exchange; a dialogue is nothing but exchanges.
* `Shared` — the server, what each client has still to say, and what has been heard of whom.
* `Change` — what one exchange does to the holdings, where every instance has one owner.
* `Underway.exchange` — every exchange of a client's operation is a `Change`.
-/

namespace Playgrounds.Store

open Std Json

/-! ## One exchange -/

namespace Dialogue

variable {α : Type}

/-- One exchange of a dialogue: what there is still to say, and the server afterwards. -/
def exchange : Dialogue α → Server → Dialogue α × Server
  | done a, s => (done a, s)
  | send c next, s => (next (s.exec c).1, (s.exec c).2)
  | transact cs next, s => (next (s.transact cs).1, (s.transact cs).2)
  | report _ next, s => (next, s)

/-- What a client says next. -/
def commands : Dialogue α → List Command
  | send c _ => [c]
  | transact cs _ => cs
  | done _ | report _ _ => []

/-- Whether nothing is left to say. -/
def isDone : Dialogue α → Bool
  | done _ => true
  | send _ _ | transact _ _ | report _ _ => false

/-- The first exchange leaves the result of a dialogue and its server what they are. -/
theorem talk_exchange (d : Dialogue α) (s : Server) :
    ((d.exchange s).2.talk (d.exchange s).1).1.1 = (s.talk d).1.1 ∧
      ((d.exchange s).2.talk (d.exchange s).1).2 = (s.talk d).2 := by
  cases d <;> exact ⟨rfl, rfl⟩

end Dialogue

/-! ## The clients -/

/-- What a client may be asked to do here. -/
inductive Write where
  | sessionPut (s : Session)
  | sessionDelete (id : String)
  | instancePut (i : Instance)
  | instanceDelete (name : String)

/-- The operation on the store. -/
def Write.operation : Write → Operation Unit
  | sessionPut s => .sessionPut s
  | sessionDelete id => .sessionDelete id
  | instancePut i => .instancePut i
  | instanceDelete name => .instanceDelete name

/-- A command or a transaction, and the client that it came from. -/
structure Heard (ι : Type) where
  client : ι
  commands : List Command
deriving DecidableEq

/-- A server and its clients. -/
structure Shared (ι : Type) where
  server : Server
  /-- What each client has still to say. -/
  dialogues : ι → Dialogue (Outcome Unit)
  /-- What the server has heard, the latest first. -/
  history : List (Heard ι)

/-- What happens next. -/
inductive Move (ι : Type) where
  /-- A client that has nothing left to say begins an operation. -/
  | start (client : ι) (w : Write)
  /-- The server hears what a client says next. -/
  | exchange (client : ι)

namespace Shared

variable {ι : Type} [DecidableEq ι]

/-- Nothing is held and nothing is in progress. The server will name members in these orders. -/
def initial (orders : Nat → Listing) : Shared ι := ⟨.new orders, fun _ => .done (.ok ()), []⟩

/-- Makes a move. -/
def step (s : Shared ι) : Move ι → Shared ι
  | .start client w =>
    if (s.dialogues client).isDone then
      { s with dialogues := Function.update s.dialogues client (Keyed.dialogue w.operation) }
    else s
  | .exchange client =>
    if (s.dialogues client).isDone then s
    else
      let exchanged := (s.dialogues client).exchange s.server
      ⟨exchanged.2, Function.update s.dialogues client exchanged.1,
        ⟨client, (s.dialogues client).commands⟩ :: s.history⟩

/-- The state after some moves, from nothing. -/
def after (orders : Nat → Listing) (moves : List (Move ι)) : Shared ι :=
  moves.foldl step (initial orders)

/-- No operation is in progress. -/
def IsIdle (s : Shared ι) : Prop :=
  ∀ client, (s.dialogues client).isDone = true

end Shared

/-! ## One owner for each instance -/

/-- A write of plain sessions that gives an instance to none but its owner. -/
def Write.Respects (owner : String → String) (w : Write) : Prop :=
  w.operation.IsPlain ∧ ∀ i, w = .instancePut i → i.sessionId = owner i.name

/-- Records give an instance to none but its owner, and indexes name records of theirs only. -/
structure Holdings.IsOwned (owner : String → String) (h : Holdings) : Prop where
  record : AllAt (fun name (i : Instance) => i.sessionId = owner name) h.tables.instances
  index : ∀ sessionId name, name ∈ h.index sessionId →
    ∃ i : Instance, h.tables.instances[name]? = some i ∧ i.sessionId = sessionId

/-- Commands that change nothing. -/
def OnlyRead (cs : List Command) : Prop :=
  ∀ c ∈ cs, (∃ key, c = .get key) ∨ ∃ key, c = .members key

/-- What an exchange does to the holdings. Whoever removes a session has been `told` its names. -/
inductive Change (owner : String → String) (told : String → List String → Prop) (h : Holdings) :
    List Command → Holdings → Prop where
  | reading {cs : List Command} (only : OnlyRead cs) : Change owner told h cs h
  | putSession {s : Session} (plain : Plain s.id) :
    Change owner told h [.set (Key.ofSession s.id) (Session.format.write s),
      .addMember Key.sessionIds s.id] (h.putSession s)
  | putInstance {i : Instance} (plain : Plain i.sessionId) (own : i.sessionId = owner i.name) :
    Change owner told h [.set (Key.ofInstance i.name) (Instance.format.write i),
      .addMember (Key.instancesOf i.sessionId) i.name] (h.putInstance i)
  | dropInstance (name : String) :
    Change owner told h [.delete (Key.ofInstance name),
      .removeMember (Key.instancesOf (owner name)) name] (h.dropInstance name (owner name))
  | dropSession {id : String} {names : List String} (plain : Plain id)
    (own : ∀ name ∈ names, owner name = id) (known : told id names) :
    Change owner told h (Keyed.sessionRemoval id names) (h.dropSession id names)

/-- What a client may have still to say. Two operations begin with a reading, and go on with the
names or the session that they were told. -/
inductive Underway (owner : String → String) (told : String → List String → Prop) :
    Dialogue (Outcome Unit) → Prop where
  | done (o : Outcome Unit) : Underway owner told (.done o)
  | starting {w : Write} (respects : w.Respects owner) :
    Underway owner told (Keyed.dialogue w.operation)
  | removing {id : String} {names : List String} (plain : Plain id)
    (own : ∀ name ∈ names, owner name = id) (known : told id names) :
    Underway owner told (Keyed.transact (Keyed.sessionRemoval id names))
  | dropping (name : String) :
    Underway owner told (Keyed.transact [.delete (Key.ofInstance name),
      .removeMember (Key.instancesOf (owner name)) name])

variable {owner : String → String} {told told' : String → List String → Prop} {h h' : Holdings}
  {s : Server} {cs : List Command}

theorem Holdings.isOwned_empty : empty.IsOwned owner := by
  refine ⟨all_empty, ?_⟩
  intro sessionId name named
  exact absurd named ExtTreeSet.not_mem_empty

/-- A name is in the index of its owner only. -/
theorem Holdings.IsOwned.owner_eq (owned : h.IsOwned owner) {sessionId name : String}
    (named : name ∈ h.index sessionId) : owner name = sessionId := by
  obtain ⟨i, found, same⟩ := owned.index sessionId name named
  exact (owned.record name i found).symm.trans same

/-- To get a record only reads. -/
theorem onlyRead_get (key : String) : OnlyRead [.get key] := by
  intro c h
  cases List.mem_singleton.mp h
  exact .inl ⟨key, rfl⟩

/-- To ask for members only reads. -/
theorem onlyRead_members (key : String) : OnlyRead [.members key] := by
  intro c h
  cases List.mem_singleton.mp h
  exact .inr ⟨key, rfl⟩

/-! ## What a change leaves -/

/-- A change leaves the tables tidy. -/
theorem Change.isTidy (change : Change owner told h cs h') (tidy : h.tables.IsTidy) :
    h'.tables.IsTidy := by
  cases change with
  | reading => exact tidy
  | putSession plain => exact Holdings.isTidy_putSession tidy plain
  | putInstance plain => exact Holdings.isTidy_putInstance tidy plain
  | dropInstance name => exact Holdings.isTidy_dropInstance tidy name _
  | dropSession => exact Holdings.isTidy_dropSession tidy _ _

/-- A change gives no instance to another owner, and removes no record that an index still names. -/
theorem Change.isOwned (change : Change owner told h cs h') (owned : h.IsOwned owner) :
    h'.IsOwned owner := by
  cases change with
  | reading => exact owned
  | putSession => exact ⟨owned.record, owned.index⟩
  | @putInstance i plain own =>
      refine ⟨owned.record.insert own, ?_⟩
      intro sessionId name named
      rw [Holdings.getElem?_putInstance]
      rcases (h.mem_index_putInstance i).mp named with ⟨same, here⟩ | before
      · exact ⟨i, if_pos here, same⟩
      · by_cases here : i.name = name
        · subst here
          exact ⟨i, if_pos rfl, own.trans (owned.owner_eq before)⟩
        · rw [if_neg here]
          exact owned.index sessionId name before
  | dropInstance gone =>
      refine ⟨owned.record.erase gone, ?_⟩
      intro sessionId name named
      obtain ⟨before, other⟩ := h.mem_index_dropInstance.mp named
      rw [Holdings.getElem?_dropInstance, if_neg]
      · exact owned.index sessionId name before
      · rintro rfl
        -- The name has been taken out of the only index that had it.
        exact other ⟨owned.owner_eq before, rfl⟩
  | @dropSession id names plain own =>
      refine ⟨owned.record.filter _, ?_⟩
      intro sessionId name named
      obtain ⟨before, other⟩ := h.mem_index_dropSession.mp named
      rw [Holdings.getElem?_dropSession, if_neg]
      · exact owned.index sessionId name before
      · intro gone
        -- Only the removed session owns what is removed, and its index is gone.
        exact other ((own name gone).symm.trans (owned.owner_eq before))

/-! ## An exchange is a change -/

/-- An operation that is underway stays so when more is told. -/
theorem Underway.mono {d : Dialogue (Outcome Unit)} (underway : Underway owner told d)
    (more : ∀ id names, told id names → told' id names) : Underway owner told' d := by
  cases underway with
  | done o => exact .done o
  | starting respects => exact .starting respects
  | removing plain own known => exact .removing plain own (more _ _ known)
  | dropping name => exact .dropping name

/-- A transaction is one exchange, and then nothing is left to say. -/
theorem exchange_transact {v w : View} (quiet : s.IsQuiet) (shows : Shows s.entries v)
    (commits : Commits cs v w) :
    ∃ s', (Keyed.transact cs).exchange s = (.done (.ok ()), s') ∧ s'.IsQuiet ∧
      Shows s'.entries w := by
  obtain ⟨replies, s', answered, accepted, after⟩ :=
    Server.transact_of_commits quiet shows commits
  refine ⟨s', ?_, after⟩
  simp only [Keyed.transact, Dialogue.exchange, answered, accepted]

/-- A reading is one exchange, and leaves the holdings. -/
theorem exchange_send {c : Command} {r : Reply} {next : Reply → Dialogue (Outcome Unit)}
    (keeps : Keeps s h) (reads : KeySpace.run (s.orders 0) c s.entries = (r, s.entries)) :
    ∃ s', (Dialogue.send c next).exchange s = (next r, s') ∧ Keeps s' h := by
  refine ⟨(s.exec c).2, ?_, ?_⟩
  · rw [Dialogue.exchange, Server.exec_of_isQuiet keeps.quiet reads]
  · rw [Server.exec_of_isQuiet keeps.quiet reads]
    exact ⟨keeps.quiet, keeps.tidy, keeps.shows⟩

/-- A client that removes a session is told the names in its index first, in some order. -/
theorem exchange_sessionDelete (keeps : Keeps s h) (id : String) :
    ∃ names s', names.Perm (h.index id).toList ∧
      (Keyed.dialogue (.sessionDelete id)).exchange s
        = (Keyed.transact (Keyed.sessionRemoval id names), s') ∧ Keeps s' h := by
  have reads := keeps.shows.run_members (s.orders 0) (p := .instances id) (s := h.index id) rfl
  obtain ⟨s', exchanged, keeps'⟩ := exchange_send keeps reads
  exact ⟨_, s', (s.orders 0).perm _, exchanged, keeps'⟩

/-- A client that removes an instance reads first which session the record has. -/
theorem exchange_instanceDelete (keeps : Keeps s h) (name : String) :
    ∃ s', (Keyed.dialogue (.instanceDelete name)).exchange s
        = (match h.tables.instances[name]? with
          | none => .done (.ok ())
          | some i => Keyed.transact [.delete (Key.ofInstance name),
              .removeMember (Key.instancesOf i.sessionId) name], s') ∧ Keeps s' h := by
  have reads := keeps.shows.run_get (s.orders 0) (.instance name)
  obtain ⟨s', exchanged, keeps'⟩ := exchange_send keeps reads
  refine ⟨s', exchanged.trans (congrArg (·, s') ?_), keeps'⟩
  rw [Holdings.view]
  cases h.tables.instances[name]? with
  | none => rfl
  | some i =>
      simp only [Option.map_some, Instance.faithful_format.read_write]
      rfl

/-- Every exchange of what a client may have to say is a change. The names that it is told, if any,
are those of the index at that time. -/
theorem Underway.exchange {d : Dialogue (Outcome Unit)} (underway : Underway owner told d)
    (keeps : Keeps s h) (owned : h.IsOwned owner) :
    ∃ h', Change owner told h d.commands h' ∧ Keeps (d.exchange s).2 h' ∧
      Underway owner (fun id names => names.Perm (h'.index id).toList) (d.exchange s).1 := by
  -- A transaction is over at once; only what it does differs.
  have transacts : ∀ {cs : List Command} {h'}, Change owner told h cs h' →
      Commits cs h.view h'.view →
      ∃ h', Change owner told h cs h' ∧ Keeps ((Keyed.transact cs).exchange s).2 h' ∧
        Underway owner (fun id names => names.Perm (h'.index id).toList)
          ((Keyed.transact cs).exchange s).1 := by
    intro cs h' change commits
    obtain ⟨s', exchanged, quiet, shows⟩ := exchange_transact keeps.quiet keeps.shows commits
    rw [exchanged]
    exact ⟨h', change, ⟨quiet, change.isTidy keeps.tidy, shows⟩, .done _⟩
  cases underway with
  | done o => exact ⟨h, .reading (fun _ h => nomatch h), keeps, .done o⟩
  | removing plain own known =>
      exact transacts (.dropSession plain own known) (h.commits_dropSession plain _)
  | dropping name => exact transacts (.dropInstance name) (h.commits_dropInstance name _)
  | @starting w respects =>
      obtain ⟨plain, own⟩ := respects
      cases w with
      | sessionPut s =>
          have plain := plain s.id rfl
          exact transacts (.putSession plain) (h.commits_putSession plain)
      | instancePut i =>
          exact transacts (.putInstance (plain i.sessionId rfl) (own i rfl))
            (h.commits_putInstance i)
      | sessionDelete id =>
          obtain ⟨names, s', told, exchanged, keeps'⟩ := exchange_sessionDelete keeps id
          refine ⟨h, .reading (onlyRead_members _), exchanged ▸ keeps', exchanged ▸ ?_⟩
          refine .removing (plain id rfl) ?_ told
          intro name named
          exact owned.owner_eq (ExtTreeSet.mem_toList.mp (told.mem_iff.mp named))
      | instanceDelete name =>
          obtain ⟨s', exchanged, keeps'⟩ := exchange_instanceDelete keeps name
          refine ⟨h, .reading (onlyRead_get _), exchanged ▸ keeps', exchanged ▸ ?_⟩
          cases record : h.tables.instances[name]? with
          | none => exact .done (.ok ())
          | some i =>
              have own : i.sessionId = owner name := owned.record name i record
              simp only [own]
              exact .dropping name

end Playgrounds.Store
