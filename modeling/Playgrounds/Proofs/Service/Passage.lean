import Playgrounds.Proofs.Service.Stream

/-!
# What passes through a terminal

A client is sent what the terminal's subscription delivers for its session, and what it sends is
announced for the instance of that session.

* `passedOn`, `input?` — the frames that a client is to see, and the input that a frame stands for.
* `Stream.Follows` — the invariant of the subscription: what it delivered is what the bus gave it.
* `Stream.Tells`, `Stream.Hears` — the invariant of the connection.
* `Stream.Keeps.step`, `Stream.keeps_run` — one happening keeps it, and so do all.
-/

namespace Playgrounds

/-- The events among some deliveries. -/
def eventsOf (heard : List EventDelivery) : List Event :=
  heard.filterMap fun
    | .event e => some e
    | _ => none

/-- The frames in which a client is to see what was delivered: the events of its session. -/
def passedOn (t : TerminalTarget) (heard : List EventDelivery) : List String :=
  ((eventsOf heard).filter (·.id = t.sessionId)).map Event.format.write

/-- The input that a frame stands for. -/
def input? (t : TerminalTarget) : Frame → Option Event
  | .text data => some ⟨.terminalInput, t.sessionId, [t.instanceName, data]⟩
  | .binary b => some ⟨.terminalInput, t.sessionId, [t.instanceName, Text.lossy b]⟩
  | .ping | .pong | .close => none

/-- The frames that an action sends. -/
def Terminal.Action.frames : Terminal.Action → List String
  | .send s => [s]
  | .announce _ | .ignore | .detach => []

/-- A frame is announced if it stands for input, and else ignored, or the last one. -/
theorem onFrame_cases (t : TerminalTarget) (f : Frame) :
    (∃ e, Terminal.onFrame t f = .announce e ∧ input? t f = some e ∧ e.kind = .terminalInput) ∨
      (Terminal.onFrame t f = .ignore ∧ input? t f = none) ∨
      (Terminal.onFrame t f = .detach ∧ input? t f = none) := by
  cases f with
  | text data => exact .inl ⟨_, rfl, rfl, rfl⟩
  | binary b => exact .inl ⟨_, rfl, rfl, rfl⟩
  | ping | pong => exact .inr (.inl ⟨rfl, rfl⟩)
  | close => exact .inr (.inr ⟨rfl, rfl⟩)

theorem eventsOf_concat (heard : List EventDelivery) (d : EventDelivery) :
    eventsOf (heard ++ [d]) = eventsOf heard ++ eventsOf [d] :=
  List.filterMap_append

theorem passedOn_concat (t : TerminalTarget) (heard : List EventDelivery) (d : EventDelivery) :
    passedOn t (heard ++ [d]) = passedOn t heard ++ passedOn t [d] := by
  simp only [passedOn, eventsOf_concat, List.filter_append, List.map_append]

/-- A receipt is passed on as the terminal deals with it. -/
theorem passedOn_singleton (t : TerminalTarget) (d : EventDelivery) :
    passedOn t [d] = (Terminal.onDelivery t d).frames := by
  cases d with
  | event e =>
      by_cases own : e.id = t.sessionId
      · simp [passedOn, eventsOf, Terminal.onDelivery, Terminal.Action.frames, own]
      · simp [passedOn, eventsOf, Terminal.onDelivery, Terminal.Action.frames, own]
  | unreadable | lagged | nothing | closed => rfl

/-- The event that is posted, if it is one. -/
def Posting.event? : Posting → Option Event
  | .event e => some e
  | .raw _ _ => none

/-- If only events are posted, then the events that are delivered are those among the receipts. -/
theorem eventsOf_receipts {rs : List (Received Posting)}
    (events : ∀ p ∈ Bus.postingsOf rs, ∃ e, p = .event e) :
    eventsOf (rs.map Received.eventDelivery)
      = (Bus.postingsOf rs).filterMap Posting.event? := by
  induction rs with
  | nil => rfl
  | cons r rs ih =>
      cases r with
      | message p =>
          obtain ⟨e, rfl⟩ := events p List.mem_cons_self
          exact congrArg (e :: ·) (ih fun q h => events q (List.mem_cons_of_mem _ h))
      | lagged count => exact ih events
      | nothing => exact ih events

namespace Service

namespace Stream

/-- The events of a kind that were announced while the terminal was subscribed. -/
def posted (w : Stream) (kind : EventKind) : List Event :=
  (Bus.postings kind.topic w.deeds).filterMap Posting.event?

/-- The topic of the countdowns. -/
abbrev topic : String := EventKind.sessionTimer.topic

/-! ## The subscription -/

/-- The subscription of the terminal began on the bus `b`, and has delivered what the bus gave it
since. If `near` then it has never been further behind than a channel keeps. -/
structure Follows (near : Prop) (w : Stream) (id : SubscriptionId) (b : Bus) : Prop where
  sound : b.Sound
  awaits : b.Awaits id topic []
  stays : .unsubscribe id ∉ w.deeds
  events : ∀ p, .post p ∈ w.deeds → ∃ e, p = .event e
  heard : w.heard = (Bus.received id b w.deeds).map Bus.readDelivery
  near : near → ∀ n, ((w.deeds.take n).foldl Bus.step b).pending id ≤ Channel.capacity

namespace Follows

variable {near near' : Prop} {w w' : Stream} {id : SubscriptionId} {b : Bus}

/-- What follows the bus still does where nothing more is done to it. -/
theorem mono (f : Follows near w id b) (closer : near' → near) (deeds : w'.deeds = w.deeds)
    (heard : w'.heard = w.heard) : Follows near' w' id b where
  sound := f.sound
  awaits := f.awaits
  stays := by
    rw [deeds]
    exact f.stays
  events := by
    rw [deeds]
    exact f.events
  heard := by
    rw [heard, deeds]
    exact f.heard
  near := by
    rw [deeds]
    exact fun h => f.near (closer h)

/-- One more deed. -/
theorem concat (f : Follows near w id b) {d : Bus.Deed} (stays : d ≠ .unsubscribe id)
    (event : ∀ p, d = .post p → ∃ e, p = .event e) (deeds : w'.deeds = w.deeds ++ [d])
    (heard : w'.heard = w.heard
      ++ (((w.deeds.foldl Bus.step b).received? id d).toList).map Bus.readDelivery)
    (closer : near' → near ∧ ((w.deeds.foldl Bus.step b).step d).pending id ≤ Channel.capacity) :
    Follows near' w' id b where
  sound := f.sound
  awaits := f.awaits
  stays := by
    rw [deeds, List.mem_append, List.mem_singleton]
    rintro (h | same)
    · exact f.stays h
    · exact stays same.symm
  events := by
    rw [deeds]
    intro p h
    rcases List.mem_append.mp h with h | h
    · exact f.events p h
    · exact event p (List.mem_singleton.mp h).symm
  heard := by rw [heard, deeds, Bus.received_concat, List.map_append, f.heard]
  near := by
    intro h n
    obtain ⟨near, last⟩ := closer h
    rw [deeds]
    -- Every moment but the last is one of those before.
    by_cases within : n ≤ w.deeds.length
    · rw [List.take_append_of_le_length within]
      exact f.near near n
    · rw [List.take_of_length_le (by simp; omega), List.foldl_append]
      exact last

/-- What was posted on the topic are countdowns, of which some have been given to the subscription
and the others are still ahead. The deliveries stand for the former. -/
theorem exists_taken (f : Follows near w id b) : ∃ taken ahead,
    Bus.postings topic w.deeds = taken ++ ahead ∧
      (∀ p ∈ taken ++ ahead, ∃ e : Event, p = .event e ∧ e.kind = .sessionTimer) ∧
      (w.deeds.foldl Bus.step b).Awaits id topic ahead ∧
      w.heard = (Bus.receipts id topic [] w.deeds).map Received.eventDelivery ∧
      Bus.Accounts (Bus.receipts id topic [] w.deeds) taken := by
  obtain ⟨taken, ahead, split, awaiting, heard, accounts⟩ := f.awaits.exists_taken f.sound f.stays
  refine ⟨taken, ahead, split, ?_, awaiting, f.heard.trans heard, accounts⟩
  rw [← split]
  intro p posted
  obtain ⟨here, own⟩ := Bus.mem_postings.mp posted
  obtain ⟨e, rfl⟩ := f.events p here
  exact ⟨e, rfl, EventKind.topic_injective own⟩

/-- What the subscription would deliver next is a countdown, or that some were lost. -/
theorem receive_fst (f : Follows near w id b) :
    (∃ e : Event, ((w.deeds.foldl Bus.step b).receiveEvent id).1 = .event e) ∨
      (∃ count, ((w.deeds.foldl Bus.step b).receiveEvent id).1 = .lagged count) ∨
      ((w.deeds.foldl Bus.step b).receiveEvent id).1 = .nothing := by
  obtain ⟨taken, ahead, -, countdown, awaiting, -, -⟩ := f.exists_taken
  rw [awaiting.receiveEvent_fst (f.sound.foldl _).isOpen]
  cases next : Received.next ahead with
  | message p =>
      have here := Received.mem_of_next_eq_message next
      obtain ⟨e, rfl, -⟩ := countdown p (List.mem_append_right _ here)
      exact .inl ⟨e, rfl⟩
  | lagged count => exact .inr (.inl ⟨count, rfl⟩)
  | nothing => exact .inr (.inr rfl)

/-- The events that were delivered are those postings that were not lost. -/
theorem eventsOf_heard (f : Follows near w id b) : eventsOf w.heard
    = (Bus.postingsOf (Bus.receipts id topic [] w.deeds)).filterMap Posting.event? := by
  obtain ⟨taken, ahead, -, countdown, -, heard, accounts⟩ := f.exists_taken
  rw [heard]
  refine eventsOf_receipts fun p told => ?_
  obtain ⟨e, rfl, -⟩ := countdown p (List.mem_append_left _ (accounts.sublist.subset told))
  exact ⟨e, rfl⟩

/-- The countdowns that were delivered were posted in this order. -/
theorem sublist (f : Follows near w id b) :
    (eventsOf w.heard).Sublist (w.posted .sessionTimer) := by
  obtain ⟨taken, ahead, split, -, -, -, accounts⟩ := f.exists_taken
  rw [f.eventsOf_heard, posted]
  refine List.Sublist.filterMap _ (accounts.sublist.trans ?_)
  rw [show Bus.postings EventKind.sessionTimer.topic w.deeds = taken ++ ahead from split]
  exact List.sublist_append_left taken ahead

/-- None is lost to a subscription that is never too far behind. -/
theorem complete (f : Follows near w id b) (close : near) :
    ∃ ahead, w.posted .sessionTimer = eventsOf w.heard ++ ahead ∧
      ahead.length = (w.deeds.foldl Bus.step b).pending id := by
  obtain ⟨taken, ahead, split, countdown, awaiting, -, accounts⟩ := f.exists_taken
  have kept := f.awaits.lagged_notMem f.sound f.stays (f.near close)
  have events : (ahead.filterMap Posting.event?).length = ahead.length := by
    refine List.filterMap_length_eq_length.mpr fun p here => ?_
    obtain ⟨e, rfl, -⟩ := countdown p (List.mem_append_right _ here)
    rfl
  refine ⟨ahead.filterMap Posting.event?, ?_, by rw [events, awaiting.pending_eq]⟩
  rw [f.eventsOf_heard, accounts.eq_of_kept kept, ← List.filterMap_append, ← split]
  rfl

end Follows

/-! ## The connection -/

/-- What the terminal has done for a client of this target. -/
structure Tells (t : TerminalTarget) (w : Stream) (c : Connection) : Prop where
  found : w.connection? = some c
  target : c.target = t
  frames : c.outgoing.reverse = passedOn t w.heard
  announced : w.announced = w.taken.filterMap (input? t)
  posted : w.announced.Sublist (w.posted .terminalInput)
  others : (w.posted .terminalInput).Perm
    (w.announced ++ w.others.filter (·.kind = .terminalInput))
  sent : c.isOver = false → w.sent = w.taken ++ c.incoming
  taken : w.taken <+: w.sent

/-- What the terminal has heard: nothing before it subscribed, and then what its subscription
delivered, which stands on the bus as long as the terminal has not ended. -/
inductive Hears (near : Prop) (w : Stream) (c : Connection) : Prop where
  | before (subscription : c.subscription = none) (heard : w.heard = []) (deeds : w.deeds = [])
    (sound : c.isOver = false → w.service.bus.Sound)
  | since {id : SubscriptionId} {b : Bus} (subscription : c.subscription = some id)
    (follows : Follows near w id b)
    (bus : c.isOver = false → w.service.bus = w.deeds.foldl Bus.step b)

/-- The invariant of a terminal of this target. -/
def Keeps (t : TerminalTarget) (near : Prop) (w : Stream) : Prop :=
  ∃ c, Tells t w c ∧ Hears near w c

section

variable {t : TerminalTarget} {near near' : Prop} {w w' : Stream} {c c' : Connection}
  {id : SubscriptionId}

/-- A terminal that is subscribed follows the bus from some moment on. -/
theorem Hears.exists_follows (hears : Hears near w c) (goesOn : c.isOver = false)
    (subscribed : c.subscription = some id) :
    ∃ b, Follows near w id b ∧ w.service.bus = w.deeds.foldl Bus.step b := by
  cases hears with
  | before none => exact nomatch none.symm.trans subscribed
  | since same follows reached =>
      cases same.symm.trans subscribed
      exact ⟨_, follows, reached goesOn⟩

/-- A terminal that is not subscribed has heard nothing yet. -/
theorem Hears.nothing (hears : Hears near w c) (goesOn : c.isOver = false)
    (unsubscribed : c.subscription = none) :
    w.heard = [] ∧ w.deeds = [] ∧ w.service.bus.Sound := by
  cases hears with
  | before _ nothing undone sound => exact ⟨nothing, undone, sound goesOn⟩
  | since some => exact nomatch unsubscribed.symm.trans some

/-- What was heard stays so if nothing is done to the bus. -/
theorem Hears.mono (hears : Hears near w c) (subscription : c'.subscription = c.subscription)
    (heard : w'.heard = w.heard) (deeds : w'.deeds = w.deeds)
    (bus : c'.isOver = false → c.isOver = false ∧ w'.service.bus = w.service.bus)
    (closer : near' → near) : Hears near' w' c' := by
  cases hears with
  | before none nothing undone sound =>
      refine .before (subscription.trans none) (heard.trans nothing) (deeds.trans undone) ?_
      intro goesOn
      obtain ⟨before, same⟩ := bus goesOn
      rw [same]
      exact sound before
  | since subscribed follows reached =>
      refine .since (subscription.trans subscribed) (follows.mono closer deeds heard) ?_
      intro goesOn
      obtain ⟨before, same⟩ := bus goesOn
      rw [same, deeds]
      exact reached before

/-- One more deed is done to the bus, and the subscription hears what it delivers by that. -/
theorem Hears.concat (hears : Hears near w c) (goesOn : c.isOver = false)
    (subscribed : c.subscription = some id) {d : Bus.Deed} (stays : d ≠ .unsubscribe id)
    (event : ∀ p, d = .post p → ∃ e, p = .event e) (found : w'.connection? = some c')
    (subscription : c'.subscription = c.subscription)
    (bus : w'.service.bus = w.service.bus.step d) (deeds : w'.deeds = w.deeds ++ [d])
    (heard : w'.heard
      = w.heard ++ ((w.service.bus.received? id d).toList).map Bus.readDelivery)
    (closer : near' → near ∧ w'.behind ≤ Channel.capacity) : Hears near' w' c' := by
  obtain ⟨b, follows, reached⟩ := hears.exists_follows goesOn subscribed
  rw [behind_eq found (subscription.trans subscribed), bus, reached] at closer
  rw [reached] at heard bus
  refine .since (subscription.trans subscribed)
    (follows.concat stays event deeds heard closer) fun _ => ?_
  rw [bus, deeds, List.foldl_append]
  rfl

/-! ## What may happen -/

/-- An event that comes last is one's own. -/
theorem perm_append_own {posted own others : List Event} (all : posted.Perm (own ++ others))
    (e : Event) : (posted ++ [e]).Perm (own ++ [e] ++ others) := by
  refine (all.append_right [e]).trans ?_
  rw [List.append_assoc, List.append_assoc]
  exact List.perm_append_comm.append_left own

/-- One more deed announces an event or none. -/
theorem posted_concat {k : EventKind} {d : Bus.Deed} (deeds : w'.deeds = w.deeds ++ [d]) :
    w'.posted k = w.posted k ++ d.announced.filter (·.kind = k) := by
  -- Only an event that was posted under its own kind is counted, and each kind has its own topic.
  have last : (Bus.postings k.topic [d]).filterMap Posting.event?
      = d.announced.filter (·.kind = k) := by
    cases d with
    | subscribe | receive | unsubscribe => rfl
    | post p =>
        cases p with
        | raw topic payload =>
            by_cases own : topic = k.topic
            · simp [Bus.postings, Posting.topic, own, Posting.event?, Bus.Deed.announced]
            · simp [Bus.postings, Posting.topic, own, Bus.Deed.announced]
        | event e =>
            by_cases own : e.kind = k
            · simp [Bus.postings, Posting.topic, own, Posting.event?, Bus.Deed.announced]
            · have apart : e.kind.topic ≠ k.topic := fun same =>
                own (EventKind.topic_injective same)
              simp [Bus.postings, Posting.topic, own, apart, Bus.Deed.announced]
  rw [posted, deeds, Bus.postings, List.filterMap_append, List.filterMap_append, ← last]
  rfl

/-- What others do is theirs. -/
theorem Tells.bystand (tells : Tells t w c) (d : Bus.Deed) : Tells t (w.bystand d) c := by
  -- What others do counts only while the terminal is subscribed.
  obtain ⟨others, deeds⟩ | ⟨others, deeds⟩ :
      ((w.bystand d).others = w.others ∧ (w.bystand d).deeds = w.deeds) ∨
      ((w.bystand d).others = w.others ++ d.announced ∧
        (w.bystand d).deeds = w.deeds ++ [d]) := by
    rw [Stream.bystand]
    split
    · exact .inr ⟨rfl, rfl⟩
    · exact .inl ⟨rfl, rfl⟩
  · have same : (w.bystand d).posted .terminalInput = w.posted .terminalInput := by
      rw [Stream.posted, deeds]
      rfl
    exact ⟨tells.found, tells.target, tells.frames, tells.announced, same ▸ tells.posted,
      by rw [same, others]; exact tells.others, tells.sent, tells.taken⟩
  · have more := posted_concat (k := .terminalInput) deeds
    refine ⟨tells.found, tells.target, tells.frames, tells.announced, ?_, ?_, tells.sent,
      tells.taken⟩
    · rw [more]
      exact tells.posted.trans (List.sublist_append_left _ _)
    · rw [more, others, List.filter_append, ← List.append_assoc]
      exact tells.others.append_right _

/-- The connection has been changed. -/
theorem connection?_insert (w : Stream) (s : Service) (c : Connection) :
    connection? { w with service := { s with connections := s.connections.insert w.id c } }
      = some c :=
  Std.ExtTreeMap.getElem?_insert_self

/-- Nothing happens that the terminal has to do with. -/
theorem Keeps.mono (keeps : Keeps t near w) (closer : near' → near) : Keeps t near' w := by
  obtain ⟨c, tells, hears⟩ := keeps
  exact ⟨c, tells, hears.mono rfl rfl rfl (fun goesOn => ⟨goesOn, rfl⟩) closer⟩

/-- Others do something to the bus. -/
theorem Keeps.bystand (keeps : Keeps t near w) {d : Bus.Deed}
    (other : ∀ id, w.subscription? = some id → d ≠ .unsubscribe id ∧ d ≠ .receive id)
    (event : ∀ p, d = .post p → ∃ e, p = .event e)
    (closer : near' → near ∧ (w.bystand d).behind ≤ Channel.capacity) :
    Keeps t near' (w.bystand d) := by
  obtain ⟨c, tells, hears⟩ := keeps
  refine ⟨c, tells.bystand d, ?_⟩
  cases isOver : c.isOver with
  | true =>
      -- A terminal that has ended is subscribed to nothing.
      have gone := attached?_of_isOver tells.found isOver
      refine hears.mono rfl rfl ?_ (fun goesOn => Bool.noConfusion (isOver.symm.trans goesOn))
        fun h => (closer h).1
      rw [Stream.bystand, gone]
      rfl
  | false =>
      have attached := attached?_eq tells.found isOver
      cases subscribed : c.subscription with
      | none =>
          rw [subscribed] at attached
          obtain ⟨nothing, undone, sound⟩ := hears.nothing isOver subscribed
          refine .before subscribed nothing ?_ fun _ => sound.step d
          rw [Stream.bystand, attached]
          exact undone
      | some id =>
          rw [subscribed] at attached
          have own : w.subscription? = some id := by
            rw [subscription?, tells.found]
            exact subscribed
          obtain ⟨stays, unheard⟩ := other id own
          refine hears.concat isOver subscribed stays event tells.found rfl rfl ?_ ?_ closer
          · rw [Stream.bystand, attached]
            rfl
          -- Nobody else receives for this subscription.
          · have received : w.service.bus.received? id d = none := by
              cases d with
              | receive other => exact if_neg fun same => unheard (congrArg _ same)
              | subscribe | post | unsubscribe => rfl
            rw [received]
            exact (List.append_nil _).symm

/-- The client sends a frame. -/
theorem Keeps.send (tells : Tells t w c) (hears : Hears near w c) (goesOn : c.isOver = false)
    (f : Frame) (closer : near' → near) :
    Keeps t near' { w with service := w.service.send w.id f, sent := w.sent ++ [f] } := by
  have sent : w.service.send w.id f = { w.service with
      connections :=
        w.service.connections.insert w.id { c with incoming := c.incoming ++ [f] } } := by
    have found : w.service.connections[w.id]? = some c := tells.found
    simp only [Service.send, found]
  rw [sent]
  refine ⟨{ c with incoming := c.incoming ++ [f] }, ⟨connection?_insert w w.service _,
    tells.target, tells.frames, tells.announced, tells.posted, tells.others, fun _ => ?_,
    tells.taken.trans (List.prefix_append _ _)⟩,
    hears.mono rfl rfl rfl (fun _ => ⟨goesOn, rfl⟩) closer⟩
  show w.sent ++ [f] = w.taken ++ (c.incoming ++ [f])
  rw [tells.sent goesOn, List.append_assoc]

/-- The terminal ends. -/
theorem Keeps.lose (tells : Tells t w c) (hears : Hears near w c) (s : Service)
    (closer : near' → near) : Keeps t near' { w with service := s.endTerminal w.id c } := by
  refine ⟨{ c with isOver := true, incoming := [] }, ⟨Std.ExtTreeMap.getElem?_insert_self,
    tells.target, tells.frames, tells.announced, tells.posted, tells.others,
    (fun goesOn => nomatch goesOn), tells.taken⟩,
    hears.mono rfl rfl rfl (fun goesOn => nomatch goesOn) closer⟩

/-- The terminal subscribes to the countdowns. -/
theorem Keeps.attach (tells : Tells t w c) (hears : Hears near w c) (goesOn : c.isOver = false)
    (unsubscribed : c.subscription = none) :
    Keeps t near' { w with service := w.service.terminalStep w.id c } := by
  have begun : w.service.terminalStep w.id c = { w.service with
      bus := (w.service.bus.subscribe topic).2
      connections := w.service.connections.insert w.id
        { c with subscription := some w.service.bus.nextId } } := by
    rw [terminalStep, unsubscribed]
    rfl
  -- The subscription begins here, so all that is told of it begins with nothing.
  obtain ⟨nothing, undone, sound⟩ := hears.nothing goesOn unsubscribed
  have awaits := sound.awaits_subscribe topic
  rw [begun]
  refine ⟨{ c with subscription := some w.service.bus.nextId }, ⟨connection?_insert w _ _,
    tells.target, tells.frames, tells.announced, tells.posted, tells.others, tells.sent,
    tells.taken⟩, .since (b := (w.service.bus.subscribe topic).2) rfl
      ⟨sound.step (.subscribe topic), awaits, ?_, ?_, ?_, ?_⟩ ?_⟩
  · show _ ∉ w.deeds
    rw [undone]
    exact List.not_mem_nil
  · show ∀ p, .post p ∈ w.deeds → _
    rw [undone]
    exact fun _ h => absurd h List.not_mem_nil
  · show w.heard = (Bus.received _ _ w.deeds).map _
    rw [nothing, undone]
    rfl
  · show _ → ∀ n, ((w.deeds.take n).foldl Bus.step _).pending _ ≤ _
    rw [undone]
    intro _ n
    rw [List.take_nil, List.foldl_nil, awaits.pending_eq]
    exact Nat.zero_le _
  · show _ → _ = w.deeds.foldl Bus.step _
    rw [undone]
    exact fun _ => rfl

/-- What a terminal of a subscription that stands does about what it hears. -/
theorem Follows.onDelivery {b : Bus} (f : Follows near w id b) (t : TerminalTarget) :
    let action := Terminal.onDelivery t ((w.deeds.foldl Bus.step b).receiveEvent id).1
    (∃ frame, action = .send frame) ∨ action = .ignore := by
  intro action
  obtain ⟨e, event⟩ | ⟨count, lagged⟩ | nothing := f.receive_fst
  · simp only [action, event, Terminal.onDelivery]
    split
    · exact .inl ⟨_, rfl⟩
    · exact .inr rfl
  · exact .inr (by simp only [action, lagged, Terminal.onDelivery])
  · exact .inr (by simp only [action, nothing, Terminal.onDelivery])

/-- The terminal has heard something and goes on, having sent what there was to send. -/
theorem Keeps.passOn (tells : Tells t w c) (hears : Hears near w c) (goesOn : c.isOver = false)
    (subscribed : c.subscription = some id) (outgoing : List String)
    (sent : outgoing.reverse = c.outgoing.reverse
      ++ (Terminal.onDelivery c.target (w.service.bus.receiveEvent id).1).frames)
    (hearing : w' = { w with
      service := { w.service with
        bus := (w.service.bus.receive id).2
        connections := w.service.connections.insert w.id { c with outgoing } }
      heard := w.heard ++ [(w.service.bus.receiveEvent id).1]
      deeds := w.deeds ++ [.receive id] })
    (closer : near' → near ∧ w'.behind ≤ Channel.capacity) : Keeps t near' w' := by
  subst hearing
  -- To receive is not to post.
  have quiet : ∀ {v : Stream}, v.deeds = w.deeds ++ [.receive id] →
      v.posted .terminalInput = w.posted .terminalInput :=
    fun deeds => (posted_concat deeds).trans (List.append_nil _)
  refine ⟨{ c with outgoing }, ⟨connection?_insert w _ _, tells.target, ?_, tells.announced, ?_,
    ?_, tells.sent, tells.taken⟩, ?_⟩
  · show outgoing.reverse = passedOn t (w.heard ++ _)
    rw [sent, tells.frames, tells.target, passedOn_concat, passedOn_singleton]
  · rw [quiet rfl]
    exact tells.posted
  · rw [quiet rfl]
    exact tells.others
  · refine hears.concat (d := .receive id) goesOn subscribed (fun same => nomatch same)
      (fun _ same => nomatch same) (connection?_insert w _ _) rfl rfl rfl ?_ closer
    rw [Bus.received?, if_pos rfl]
    rfl

/-- The terminal takes what its subscription delivers. -/
theorem Keeps.hear (tells : Tells t w c) (hears : Hears near w c) (goesOn : c.isOver = false)
    (subscribed : c.subscription = some id) (inReach : Bool)
    (closer : near' → near ∧ (w.hear c id inReach).behind ≤ Channel.capacity) :
    Keeps t near' (w.hear c id inReach) := by
  obtain ⟨b, follows, reached⟩ := hears.exists_follows goesOn subscribed
  have acts := follows.onDelivery c.target
  rw [← reached] at acts
  obtain ⟨frame, send⟩ | ignore := acts
  · cases inReach with
    | false =>
        -- The frame is lost together with the connection, and what was heard ends before it.
        have fails : w.hear c id false = { w with service :=
            { w.service with bus := (w.service.bus.receive id).2 }.endTerminal w.id c } := by
          simp only [Stream.hear, send]
          rfl
        rw [fails] at closer ⊢
        exact Keeps.lose tells hears _ fun h => (closer h).1
    | true =>
        refine Keeps.passOn tells hears goesOn subscribed (frame :: c.outgoing) ?_ ?_ closer
        · rw [send]
          exact List.reverse_cons
        · simp only [Stream.hear, send]
          rfl
  · refine Keeps.passOn tells hears goesOn subscribed c.outgoing ?_ ?_ closer
    · rw [ignore]
      exact (List.append_nil _).symm
    · simp only [Stream.hear, ignore]
      rfl

/-- A frame that is taken is the next that was sent, and what it stands for is announced. -/
theorem Tells.takes (tells : Tells t w c) (goesOn : c.isOver = false) {frame : Frame}
    {rest : List Frame} (waiting : c.incoming = frame :: rest) :
    w.sent = w.taken ++ [frame] ++ rest ∧
      w.announced ++ (input? t frame).toList = (w.taken ++ [frame]).filterMap (input? t) := by
  constructor
  · rw [tells.sent goesOn, waiting, List.append_assoc]
    rfl
  · rw [tells.announced, List.filterMap_append, List.filterMap_cons, List.filterMap_nil]
    cases input? t frame <;> rfl

/-- The terminal takes a frame of its client. -/
theorem Keeps.take (tells : Tells t w c) (hears : Hears near w c) (goesOn : c.isOver = false)
    (subscribed : c.subscription = some id)
    (closer : near' → near ∧ (w.take c).behind ≤ Channel.capacity) :
    Keeps t near' (w.take c) := by
  cases waiting : c.incoming with
  | nil =>
      have idle : w.take c = w := by
        simp only [Stream.take, waiting]
      rw [idle] at closer ⊢
      exact Keeps.mono ⟨c, tells, hears⟩ fun h => (closer h).1
  | cons frame rest =>
      obtain ⟨sent, announced⟩ := tells.takes goesOn waiting
      have taken : w.taken ++ [frame] <+: w.sent := ⟨rest, sent.symm⟩
      -- A frame is announced, ignored, or ends the terminal.
      obtain ⟨e, acts, stands, kind⟩ | ⟨acts, none⟩ | ⟨acts, none⟩ := onFrame_cases t frame
      · have takes : w.take c = { w with
            service := { w.service with
              bus := w.service.bus.emit e
              connections := w.service.connections.insert w.id { c with incoming := rest } }
            taken := w.taken ++ [frame]
            announced := w.announced ++ [e]
            deeds := w.deeds ++ [.post (.event e)] } := by
          simp only [Stream.take, waiting, tells.target, acts]
          rfl
        rw [stands] at announced
        rw [takes] at closer ⊢
        have input : ∀ {v : Stream}, v.deeds = w.deeds ++ [.post (.event e)] →
            v.posted .terminalInput = w.posted .terminalInput ++ [e] := by
          intro v deeds
          rw [posted_concat deeds, Bus.Deed.announced, List.filter_singleton, kind]
          rfl
        refine ⟨{ c with incoming := rest }, ⟨connection?_insert w _ _, tells.target, tells.frames,
          announced, ?_, ?_, fun _ => sent, taken⟩, ?_⟩
        · rw [input rfl]
          exact tells.posted.append (List.Sublist.refl [e])
        · rw [input rfl]
          exact perm_append_own tells.others e
        · exact hears.concat (d := .post (.event e)) goesOn subscribed (by simp)
            (fun p same => ⟨e, (Bus.Deed.post.inj same).symm⟩) (connection?_insert w _ _) rfl rfl
            rfl (List.append_nil _).symm closer
      · have takes : w.take c = { w with
            service := { w.service with
              connections := w.service.connections.insert w.id { c with incoming := rest } }
            taken := w.taken ++ [frame] } := by
          simp only [Stream.take, waiting, tells.target, acts, Terminal.Action.announced,
            List.map_nil, List.append_nil]
          rfl
        rw [none, Option.toList_none, List.append_nil] at announced
        rw [takes] at closer ⊢
        exact ⟨{ c with incoming := rest }, ⟨connection?_insert w _ _, tells.target, tells.frames,
          announced, tells.posted, tells.others, fun _ => sent, taken⟩,
          hears.mono rfl rfl rfl (fun _ => ⟨goesOn, rfl⟩) fun h => (closer h).1⟩
      · have takes : w.take c = { w with
            service := w.service.endTerminal w.id { c with incoming := rest }
            taken := w.taken ++ [frame] } := by
          simp only [Stream.take, waiting, tells.target, acts, Terminal.Action.announced,
            List.map_nil, List.append_nil]
          rfl
        rw [none, Option.toList_none, List.append_nil] at announced
        rw [takes] at closer ⊢
        exact ⟨{ c with isOver := true, incoming := [] }, ⟨connection?_insert w _ _, tells.target,
          tells.frames, announced, tells.posted, tells.others,
          (fun goesOn => Bool.noConfusion goesOn), taken⟩,
          hears.mono rfl rfl rfl (fun goesOn => Bool.noConfusion goesOn) fun h => (closer h).1⟩

/-- **One happening keeps the invariant.** -/
theorem Keeps.step (keeps : Keeps t near w) (h : Happening)
    (closer : near' → near ∧ (w.step h).behind ≤ Channel.capacity) : Keeps t near' (w.step h) := by
  obtain ⟨c, tells, hears⟩ := keeps
  have comes := comes_step tells.found h
  generalize w.step h = w' at comes closer ⊢
  cases comes with
  | nothing => exact Keeps.mono ⟨c, tells, hears⟩ fun h => (closer h).1
  | bystand other event => exact Keeps.bystand ⟨c, tells, hears⟩ other event closer
  | send f goesOn => exact Keeps.send tells hears goesOn f fun h => (closer h).1
  | attach goesOn unsubscribed => exact Keeps.attach tells hears goesOn unsubscribed
  | hear goesOn subscribed inReach =>
      exact Keeps.hear tells hears goesOn subscribed inReach closer
  | take goesOn subscribed => exact Keeps.take tells hears goesOn subscribed closer
  | lose => exact Keeps.lose tells hears _ fun h => (closer h).1

/-- A client that has just been connected. -/
theorem keeps_start {s : Service} (sound : s.bus.Sound) (t : TerminalTarget) :
    Keeps t near (start s t) := by
  refine ⟨⟨t, none, [], [], false⟩, ⟨Std.ExtTreeMap.getElem?_insert_self, rfl, rfl, rfl,
    List.nil_sublist _, List.Perm.refl [], fun _ => rfl, List.prefix_rfl⟩,
    .before rfl rfl rfl fun _ => sound⟩

/-- The terminal was never further behind than a channel keeps. -/
def IsNear (w : Stream) (hs : List Happening) : Prop :=
  ∀ n, (w.run (hs.take n)).behind ≤ Channel.capacity

/-- A terminal that has never been too far behind was not so before the last step, either. -/
theorem IsNear.concat {hs : List Happening} {h : Happening} (near : w.IsNear (hs ++ [h])) :
    w.IsNear hs ∧ ((w.run hs).step h).behind ≤ Channel.capacity := by
  constructor
  · intro n
    by_cases within : n ≤ hs.length
    · have earlier := near n
      rwa [List.take_append_of_le_length within] at earlier
    · have earlier := near hs.length
      rw [List.take_left] at earlier
      rwa [List.take_of_length_le (Nat.le_of_not_le within)]
  · have last := near (hs ++ [h]).length
    rwa [List.take_length, run_concat] at last

end

end Stream

end Service

end Playgrounds
