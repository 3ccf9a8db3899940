import Playgrounds.Proofs.Bus.Closing
import Playgrounds.Proofs.Service.Account

/-!
# How a terminal ends

A terminal goes on until its client closes, its socket fails, something cannot be sent, or the bus
is closed — or until its subscription comes to a message that is no event.

* `Stream.meet`, `Stream.live` — a terminal while anything happens to it and to the bus.
* `Stream.Alive`, `Stream.Over` — the invariant: the service does what is told of the terminal.
* `Stream.shows_after` — it does so all the time.
* `Service.ends_at_unreadable` — when a terminal ends, and what would be otherwise.
-/

namespace Playgrounds.Service

namespace Stream

/-- What comes of an incident. -/
def meet (w : Stream) : Incident → Stream
  | .usual h => w.step h
  | .post topic payload => w.bystand (.post (.raw topic payload))
  | .closeBus => { w with service := { w.service with bus := w.service.bus.close } }

/-- What comes of some incidents. -/
def live (w : Stream) (is : List Incident) : Stream :=
  is.foldl meet w

/-- Whether the terminal has ended. -/
def isOver (w : Stream) : Bool :=
  w.connection?.any (·.isOver)

theorem live_concat (w : Stream) (is : List Incident) (i : Incident) :
    w.live (is ++ [i]) = (w.live is).meet i := by
  simp only [live, List.foldl_append, List.foldl_cons, List.foldl_nil]

/-! ## The invariant -/

/-- What lies before the terminal's subscription, if that has begun. -/
inductive Ahead (b : Bus) : Option SubscriptionId → Option (List Posting) → Prop where
  | before : Ahead b none none
  | since {id : SubscriptionId} {ahead : List Posting}
    (awaits : b.Awaits id EventKind.sessionTimer.topic ahead) : Ahead b (some id) (some ahead)

/-- The terminal goes on, as is told of it. But for being open or closed, the bus is `b`. -/
structure Alive (t : TerminalTarget) (w : Stream) (a : Account) (c : Connection) (b : Bus) :
    Prop where
  found : w.connection? = some c
  goesOn : c.isOver = false
  target : c.target = t
  frames : c.outgoing.reverse = a.frames
  incoming : c.incoming = a.incoming
  ended : a.ended = none
  sound : b.Sound
  bus : w.service.bus = b.withOpen a.busIsOpen
  ahead : Ahead b c.subscription a.ahead

/-- The terminal has ended, and that is told of it. -/
structure Over (w : Stream) (a : Account) (c : Connection) : Prop where
  found : w.connection? = some c
  isOver : c.isOver = true
  frames : c.outgoing.reverse = a.frames
  ended : a.ended.isSome = true

/-- What is told of the terminal is so. -/
def Shows (t : TerminalTarget) (w : Stream) (a : Account) : Prop :=
  (∃ c b, Alive t w a c b) ∨ ∃ c, Over w a c

section

variable {t : TerminalTarget} {w : Stream} {a : Account} {c : Connection} {b : Bus}
  {d : Bus.Deed} {p : Posting}

/-- A terminal that has been ended is over, with the frames that it had sent. -/
theorem Over.of_endTerminal {w : Stream} {s : Service}
    (service : w.service = s.endTerminal w.id c) (frames : c.outgoing.reverse = a.frames)
    (ended : a.ended.isSome = true) : Over w a { c with isOver := true, incoming := [] } := by
  refine ⟨?_, rfl, frames, ended⟩
  rw [connection?, service]
  exact Std.ExtTreeMap.getElem?_insert_self

/-! ### The bus -/

/-- What others do to the bus does nothing to the terminal's subscription. -/
theorem Ahead.step {s : Option SubscriptionId} {ps : Option (List Posting)} (sound : b.Sound)
    (ahead : Ahead b s ps) (silent : ∀ p, d ≠ .post p)
    (other : ∀ id, s = some id → d ≠ .unsubscribe id ∧ d ≠ .receive id) :
    Ahead (b.step d) s ps := by
  cases ahead with
  | before => exact .before
  | @since id ahead awaits =>
      obtain ⟨stays, unheard⟩ := other id rfl
      have same : Bus.goOn id EventKind.sessionTimer.topic ahead d = ahead := by
        cases d with
        | post p => exact absurd rfl (silent p)
        | receive other => exact if_neg fun same => unheard (congrArg _ same)
        | subscribe | unsubscribe => rfl
      have next := (awaits.step sound stays).1
      rw [same] at next
      exact .since next

/-- What is posted on an open bus may come to lie before the terminal's subscription. -/
theorem Ahead.post {s : Option SubscriptionId} (sound : b.Sound) (ahead : Ahead b s a.ahead)
    (p : Posting) : Ahead (b.stepWhile a.busIsOpen (.post p)) s (a.post p).ahead := by
  cases isOpen : a.busIsOpen with
  | false =>
      -- Nothing gets through once the bus is closed.
      have shut : a.post p = a := if_neg fun here => Bool.false_ne_true (isOpen.symm.trans here.1)
      rw [shut]
      exact ahead
  | true =>
      have posted : (a.post p).ahead
          = if p.topic = EventKind.sessionTimer.topic then a.ahead.map (· ++ [p]) else a.ahead := by
        rw [Account.post, isOpen]
        by_cases here : p.topic = EventKind.sessionTimer.topic
        · simp only [here, and_self, if_true]
        · simp only [here, and_false, if_false]
      rw [posted]
      show Ahead (b.post p) s _
      generalize a.ahead = ps at ahead
      cases ahead with
      | before =>
          rw [Option.map_none, ite_self]
          exact .before
      | @since id ahead awaits =>
          have next := awaits.post sound p
          rw [Bus.goOn] at next
          split
          next here =>
              rw [if_pos here] at next
              exact .since next
          next elsewhere =>
              rw [if_neg elsewhere] at next
              exact .since next

/-! ### The terminal -/

namespace Alive

variable (l : Alive t w a c b)

include l

/-- A posting is told of as it is done. -/
theorem bystand_post (p : Posting) :
    Alive t (w.bystand (.post p)) (a.post p) c (b.stepWhile a.busIsOpen (.post p)) := by
  have rest : ∃ ps, a.post p = { a with ahead := ps } := by
    rw [Account.post]
    split
    · exact ⟨_, rfl⟩
    · exact ⟨a.ahead, rfl⟩
  have ahead := l.ahead.post l.sound p
  obtain ⟨ps, same⟩ := rest
  rw [same] at ahead ⊢
  refine ⟨l.found, l.goesOn, l.target, l.frames, l.incoming, l.ended, l.sound.stepWhile _ _, ?_,
    ahead⟩
  show w.service.bus.step (.post p) = _
  rw [l.bus, Bus.step_withOpen l.sound]

/-- What others do to the bus, but for postings, is not told of. -/
theorem bystand (silent : ∀ p, d ≠ .post p)
    (other : ∀ id, c.subscription = some id → d ≠ .unsubscribe id ∧ d ≠ .receive id) :
    Alive t (w.bystand d) a c (b.step d) := by
  refine ⟨l.found, l.goesOn, l.target, l.frames, l.incoming, l.ended, l.sound.step d, ?_,
    l.ahead.step l.sound silent other⟩
  have possible : b.stepWhile a.busIsOpen d = b.step d := by
    obtain ⟨-, ⟨p, posted⟩, -⟩ | ⟨-, same⟩ := Bus.stepWhile_cases a.busIsOpen b d
    · exact absurd posted (silent p)
    · exact same
  show w.service.bus.step d = _
  rw [l.bus, Bus.step_withOpen l.sound, possible]

/-- A frame of the client waits to be taken. -/
theorem send (f : Frame) :
    Alive t { w with service := w.service.send w.id f, sent := w.sent ++ [f] }
      { a with incoming := a.incoming ++ [f] } { c with incoming := c.incoming ++ [f] } b := by
  have found : w.service.connections[w.id]? = some c := l.found
  have sent : w.service.send w.id f = { w.service with
      connections :=
        w.service.connections.insert w.id { c with incoming := c.incoming ++ [f] } } := by
    simp only [Service.send, found]
  rw [sent]
  refine ⟨Std.ExtTreeMap.getElem?_insert_self, l.goesOn, l.target, l.frames, ?_, l.ended, l.sound,
    l.bus, l.ahead⟩
  exact congrArg (· ++ [f]) l.incoming

/-- A terminal that attaches has nothing before it yet. -/
theorem attach (unsubscribed : c.subscription = none) :
    Alive t { w with service := w.service.terminalStep w.id c } { a with ahead := some [] }
      { c with subscription := some b.nextId }
      (b.step (.subscribe EventKind.sessionTimer.topic)) := by
  have begun : w.service.terminalStep w.id c = { w.service with
      bus := (w.service.bus.subscribe EventKind.sessionTimer.topic).2
      connections := w.service.connections.insert w.id
        { c with subscription := some w.service.bus.nextId } } := by
    rw [terminalStep, unsubscribed]
    rfl
  rw [begun, l.bus]
  exact ⟨Std.ExtTreeMap.getElem?_insert_self, l.goesOn, l.target, l.frames, l.incoming, l.ended,
    l.sound.step _, rfl, .since (l.sound.awaits_subscribe _)⟩

/-- The terminal has not subscribed yet, or it is told what lies before its subscription. -/
theorem ahead_cases : (c.subscription = none ∧ a.ahead = none) ∨
    ∃ id ps, c.subscription = some id ∧ a.ahead = some ps ∧
      b.Awaits id EventKind.sessionTimer.topic ps := by
  have ahead := l.ahead
  generalize c.subscription = s at ahead
  generalize a.ahead = ps at ahead
  cases ahead with
  | before => exact .inl ⟨rfl, rfl⟩
  | since awaits => exact .inr ⟨_, _, rfl, rfl, awaits⟩

/-- Only the service matters. -/
theorem congr {w' : Stream} (service : w'.service = w.service) (id : w'.id = w.id) :
    Alive t w' a c b := by
  refine ⟨?_, l.goesOn, l.target, l.frames, l.incoming, l.ended, l.sound, service ▸ l.bus, l.ahead⟩
  rw [connection?, service, id]
  exact l.found

/-- A frame of the client has been taken. -/
theorem drop (rest : List Frame) :
    Alive t { w with service := { w.service with
        connections := w.service.connections.insert w.id { c with incoming := rest } } }
      { a with incoming := rest } { c with incoming := rest } b :=
  ⟨Std.ExtTreeMap.getElem?_insert_self, l.goesOn, l.target, l.frames, rfl, l.ended, l.sound, l.bus,
    l.ahead⟩

/-- A frame of the client has been taken, and announced as input. -/
theorem announces {f : Frame} {rest : List Frame} {e : Event} (incoming : c.incoming = f :: rest)
    (action : Terminal.onFrame c.target f = .announce e) (kind : e.kind = .terminalInput) :
    ∃ b', Alive t (w.take c) { a with incoming := rest } { c with incoming := rest } b' := by
  have elsewhere : EventKind.terminalInput.topic ≠ EventKind.sessionTimer.topic := by decide
  have untouched : Account.post { a with incoming := rest } (.event e)
      = { a with incoming := rest } := by
    refine if_neg fun here => elsewhere ?_
    rw [← kind]
    exact here.2
  have posted := (l.drop rest).bystand_post (.event e)
  rw [untouched] at posted
  refine ⟨_, posted.congr ?_ ?_⟩
  · simp only [Stream.take, incoming, action]
    rfl
  · simp only [Stream.take, incoming]
    rfl

/-- The terminal takes a frame of its client. -/
theorem take {ps : List Posting} (some : a.ahead = some ps) : Shows t (w.take c) a.take := by
  cases incoming : c.incoming with
  | nil =>
      have told : a.take = a := by
        rw [Account.take, some, ← l.incoming, incoming]
      rw [told, Stream.take, incoming]
      exact .inl ⟨c, b, l⟩
  | cons f rest =>
      have sent : a.incoming = f :: rest := l.incoming.symm.trans incoming
      cases f with
      -- Whatever the client sends but a closing frame is announced or ignored, and the terminal
      -- goes on.
      | text data =>
          have told : a.take = { a with incoming := rest } := by rw [Account.take, some, sent]
          obtain ⟨b', goesOn⟩ := l.announces incoming rfl rfl
          rw [told]
          exact .inl ⟨_, b', goesOn⟩
      | binary bytes =>
          have told : a.take = { a with incoming := rest } := by rw [Account.take, some, sent]
          obtain ⟨b', goesOn⟩ := l.announces incoming rfl rfl
          rw [told]
          exact .inl ⟨_, b', goesOn⟩
      | ping | pong =>
          have told : a.take = { a with incoming := rest } := by rw [Account.take, some, sent]
          rw [told]
          refine .inl ⟨_, b, (l.drop rest).congr ?_ ?_⟩
          · simp only [Stream.take, incoming]
            rfl
          · simp only [Stream.take, incoming]
      | close =>
          have told : a.take = { a with ended := Option.some .clientClosed } := by
            rw [Account.take, some, sent]
          rw [told]
          refine .inr ⟨_, Over.of_endTerminal (c := { c with incoming := rest })
            (s := w.service) ?_ l.frames rfl⟩
          simp only [Stream.take, incoming]
          rfl

/-- What comes next has been received by the subscription. -/
theorem received {id : SubscriptionId} {ps : List Posting} (subscribed : c.subscription = some id)
    (awaits : b.Awaits id EventKind.sessionTimer.topic ps) :
    Alive t { w with service := { w.service with bus := (w.service.bus.receiveEvent id).2 } }
      { a with ahead := some (ps.drop (Received.next ps).count) } c (b.receive id).2 := by
  refine ⟨l.found, l.goesOn, l.target, l.frames, l.incoming, l.ended, l.sound.step (.receive id),
    ?_, ?_⟩
  · show (w.service.bus.receive id).2 = _
    rw [l.bus, Bus.receive_withOpen_snd]
  · rw [subscribed]
    exact .since awaits.receive_snd

/-- Some frames have been sent, or none. -/
theorem sends {outgoing : List String} {frames : List String}
    (sent : outgoing.reverse = frames) :
    Alive t { w with service := { w.service with
        connections := w.service.connections.insert w.id { c with outgoing } } }
      { a with frames } { c with outgoing } b :=
  ⟨Std.ExtTreeMap.getElem?_insert_self, l.goesOn, l.target, sent, l.incoming, l.ended, l.sound,
    l.bus, l.ahead⟩

/-- What the subscription receives is told by what lies before it, and by whether the bus is
open. -/
theorem delivery_eq {id : SubscriptionId} {ps : List Posting}
    (awaits : b.Awaits id EventKind.sessionTimer.topic ps) :
    (w.service.bus.receiveEvent id).1
      = Bus.readDelivery ((Received.next ps).deliveryFrom a.busIsOpen) := by
  rw [← awaits.receive_withOpen, ← l.bus]
  rfl

section

variable {id : SubscriptionId} {ps : List Posting} (subscribed : c.subscription = some id)
  (awaits : b.Awaits id EventKind.sessionTimer.topic ps) (inReach : Bool)

include subscribed awaits

/-- The terminal does nothing about what it has received. -/
theorem ignores
    (action : Terminal.onDelivery c.target (w.service.bus.receiveEvent id).1 = .ignore) :
    Shows t (w.hear c id inReach)
      { a with ahead := some (ps.drop (Received.next ps).count) } := by
  refine .inl ⟨_, _, ((l.received subscribed awaits).sends l.frames).congr ?_ ?_⟩
  · simp only [Stream.hear, action]
    rfl
  · simp only [Stream.hear, action]
    rfl

/-- The terminal ends at what it has received. -/
theorem detaches (e : Ending)
    (action : Terminal.onDelivery c.target (w.service.bus.receiveEvent id).1 = .detach) :
    Shows t (w.hear c id inReach)
      { a with ahead := some (ps.drop (Received.next ps).count), ended := some e } := by
  have told := l.received subscribed awaits
  refine .inr ⟨_, Over.of_endTerminal (c := c)
    (s := { w.service with bus := (w.service.bus.receiveEvent id).2 }) ?_ told.frames rfl⟩
  simp only [Stream.hear, action]
  rfl

/-- The terminal sends what it has received to its client, and ends if that is out of reach. -/
theorem passesOn (frame : String)
    (action : Terminal.onDelivery c.target (w.service.bus.receiveEvent id).1 = .send frame) :
    Shows t (w.hear c id inReach)
      (if inReach then
        { a with ahead := some (ps.drop (Received.next ps).count), frames := a.frames ++ [frame] }
      else { a with
        ahead := some (ps.drop (Received.next ps).count), ended := some .sendFailed }) := by
  have told := l.received subscribed awaits
  cases inReach with
  | true =>
      have sent : (frame :: c.outgoing).reverse = a.frames ++ [frame] := by
        rw [List.reverse_cons, l.frames]
      refine .inl ⟨_, _, (told.sends sent).congr ?_ ?_⟩
      · simp only [Stream.hear, action]
        rfl
      · simp only [Stream.hear, action]
        rfl
  -- The client cannot be reached: that ends the terminal, after what it has sent before.
  | false =>
      refine .inr ⟨_, Over.of_endTerminal (c := c)
        (s := { w.service with bus := (w.service.bus.receiveEvent id).2 }) ?_ told.frames rfl⟩
      simp only [Stream.hear, action]
      rfl

/-- The terminal takes what its subscription has for it. -/
theorem hear (ready : (a.busIsOpen && ps.isEmpty) = false) :
    Shows t (w.hear c id inReach)
      (Account.receive false t inReach { a with ahead := some (ps.drop (Received.next ps).count) }
        (Received.next ps)) := by
  have delivery := l.delivery_eq awaits
  have ignores := l.ignores subscribed awaits inReach
  have detaches := l.detaches subscribed awaits inReach
  have passesOn := l.passesOn subscribed awaits inReach
  cases next : Received.next ps with
  | lagged count =>
      rw [next] at delivery ignores
      exact ignores (by rw [delivery]; rfl)
  | nothing =>
      -- There was nothing before it, so it can only have heard that the bus is closed.
      have nobody := Received.eq_nil_of_next_eq_nothing next
      rw [nobody, List.isEmpty_nil, Bool.and_true] at ready
      rw [next, ready] at delivery
      rw [next] at detaches
      exact detaches .busClosed (by rw [delivery]; rfl)
  | message p =>
      rw [next] at delivery ignores detaches passesOn
      simp only [Received.deliveryFrom, Bus.readDelivery, Posting.message] at delivery
      cases read : Event.ofPayload p.payload with
      | error fault =>
          simp only [read] at delivery
          simp only [Account.receive, read]
          exact detaches .unreadable (by rw [delivery]; rfl)
      | ok e =>
          simp only [read] at delivery
          rw [delivery, l.target] at ignores passesOn
          simp only [Account.receive, read]
          by_cases own : e.id = t.sessionId
          · rw [if_neg (fun other => other own)]
            exact passesOn _ (if_pos own)
          · rw [if_pos own]
            exact ignores (if_neg own)

end

/-- **What comes of a happening.** -/
theorem happen (h : Happening) : Shows t (w.step h) (a.happen false t h) := by
  have opened : w.open? = some c := open?_eq l.found l.goesOn
  have attached : w.attached? = c.subscription.map (c, ·) := attached?_eq l.found l.goesOn
  cases h with
  | emit e => exact .inl ⟨c, _, l.bystand_post (.event e)⟩
  | other d =>
      rw [Stream.step]
      -- Others own other subscriptions; what they do with those is not told of.
      split
      next others =>
          refine .inl ⟨c, _, l.bystand ?_ ?_⟩
          · rintro p rfl
            exact absurd others Bool.false_ne_true
          · intro id subscribed
            have own : w.subscription? = some id := by
              rw [subscription?, l.found]
              exact subscribed
            constructor
            · rintro rfl
              exact of_decide_eq_true others own
            · rintro rfl
              exact of_decide_eq_true others own
      next => exact .inl ⟨c, b, l⟩
  | send f =>
      rw [Stream.step, opened]
      exact .inl ⟨_, b, l.send f⟩
  | attach =>
      rw [Stream.step, opened, Account.happen]
      obtain ⟨unsubscribed, none⟩ | ⟨id, ps, subscribed, some, -⟩ := l.ahead_cases
      · rw [none]
        simp only [unsubscribed, Option.isNone_none, if_true]
        exact .inl ⟨_, _, l.attach unsubscribed⟩
      · have same : { a with ahead := Option.some (a.ahead.getD []) } = a := by
          rw [some, Option.getD_some, ← some]
        rw [same]
        simp only [subscribed, Option.isNone_some, Bool.false_eq_true, if_false]
        exact .inl ⟨c, b, l⟩
  | hear inReach =>
      rw [Stream.step, attached, Account.happen, Account.hear]
      obtain ⟨unsubscribed, none⟩ | ⟨id, ps, subscribed, some, awaits⟩ := l.ahead_cases
      · rw [unsubscribed, none]
        exact .inl ⟨c, b, l⟩
      · have hears : w.service.hears id = !(a.busIsOpen && ps.isEmpty) := by
          rw [Service.hears, l.bus, awaits.isReady_withOpen]
        simp only [subscribed, some, Option.map_some, hears]
        cases waits : a.busIsOpen && ps.isEmpty with
        | true => exact .inl ⟨c, b, l⟩
        | false => exact l.hear subscribed awaits inReach waits
  | take =>
      rw [Stream.step, attached, Account.happen]
      obtain ⟨unsubscribed, none⟩ | ⟨id, ps, subscribed, some, -⟩ := l.ahead_cases
      · have same : a.take = a := by rw [Account.take, none]
        rw [unsubscribed, same]
        exact .inl ⟨c, b, l⟩
      · rw [subscribed]
        exact l.take some
  | lose =>
      rw [Stream.step, opened]
      exact .inr ⟨_, Over.of_endTerminal rfl l.frames rfl⟩

end Alive

/-- A terminal that has ended stays as it is. -/
theorem Over.meet (o : Over w a c) (i : Incident) : Over (w.meet i) a c := by
  have closed : w.open? = none := open?_of_isOver o.found o.isOver
  have detached : w.attached? = none := attached?_of_isOver o.found o.isOver
  cases i with
  | post topic payload => exact ⟨o.found, o.isOver, o.frames, o.ended⟩
  | closeBus => exact ⟨o.found, o.isOver, o.frames, o.ended⟩
  | usual h =>
      show Over (w.step h) a c
      cases h with
      | emit e => exact ⟨o.found, o.isOver, o.frames, o.ended⟩
      | other d =>
          rw [Stream.step]
          split
          · exact ⟨o.found, o.isOver, o.frames, o.ended⟩
          · exact o
      | send | attach | lose =>
          rw [Stream.step, closed]
          exact o
      | hear | take =>
          rw [Stream.step, detached]
          exact o

/-- **One incident keeps the invariant.** -/
theorem Shows.step (shows : Shows t w a) (i : Incident) :
    Shows t (w.meet i) (a.step false t i) := by
  rcases shows with ⟨c, b, l⟩ | ⟨c, o⟩
  · rw [Account.step_of_goesOn l.ended]
    cases i with
    | usual h => exact l.happen h
    | post topic payload => exact .inl ⟨c, _, l.bystand_post (.raw topic payload)⟩
    | closeBus =>
        refine .inl ⟨c, b, l.found, l.goesOn, l.target, l.frames, l.incoming, l.ended, l.sound, ?_,
          l.ahead⟩
        show w.service.bus.close = b.withOpen false
        rw [l.bus]
        rfl
  · rw [Account.step_of_ended o.ended]
    exact .inr ⟨c, o.meet i⟩

/-- The frames that are told of are those that were sent. -/
theorem Shows.frames_eq (shows : Shows t w a) : w.frames = a.frames := by
  rcases shows with ⟨c, b, l⟩ | ⟨c, o⟩
  · rw [Stream.frames, l.found]
    exact l.frames
  · rw [Stream.frames, o.found]
    exact o.frames

/-- A terminal has ended exactly if it is told so. -/
theorem Shows.isOver_eq (shows : Shows t w a) : w.isOver = a.ended.isSome := by
  rcases shows with ⟨c, b, l⟩ | ⟨c, o⟩
  · rw [Stream.isOver, l.found, Option.any_some, l.goesOn, l.ended]
    rfl
  · rw [Stream.isOver, o.found, Option.any_some, o.isOver, o.ended]

end

/-- **A run keeps the invariant.** -/
theorem shows_after {s : Service} (sound : s.bus.Sound) (t : TerminalTarget) (is : List Incident) :
    Shows t ((Stream.start s t).live is) (Account.after false t is) := by
  induction is using List.reverseRecOn with
  | nil =>
      refine .inl ⟨_, s.bus, Std.ExtTreeMap.getElem?_insert_self, rfl, rfl, rfl, rfl, rfl, sound,
        ?_, .before⟩
      exact (Bus.withOpen_self sound.isOpen).symm
  | append_singleton is i ih =>
      rw [live_concat, Account.after_concat]
      exact ih.step i

end Stream

/-- **HOW A TERMINAL ENDS.** Take any history of the bus and any terminal, and whatever happens then
to it and to the bus, in any order: events and any other bytes on any topic, gaps for a terminal
that is too far behind, frames of the client and failures. It has sent what is told of it and has
ended if that is told of it, and then there is a cause: its client closed, its socket failed,
something could not be sent, the bus was closed, or somebody put bytes on the topic of the
countdowns that are no event. As long as it has not ended for the last reason it does what a
terminal does that passes over such bytes and goes on with what comes after them; such a terminal
never ends for that reason. So the two have done the same all the time exactly if no receipt of
theirs was a message that is no event. -/
theorem ends_at_unreadable (s : Service) (ds : List Bus.Deed) (bus : s.bus = Bus.after ds)
    (t : TerminalTarget) (is : List Incident) :
    let w := (Stream.start s t).live
    let told := Account.after false t
    let tolerant := Account.after true t
    (w is).frames = (told is).frames ∧ (w is).isOver = (told is).ended.isSome ∧
    (∀ e, (told is).ended = some e → e.IsCaused is) ∧
    (told is = tolerant is ∨ (told is).ended = some .unreadable) ∧
    (tolerant is).ended ≠ some .unreadable ∧
    ((∀ earlier, earlier <+: is → (w earlier).frames = (tolerant earlier).frames ∧
        (w earlier).isOver = (tolerant earlier).ended.isSome) ↔
      ∀ earlier inReach, earlier ++ [.usual (.hear inReach)] <+: is →
        ¬(tolerant earlier).MeetsUnreadable) := by
  intro w told tolerant
  have shows (is : List Incident) : Stream.Shows t (w is) (told is) :=
    Stream.shows_after (bus ▸ Bus.sound_after ds) t is
  refine ⟨(shows is).frames_eq, (shows is).isOver_eq, (Account.grounded_after false t is).ended, ?_,
    Account.ended_after_tolerant t is, ?_, ?_⟩
  · exact (Account.after_eq t is).imp_right And.left
  · intro alike earlier inReach within meets
    -- Up to here the two show the same, and at this step only one of them ends.
    have before := (alike earlier ((List.prefix_append _ _).trans within)).2
    have after := (alike (earlier ++ [.usual (.hear inReach)]) within).2
    rw [(shows _).isOver_eq] at before after
    rcases Account.after_eq t earlier with same | ⟨ended, -⟩
    · obtain ⟨ends, goesOn⟩ := Account.ended_step_of_meetsUnreadable (t := t) meets inReach
      have told_eq : told (earlier ++ [.usual (.hear inReach)])
          = (tolerant earlier).step false t (.usual (.hear inReach)) := by
        show Account.after false t _ = (Account.after true t earlier).step false t _
        rw [Account.after_concat, same]
      have tolerant_eq : tolerant (earlier ++ [.usual (.hear inReach)])
          = (tolerant earlier).step true t (.usual (.hear inReach)) := Account.after_concat ..
      rw [told_eq, tolerant_eq, ends, goesOn] at after
      cases after
    · have told_eq : (told earlier).ended = some .unreadable := ended
      rw [told_eq, meets.1] at before
      cases before
  · intro readable earlier within
    rcases Account.after_eq t earlier with same | ⟨-, sooner, inReach, before, meets⟩
    · rw [(shows earlier).frames_eq, (shows earlier).isOver_eq]
      exact ⟨congrArg _ same, congrArg (·.ended.isSome) same⟩
    -- They have parted before, which must have been at a message that is no event.
    · exact absurd meets (readable sooner inReach (before.trans within))

/-! ### A message that is no event -/

/-- A terminal comes to the word "garbage" on the topic of the countdowns, and then to a countdown
of its session. -/
def garbageIncidents : List Incident :=
  [.usual .attach, .post "session timer" (Text.bytes "garbage"), .usual (.hear true),
    .usual (.emit ⟨.sessionTimer, "s", ["after"]⟩), .usual (.hear true)]

/-- A service at its start. -/
def emptyService : Service :=
  start (.standing .epoch) none [] (.memory .empty)

/-- The service does not pass over the word, and what is told of the terminal says so. -/
theorem ends_at_unreadable_garbage :
    emptyService.bus = Bus.after [] ∧
      ((Stream.start emptyService ⟨"s", "n"⟩).live garbageIncidents).isOver = true ∧
      (Account.after false ⟨"s", "n"⟩ garbageIncidents).ended = some .unreadable ∧
      Ending.unreadable.IsCaused garbageIncidents := by
  obtain ⟨-, isOver, caused, -⟩ := ends_at_unreadable emptyService [] rfl ⟨"s", "n"⟩
    garbageIncidents
  have ended : (Account.after false ⟨"s", "n"⟩ garbageIncidents).ended = some .unreadable := by
    decide +kernel
  refine ⟨rfl, ?_, ended, caused _ ended⟩
  rw [isOver, ended]
  rfl

/-- The terminal has ended, though its client has not closed, its socket has not failed, all could
be sent that was to be sent, and the bus is open; and the client is not sent the countdown that a
terminal sends that passes over the word. -/
theorem isOver_at_garbage :
    ((Stream.start emptyService ⟨"s", "n"⟩).live garbageIncidents).isOver = true ∧
      ((Stream.start emptyService ⟨"s", "n"⟩).live garbageIncidents).frames = [] ∧
      (∀ e : Ending, e ≠ .unreadable → ¬e.IsCaused garbageIncidents) ∧
      (Account.after true ⟨"s", "n"⟩ garbageIncidents).ended = none ∧
      (Account.after true ⟨"s", "n"⟩ garbageIncidents).frames
        = [Event.format.write ⟨.sessionTimer, "s", ["after"]⟩] := by
  refine ⟨by decide +kernel, by decide +kernel, ?_, by decide +kernel, by decide +kernel⟩
  intro e others
  cases e with
  | unreadable => exact absurd rfl others
  | clientClosed | socketFailed | sendFailed | busClosed =>
      simp [Ending.IsCaused, garbageIncidents]

end Playgrounds.Service
