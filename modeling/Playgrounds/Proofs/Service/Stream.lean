import Playgrounds.Proofs.Bus.Delivery
import Playgrounds.Service.Basic

/-!
# A terminal at work

A terminal passes on to its client what its subscription delivers, and announces what the client
sends. Which of the two it does next, where it could do either, is left open, and between any two
steps of its own anybody may announce anything.

* `Happening` — what may happen while a client is connected.
* `Stream`, `Stream.step`, `Stream.run` — the service, what a bystander has seen of one of its
  terminals, and how both go on.
* `Stream.exists_terminalStep` — the steps of a terminal that the service takes are among these.
* `Stream.Comes` — what may come of a happening.
-/

namespace Playgrounds

/-- What may happen while a client is connected to a terminal. -/
inductive Happening where
  /-- Anybody announces an event. -/
  | emit (e : Event)
  /-- Another subscription to the bus begins, receives or ends. -/
  | other (d : Bus.Deed)
  /-- The client sends a frame. -/
  | send (f : Frame)
  /-- The terminal subscribes to the countdowns. -/
  | attach
  /-- The terminal takes what its subscription has for it. The client may turn out to be out of
  reach if there is something to send. -/
  | hear (inReach : Bool)
  /-- The terminal takes a frame of its client. -/
  | take
  /-- The socket fails, or ends without a word. -/
  | lose
deriving DecidableEq

/-- What an action announces. -/
def Terminal.Action.announced : Terminal.Action → List Event
  | .announce e => [e]
  | .send _ | .ignore | .detach => []

/-- The events that are announced by what is done to the bus. -/
def Bus.Deed.announced : Bus.Deed → List Event
  | .post (.event e) => [e]
  | .post (.raw _ _) | .subscribe _ | .receive _ | .unsubscribe _ => []

/-- Whether an action needs the client. -/
def Terminal.Action.isSend : Terminal.Action → Bool
  | .send _ => true
  | .announce _ | .ignore | .detach => false

namespace Service

/-- The service, and what a bystander has seen of the terminal of one connection. -/
structure Stream where
  service : Service
  /-- The number of the connection. -/
  id : Nat
  /-- What the terminal's subscription delivered before the connection ended. -/
  heard : List EventDelivery
  /-- The frames that the client has sent while it was connected. -/
  sent : List Frame
  /-- The frames that the terminal has taken. -/
  taken : List Frame
  /-- The events that the terminal has announced. -/
  announced : List Event
  /-- The events that others have announced while the terminal was subscribed. -/
  others : List Event
  /-- What was done to the bus while the terminal was subscribed to it. -/
  deeds : List Bus.Deed

namespace Stream

/-- The service with a client just connected to a terminal. -/
def start (s : Service) (t : TerminalTarget) : Stream :=
  ⟨(s.connect t).2, (s.connect t).1, [], [], [], [], [], []⟩

def connection? (w : Stream) : Option Connection :=
  w.service.connections[w.id]?

/-- The connection, if the terminal has not ended. -/
def open? (w : Stream) : Option Connection :=
  w.connection?.filter (!·.isOver)

/-- The terminal's subscription, also one that has ended. -/
def subscription? (w : Stream) : Option SubscriptionId :=
  w.connection?.bind (·.subscription)

/-- The connection and the subscription, if the terminal is subscribed and has not ended. -/
def attached? (w : Stream) : Option (Connection × SubscriptionId) :=
  w.open?.bind fun c => c.subscription.map (c, ·)

/-- How many messages lie before the terminal's subscription. -/
def behind (w : Stream) : Nat :=
  w.subscription?.elim 0 w.service.bus.pending

/-- The frames that the client was sent. -/
def frames (w : Stream) : List String :=
  w.connection?.elim [] (·.outgoing.reverse)

/-- Whether a deed is none of the terminal's, and posts nothing. -/
def isOthers (w : Stream) : Bus.Deed → Bool
  | .subscribe _ => true
  | .receive id | .unsubscribe id => w.subscription? ≠ some id
  | .post _ => false

/-- Others do something to the bus. -/
def bystand (w : Stream) (d : Bus.Deed) : Stream :=
  { w with
    service := { w.service with bus := w.service.bus.step d }
    others := if w.attached?.isSome then w.others ++ d.announced else w.others
    deeds := if w.attached?.isSome then w.deeds ++ [d] else w.deeds }

/-- The terminal takes what its subscription delivers. If that is to be sent and the client is out
of reach then the connection has ended. -/
def hear (w : Stream) (c : Connection) (subscription : SubscriptionId) (inReach : Bool) : Stream :=
  let (delivery, bus) := w.service.bus.receiveEvent subscription
  let action := Terminal.onDelivery c.target delivery
  if action.isSend && !inReach then
    { w with service := { w.service with bus }.endTerminal w.id c }
  else
    { w with
      service := { w.service with bus }.act w.id c action
      heard := w.heard ++ [delivery]
      deeds := w.deeds ++ [.receive subscription] }

/-- The terminal takes the first frame of its client, if there is one. -/
def take (w : Stream) (c : Connection) : Stream :=
  match c.incoming with
  | [] => w
  | frame :: rest =>
    let action := Terminal.onFrame c.target frame
    { w with
      service := w.service.act w.id { c with incoming := rest } action
      taken := w.taken ++ [frame]
      announced := w.announced ++ action.announced
      deeds := w.deeds ++ action.announced.map fun e => .post (.event e) }

/-- What comes of a happening. -/
def step (w : Stream) : Happening → Stream
  | .emit e => w.bystand (.post (.event e))
  | .other d => if w.isOthers d then w.bystand d else w
  | .send f =>
    if w.open?.isSome then { w with service := w.service.send w.id f, sent := w.sent ++ [f] } else w
  | .attach =>
    match w.open? with
    | some c =>
      if c.subscription.isNone then { w with service := w.service.terminalStep w.id c } else w
    | none => w
  | .hear inReach =>
    match w.attached? with
    | some (c, subscription) =>
      if w.service.hears subscription then w.hear c subscription inReach else w
    | none => w
  | .take => w.attached?.elim w fun (c, _) => w.take c
  | .lose => w.open?.elim w fun c => { w with service := w.service.endTerminal w.id c }

/-- What comes of some happenings. -/
def run (w : Stream) (hs : List Happening) : Stream :=
  hs.foldl step w

theorem run_concat (w : Stream) (hs : List Happening) (h : Happening) :
    w.run (hs ++ [h]) = (w.run hs).step h := by
  simp only [run, List.foldl_append, List.foldl_cons, List.foldl_nil]

/-- **The service takes no other steps.** -/
theorem exists_terminalStep {w : Stream} {c : Connection} (there : w.open? = some c) :
    ∃ h, (w.step h).service = w.service.terminalStep w.id c := by
  cases subscription : c.subscription with
  | none =>
      refine ⟨.attach, ?_⟩
      simp only [step, there, subscription]
      rfl
  | some id =>
      have attached : w.attached? = some (c, id) := by
        rw [attached?, there, Option.bind_some, subscription]
        rfl
      -- The terminal prefers its subscription to its client.
      cases hears : w.service.hears id with
      | true =>
          refine ⟨.hear true, ?_⟩
          simp only [step, attached, hears, if_true, hear, terminalStep, subscription,
            Bool.not_true, Bool.and_false]
          rfl
      | false =>
          refine ⟨.take, ?_⟩
          simp only [step, attached, Option.elim_some, take, terminalStep, subscription, hears]
          cases c.incoming <;> rfl

section

variable {w : Stream} {c : Connection} {id : SubscriptionId}

theorem open?_of_isOver (found : w.connection? = some c) (isOver : c.isOver = true) :
    w.open? = none := by
  rw [open?, found, Option.filter_some, isOver]
  rfl

/-- A connection that has not ended is open. -/
theorem open?_eq (found : w.connection? = some c) (goesOn : c.isOver = false) :
    w.open? = some c := by
  rw [open?, found, Option.filter_some, goesOn]
  rfl

theorem attached?_of_isOver (found : w.connection? = some c) (isOver : c.isOver = true) :
    w.attached? = none := by
  rw [attached?, open?_of_isOver found isOver]
  rfl

/-- An open connection is attached if it has a subscription. -/
theorem attached?_eq (found : w.connection? = some c) (goesOn : c.isOver = false) :
    w.attached? = c.subscription.map (c, ·) := by
  rw [attached?, open?_eq found goesOn]
  rfl

/-- How far the terminal is behind is what the bus holds for its subscription. -/
theorem behind_eq (found : w.connection? = some c) (subscribed : c.subscription = some id) :
    w.behind = w.service.bus.pending id := by
  rw [behind, subscription?, found, Option.bind_some, subscribed]
  rfl

/-- What may come of a happening: nothing, or what others do, or what this terminal or its client
does. -/
inductive Comes (w : Stream) (c : Connection) : Stream → Prop where
  | nothing : Comes w c w
  | bystand {d : Bus.Deed}
    (other : ∀ id, w.subscription? = some id → d ≠ .unsubscribe id ∧ d ≠ .receive id)
    (event : ∀ p, d = .post p → ∃ e, p = .event e) : Comes w c (w.bystand d)
  | send (f : Frame) (goesOn : c.isOver = false) :
    Comes w c { w with service := w.service.send w.id f, sent := w.sent ++ [f] }
  | attach (goesOn : c.isOver = false) (unsubscribed : c.subscription = none) :
    Comes w c { w with service := w.service.terminalStep w.id c }
  | hear {id : SubscriptionId} (goesOn : c.isOver = false) (subscribed : c.subscription = some id)
    (inReach : Bool) : Comes w c (w.hear c id inReach)
  | take {id : SubscriptionId} (goesOn : c.isOver = false) (subscribed : c.subscription = some id) :
    Comes w c (w.take c)
  | lose : Comes w c { w with service := w.service.endTerminal w.id c }

/-- A connection is open or it is not. -/
theorem open?_cases (found : w.connection? = some c) :
    w.open? = none ∨ c.isOver = false ∧ w.open? = some c := by
  cases isOver : c.isOver with
  | true => exact .inl (open?_of_isOver found isOver)
  | false => exact .inr ⟨rfl, open?_eq found isOver⟩

/-- A terminal is attached to a subscription of its own or to none. -/
theorem attached?_cases (found : w.connection? = some c) : w.attached? = none ∨
    ∃ id, c.isOver = false ∧ c.subscription = some id ∧ w.attached? = some (c, id) := by
  cases isOver : c.isOver with
  | true => exact .inl (attached?_of_isOver found isOver)
  | false =>
      have attached := attached?_eq found isOver
      cases subscribed : c.subscription with
      | none => exact .inl (by rw [attached, subscribed]; rfl)
      | some id => exact .inr ⟨id, rfl, rfl, by rw [attached, subscribed]; rfl⟩

/-- **Whatever happens comes in one of these ways**; where it cannot happen, nothing comes of it. -/
theorem comes_step (found : w.connection? = some c) (h : Happening) : Comes w c (w.step h) := by
  cases h with
  | emit e =>
      exact .bystand (fun _ _ => ⟨(fun same => nomatch same), fun same => nomatch same⟩)
        fun p same => ⟨e, (Bus.Deed.post.inj same).symm⟩
  | other d =>
      rw [step]
      split
      next others =>
          refine .bystand ?_ ?_
          · intro id own
            -- What is done to this terminal's own subscription is not the others' doing.
            constructor
            · rintro rfl
              exact of_decide_eq_true others own
            · rintro rfl
              exact of_decide_eq_true others own
          · rintro p rfl
            exact nomatch others
      next => exact .nothing
  | send f =>
      obtain none | ⟨goesOn, some⟩ := open?_cases found
      · rw [step, none]
        exact .nothing
      · rw [step, some]
        exact .send f goesOn
  | attach =>
      obtain none | ⟨goesOn, some⟩ := open?_cases found
      · rw [step, none]
        exact .nothing
      · rw [step, some]
        show Comes w c (if c.subscription.isNone = true then _ else w)
        split
        next unsubscribed => exact .attach goesOn (Option.isNone_iff_eq_none.mp unsubscribed)
        next => exact .nothing
  | hear inReach =>
      obtain none | ⟨id, goesOn, subscribed, some⟩ := attached?_cases found
      · rw [step, none]
        exact .nothing
      · rw [step, some]
        show Comes w c (if w.service.hears id = true then w.hear c id inReach else w)
        split
        · exact .hear goesOn subscribed inReach
        · exact .nothing
  | take =>
      obtain none | ⟨id, goesOn, subscribed, some⟩ := attached?_cases found
      · rw [step, none]
        exact .nothing
      · rw [step, some]
        exact .take goesOn subscribed
  | lose =>
      obtain none | ⟨goesOn, some⟩ := open?_cases found
      · rw [step, none]
        exact .nothing
      · rw [step, some]
        exact .lose

end

end Stream

end Service

end Playgrounds
