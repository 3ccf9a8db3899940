import Playgrounds.Proofs.Service.Stream

/-!
# The account of a terminal

What a terminal sends to its client, and when and why it ends, told by what happened to it and to
the bus, without either of them.

* `Incident` — what may happen, to the bus as well: it may carry any bytes, and it may be closed.
* `Account`, `Account.step`, `Account.after` — what is told of a terminal. A terminal that is
  tolerant passes over a message that is no event, and one that is not ends at it.
* `Ending.IsCaused` — what must have happened for a terminal to end.
* `Account.after_eq` — where the two kinds of terminals part.
-/

namespace Playgrounds

/-- What may happen to a terminal and to the bus that it hears. -/
inductive Incident where
  | usual (h : Happening)
  /-- Anybody puts some bytes on the bus. -/
  | post (topic : String) (payload : List UInt8)
  | closeBus
deriving DecidableEq

/-- Why a terminal ends. -/
inductive Ending where
  | clientClosed
  | socketFailed
  | sendFailed
  | busClosed
  /-- It came to a message that is no event. -/
  | unreadable
deriving DecidableEq, Repr

/-- What is told of a terminal. -/
structure Account where
  /-- What lies before its subscription, once that has begun. -/
  ahead : Option (List Posting)
  /-- The frames of its client that it has not taken. -/
  incoming : List Frame
  /-- The frames that it has sent. -/
  frames : List String
  busIsOpen : Bool
  ended : Option Ending
deriving DecidableEq

namespace Account

/-- Nothing has happened to the terminal. -/
def start : Account := ⟨none, [], [], true, none⟩

/-- Something is posted on the bus. -/
def post (a : Account) (p : Posting) : Account :=
  if a.busIsOpen ∧ p.topic = EventKind.sessionTimer.topic then
    { a with ahead := a.ahead.map (· ++ [p]) }
  else a

/-- The terminal deals with a receipt. -/
def receive (tolerant : Bool) (t : TerminalTarget) (inReach : Bool) (a : Account) :
    Received Posting → Account
  | .message p =>
    match Event.ofPayload p.payload with
    | .ok e =>
      if e.id ≠ t.sessionId then a
      else if inReach then { a with frames := a.frames ++ [Event.format.write e] }
      else { a with ended := some .sendFailed }
    | .error _ => if tolerant then a else { a with ended := some .unreadable }
  | .lagged _ => a
  | .nothing => { a with ended := some .busClosed }

/-- The terminal takes what its subscription has for it, if there is something: it learns that the
bus is closed when nothing lies before it any more. -/
def hear (tolerant : Bool) (t : TerminalTarget) (inReach : Bool) (a : Account) : Account :=
  match a.ahead with
  | none => a
  | some ahead =>
    if a.busIsOpen && ahead.isEmpty then a
    else
      { a with ahead := some (ahead.drop (Received.next ahead).count) }.receive tolerant t inReach
        (Received.next ahead)

/-- The terminal takes a frame of its client. -/
def take (a : Account) : Account :=
  match a.ahead, a.incoming with
  | none, _ | _, [] => a
  | some _, .close :: _ => { a with ended := some .clientClosed }
  | some _, _ :: rest => { a with incoming := rest }

/-- What comes of a happening. -/
def happen (tolerant : Bool) (t : TerminalTarget) (a : Account) : Happening → Account
  | .emit e => a.post (.event e)
  | .other _ => a
  | .send f => { a with incoming := a.incoming ++ [f] }
  | .attach => { a with ahead := some (a.ahead.getD []) }
  | .hear inReach => a.hear tolerant t inReach
  | .take => a.take
  | .lose => { a with ended := some .socketFailed }

/-- What comes of an incident as long as the terminal has not ended. -/
def meet (tolerant : Bool) (t : TerminalTarget) (a : Account) : Incident → Account
  | .usual h => a.happen tolerant t h
  | .post topic payload => a.post (.raw topic payload)
  | .closeBus => { a with busIsOpen := false }

/-- What comes of an incident. The account ends with the terminal. -/
def step (tolerant : Bool) (t : TerminalTarget) (a : Account) (i : Incident) : Account :=
  if a.ended.isSome then a else a.meet tolerant t i

/-- What is told of a terminal after some incidents. -/
def after (tolerant : Bool) (t : TerminalTarget) (is : List Incident) : Account :=
  is.foldl (step tolerant t) start

variable {tolerant : Bool} {t : TerminalTarget} {a : Account} {i : Incident} {is : List Incident}

theorem after_concat (tolerant : Bool) (t : TerminalTarget) (is : List Incident) (i : Incident) :
    after tolerant t (is ++ [i]) = (after tolerant t is).step tolerant t i := by
  simp only [after, List.foldl_append, List.foldl_cons, List.foldl_nil]

theorem step_of_ended (ended : a.ended.isSome = true) : a.step tolerant t i = a :=
  if_pos ended

theorem step_of_goesOn (goesOn : a.ended = none) : a.step tolerant t i = a.meet tolerant t i :=
  if_neg (by rw [goesOn]; exact Bool.false_ne_true)

end Account

/-! ## Why a terminal ends -/

/-- What has happened if a terminal ended so. -/
def Ending.IsCaused (is : List Incident) : Ending → Prop
  | clientClosed => .usual (.send .close) ∈ is
  | socketFailed => .usual .lose ∈ is
  | sendFailed => .usual (.hear false) ∈ is
  | busClosed => .closeBus ∈ is
  | unreadable => ∃ payload fault, .post EventKind.sessionTimer.topic payload ∈ is ∧
    Event.ofPayload payload = .error fault

namespace Account

/-- All that is told of the terminal comes from the incidents. -/
structure Grounded (is : List Incident) (a : Account) : Prop where
  incoming : ∀ f ∈ a.incoming, .usual (.send f) ∈ is
  ahead : ∀ ps, a.ahead = some ps → ∀ p ∈ ps, ∀ fault, Event.ofPayload p.payload = .error fault →
    .post EventKind.sessionTimer.topic p.payload ∈ is
  closed : a.busIsOpen = false → .closeBus ∈ is
  ended : ∀ e, a.ended = some e → e.IsCaused is

variable {tolerant : Bool} {t : TerminalTarget} {a : Account} {i : Incident} {is : List Incident}

namespace Grounded

/-- What has a ground keeps it, whatever happens next. -/
theorem mono (g : Grounded is a) (i : Incident) : Grounded (is ++ [i]) a := by
  refine ⟨?_, ?_, ?_, ?_⟩
  · exact fun f here => List.mem_append_left _ (g.incoming f here)
  · exact fun ps some p here fault bad =>
      List.mem_append_left _ (g.ahead ps some p here fault bad)
  · exact fun closed => List.mem_append_left _ (g.closed closed)
  · intro e ended
    have caused := g.ended e ended
    cases e with
    | unreadable =>
        obtain ⟨payload, fault, posted, bad⟩ := caused
        exact ⟨payload, fault, List.mem_append_left _ posted, bad⟩
    | clientClosed | socketFailed | sendFailed | busClosed => exact List.mem_append_left _ caused

/-- The terminal ends, and there is a cause. -/
theorem ends (g : Grounded is a) {e : Ending} (caused : e.IsCaused is) :
    Grounded is { a with ended := some e } := by
  refine ⟨g.incoming, g.ahead, g.closed, ?_⟩
  rintro e' ⟨⟩
  exact caused

/-- A posting is its own ground. -/
theorem post (g : Grounded is a) {p : Posting}
    (posted : ∀ fault, Event.ofPayload p.payload = .error fault →
      p.topic = EventKind.sessionTimer.topic →
      .post EventKind.sessionTimer.topic p.payload ∈ is) : Grounded is (a.post p) := by
  rw [Account.post]
  split
  next here =>
      refine ⟨g.incoming, ?_, g.closed, g.ended⟩
      intro ps some q member fault bad
      obtain ⟨before, found, rfl⟩ := Option.map_eq_some_iff.mp some
      rcases List.mem_append.mp member with earlier | last
      · exact g.ahead before found q earlier fault bad
      · cases List.mem_singleton.mp last
        exact posted fault bad here.2
  next => exact g

/-- A receipt ends the terminal only for a reason. -/
theorem receive (g : Grounded is a) {inReach : Bool} {r : Received Posting}
    (reached : inReach = false → .usual (.hear false) ∈ is)
    (bad : ∀ p fault, r = .message p → Event.ofPayload p.payload = .error fault →
      .post EventKind.sessionTimer.topic p.payload ∈ is)
    (closed : r = .nothing → .closeBus ∈ is) :
    Grounded is (a.receive tolerant t inReach r) := by
  cases r with
  | lagged => exact g
  | nothing => exact g.ends (closed rfl)
  | message p =>
      cases read : Event.ofPayload p.payload with
      | ok e =>
          simp only [Account.receive, read]
          split
          next => exact g
          next =>
              cases inReach with
              | true => exact ⟨g.incoming, g.ahead, g.closed, g.ended⟩
              | false => exact g.ends (reached rfl)
      | error fault =>
          simp only [Account.receive, read]
          cases tolerant with
          | true => exact g
          | false => exact g.ends ⟨_, fault, bad p fault rfl read, read⟩

/-- What the terminal takes comes from what lies before it. -/
theorem hear (g : Grounded is a) (inReach : Bool)
    (reached : inReach = false → .usual (.hear false) ∈ is) :
    Grounded is (a.hear tolerant t inReach) := by
  rw [Account.hear]
  split
  next => exact g
  next ahead some =>
      split
      next => exact g
      next ready =>
          have rest : Grounded is
              { a with ahead := .some (ahead.drop (Received.next ahead).count) } := by
            refine ⟨g.incoming, ?_, g.closed, g.ended⟩
            rintro ps ⟨⟩ p member
            exact g.ahead ahead some p (List.mem_of_mem_drop member)
          refine rest.receive reached ?_ ?_
          · intro p fault next
            exact g.ahead ahead some p (Received.mem_of_next_eq_message next) fault
          -- Nothing is left of a closed bus, as an open one would keep the terminal waiting.
          · intro nothing
            rw [Received.eq_nil_of_next_eq_nothing nothing, List.isEmpty_nil, Bool.and_true,
              Bool.not_eq_true] at ready
            exact g.closed ready

/-- A frame that the terminal takes has been sent to it. -/
theorem take (g : Grounded is a) : Grounded is a.take := by
  rw [Account.take]
  split
  next => exact g
  next => exact g
  next rest _ some sent =>
      refine g.ends (g.incoming .close ?_)
      rw [sent]
      exact List.mem_cons_self
  next f rest _ _ sent =>
      refine ⟨fun f here => g.incoming f ?_, g.ahead, g.closed, g.ended⟩
      rw [sent]
      exact List.mem_cons_of_mem _ here

/-- What happens to a terminal is the ground of what is told of it. -/
theorem happen (g : Grounded is a) {h : Happening} (last : .usual h ∈ is) :
    Grounded is (a.happen tolerant t h) := by
  cases h with
  | emit e =>
      refine g.post fun fault bad => ?_
      -- What the service itself announces is always an event.
      exact nomatch (Event.ofPayload_payload e).symm.trans bad
  | other d => exact g
  | send f =>
      refine ⟨?_, g.ahead, g.closed, g.ended⟩
      intro f' here
      rcases List.mem_append.mp here with before | new
      · exact g.incoming f' before
      · rw [List.mem_singleton.mp new]
        exact last
  | attach =>
      refine ⟨g.incoming, ?_, g.closed, g.ended⟩
      rintro ps ⟨⟩
      cases ahead : a.ahead with
      | none => exact fun p here => nomatch here
      | some ps => exact g.ahead ps ahead
  | hear inReach =>
      refine g.hear inReach ?_
      rintro rfl
      exact last
  | take => exact g.take
  | lose => exact g.ends last

/-- **Each incident keeps the ground.** -/
theorem step (g : Grounded is a) (i : Incident) : Grounded (is ++ [i]) (a.step tolerant t i) := by
  have last : i ∈ is ++ [i] := List.mem_append_right _ (List.mem_singleton_self i)
  have g := g.mono i
  rw [Account.step]
  split
  next => exact g
  next =>
      cases i with
      | usual h => exact g.happen last
      | post topic payload =>
          refine g.post ?_
          rintro fault bad rfl
          exact last
      | closeBus => exact ⟨g.incoming, g.ahead, fun _ => last, g.ended⟩

end Grounded

/-- **All that is told of a terminal has a ground**, whatever it is that has happened. -/
theorem grounded_after (tolerant : Bool) (t : TerminalTarget) (is : List Incident) :
    Grounded is (after tolerant t is) := by
  induction is using List.reverseRecOn with
  | nil => exact ⟨nofun, nofun, nofun, nofun⟩
  | append_singleton is i ih =>
      rw [after_concat]
      exact ih.step i

/-! ## Messages that are no events -/

/-- The next that the terminal would receive is a message that is no event. -/
def MeetsUnreadable (a : Account) : Prop :=
  a.ended = none ∧ ∃ ahead p fault, a.ahead = some ahead ∧ Received.next ahead = .message p ∧
    Event.ofPayload p.payload = .error fault

section

variable {inReach : Bool} {r : Received Posting}

/-- Only a message that is no event is dealt with in two ways. -/
theorem receive_eq (readable : ∀ p fault, r = .message p →
    Event.ofPayload p.payload ≠ .error fault) :
    a.receive false t inReach r = a.receive true t inReach r := by
  cases r with
  | lagged | nothing => rfl
  | message p =>
      cases read : Event.ofPayload p.payload with
      | ok e => simp only [receive, read]
      | error fault => exact absurd read (readable p fault rfl)

/-- A message that is no event ends the terminal. -/
theorem ended_receive_of_unreadable {p : Posting} {fault : Json.Fault}
    (bad : Event.ofPayload p.payload = .error fault) :
    (a.receive false t inReach (.message p)).ended = some .unreadable := by
  simp only [receive, bad]
  rfl

/-- A message that is no event does not end a tolerant terminal. -/
theorem ended_receive_tolerant (goesOn : a.ended ≠ some .unreadable) :
    (a.receive true t inReach r).ended ≠ some .unreadable := by
  cases r with
  | lagged => exact goesOn
  | nothing => exact nofun
  | message p =>
      cases read : Event.ofPayload p.payload with
      | error fault =>
          -- Only a frame that cannot be sent ends it here, or the end of the bus.
          simp only [receive, read]
          exact goesOn
      | ok e =>
          simp only [receive, read]
          split
          next => exact goesOn
          next =>
              split
              next => exact goesOn
              next => exact nofun

/-- A strict terminal and a tolerant one do the same with what is an event. -/
theorem hear_eq (readable : ¬a.MeetsUnreadable) (goesOn : a.ended = none) :
    a.hear false t inReach = a.hear true t inReach := by
  rw [hear, hear]
  split
  next => rfl
  next ahead some =>
      split
      next => rfl
      next =>
          refine receive_eq fun p fault next bad => readable ?_
          exact ⟨goesOn, ahead, p, fault, some, next, bad⟩

/-- There one terminal ends, and the other goes on. -/
theorem ended_hear_of_meetsUnreadable (meets : a.MeetsUnreadable) :
    (a.hear false t inReach).ended = some .unreadable ∧ (a.hear true t inReach).ended = none := by
  obtain ⟨goesOn, ahead, p, fault, some, next, bad⟩ := meets
  have here : ahead.isEmpty = false := by
    cases ahead with
    | nil => exact nomatch next
    | cons p rest => rfl
  simp only [hear, some, here, Bool.and_false, next]
  refine ⟨ended_receive_of_unreadable bad, ?_⟩
  simp only [receive, bad]
  exact goesOn

/-- To listen never ends a tolerant terminal for such a message. -/
theorem ended_hear_tolerant (goesOn : a.ended ≠ some .unreadable) :
    (a.hear true t inReach).ended ≠ some .unreadable := by
  rw [hear]
  split
  next => exact goesOn
  next =>
      split
      next => exact goesOn
      next => exact ended_receive_tolerant goesOn

end

theorem ended_post (a : Account) (p : Posting) : (a.post p).ended = a.ended := by
  rw [post]
  split <;> rfl

/-- What its client sends never ends a terminal for such a message. -/
theorem ended_take (goesOn : a.ended ≠ some .unreadable) :
    a.take.ended ≠ some .unreadable := by
  rw [take]
  split
  next => exact goesOn
  next => exact goesOn
  next => exact nofun
  next => exact goesOn

/-- A tolerant terminal never ends at a message that is no event. -/
theorem ended_after_tolerant (t : TerminalTarget) (is : List Incident) :
    (after true t is).ended ≠ some .unreadable := by
  induction is using List.reverseRecOn with
  | nil => exact nofun
  | append_singleton is i goesOn =>
      rw [after_concat, step]
      split
      next => exact goesOn
      next =>
          cases i with
          | post topic payload =>
              rw [meet, ended_post]
              exact goesOn
          | closeBus => exact goesOn
          | usual h =>
              cases h with
              | emit e =>
                  rw [meet, happen, ended_post]
                  exact goesOn
              | other | send | attach => exact goesOn
              | hear inReach => exact ended_hear_tolerant goesOn
              | take => exact ended_take goesOn
              | lose => exact nofun

/-- The two kinds of terminals do the same unless a message that is no event is to be received. -/
theorem step_eq (i : Incident) :
    a.step false t i = a.step true t i ∨
      a.MeetsUnreadable ∧ (∃ inReach, i = .usual (.hear inReach)) ∧
        (a.step false t i).ended = some .unreadable := by
  cases ended : a.ended with
  | some e => exact .inl (by rw [step_of_ended, step_of_ended] <;> rw [ended] <;> rfl)
  | none =>
      rw [step_of_goesOn ended, step_of_goesOn ended]
      cases i with
      | post | closeBus => exact .inl rfl
      | usual h =>
          cases h with
          | emit | other | send | attach | take | lose => exact .inl rfl
          | hear inReach =>
              by_cases meets : a.MeetsUnreadable
              · exact .inr ⟨meets, ⟨inReach, rfl⟩, (ended_hear_of_meetsUnreadable meets).1⟩
              · exact .inl (hear_eq meets ended)

/-- A message that is no event is where a strict terminal and a tolerant one part. -/
theorem ended_step_of_meetsUnreadable (meets : a.MeetsUnreadable) (inReach : Bool) :
    (a.step false t (.usual (.hear inReach))).ended = some .unreadable ∧
      (a.step true t (.usual (.hear inReach))).ended = none := by
  rw [step_of_goesOn meets.1, step_of_goesOn meets.1]
  exact ended_hear_of_meetsUnreadable meets

/-- **Where the two kinds of terminals part.** They are alike, until one that is not tolerant ends
at a message that is no event. -/
theorem after_eq (t : TerminalTarget) (is : List Incident) :
    after false t is = after true t is ∨
      (after false t is).ended = some .unreadable ∧ ∃ earlier inReach,
        earlier ++ [.usual (.hear inReach)] <+: is ∧
        (after true t earlier).MeetsUnreadable := by
  induction is using List.reverseRecOn with
  | nil => exact .inl rfl
  | append_singleton is i ih =>
      rw [after_concat, after_concat]
      rcases ih with same | ⟨ended, earlier, inReach, before, meets⟩
      · rw [same]
        rcases step_eq (a := after true t is) (t := t) i with same' | ⟨meets, ⟨inReach, rfl⟩, ended⟩
        · exact .inl same'
        · exact .inr ⟨ended, is, inReach, List.prefix_refl _, meets⟩
      · refine .inr ⟨?_, earlier, inReach, before.trans (List.prefix_append _ _), meets⟩
        rw [step_of_ended (by rw [ended]; rfl), ended]

end Account

end Playgrounds
