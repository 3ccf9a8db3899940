import Playgrounds.Proofs.Worker.Callers
import Playgrounds.Proofs.Worker.Careers

/-!
# The contexts of the callers

A token carries the number under which it was made, and so the same caller holds other tokens in
other histories. A context is what a caller means by its token: it is named by the caller, and its
token is made when it is first needed.

* `Context` — the dispatcher's, one with a name, or a child of another.
* `Scene` — the timers, the tokens of the contexts, and what was said and answered so far.
* `Scene.meet` — the token of a context.
* `Occurrence`, `Scene.step`, `Scene.after` — what may happen, one thing at a time, and a history.
* `Scene.Placed` — the invariant: whose the tokens are, and that contexts descend from each other as
  their tokens do.
* `Scene.Placed.covers_iff` — whether a token is cancelled, told by contexts.
* `Scene.Placed.meet` — what is true once a context has a token, and what is as before.
* `Scene.placed_after` — the invariant holds after every history.
-/

namespace Playgrounds

/-- A context in which callers ask for something. -/
inductive Context where
  /-- The dispatcher's own. -/
  | dispatcher
  | named (name : String)
  /-- A child of a context, by the number that its parent gives it. -/
  | child (parent : Context) (number : Nat)
deriving DecidableEq, Repr

/-- A context and those that it descends from. -/
def Context.line : Context → List Context
  | .child parent number => .child parent number :: parent.line
  | .dispatcher => [.dispatcher]
  | .named name => [.named name]

namespace Timers

/-- The timers, and what was made, said and answered in the course of a history. -/
structure Scene where
  timers : Timers
  /-- The tokens that were made for contexts. -/
  tokens : List (Context × Token)
  log : List Notice
  /-- What was answered to questions about a session. -/
  answers : List (String × Bool)

/-- What may happen. -/
inductive Occurrence where
  /-- In a context the session of an instance is to have a worker. -/
  | run (i : Instance) (ctx : Context)
  /-- It is asked whether a session has a worker. -/
  | ask (session : String)
  /-- The worker of a session is asked to end. -/
  | cancel (session : String)
  | cancelContext (ctx : Context)
  | shutDown
  /-- The worker of a session makes its next move. It may break down by that. -/
  | act (session : String) (now : Nat) (sight : Sight)
  /-- The worker of a session is thrown away. -/
  | throwAway (session : String)

namespace Scene

/-- Nobody is at work, and nothing was asked. -/
def start (limit : Option Nat) : Scene :=
  ⟨.empty limit, [], [], []⟩

/-- The timers, and the tokens in the hands of callers. -/
def custody (c : Scene) : Custody :=
  ⟨c.timers, c.tokens.map (·.2)⟩

/-- The token of a context, if it has one already. -/
def token? (c : Scene) : Context → Option Token
  | .dispatcher => some .dispatcher
  | .named name => some (.named name)
  | .child parent number => c.tokens.lookup (.child parent number)

/-- The scene with a new token for a child of a context that has the token `above`. -/
def withToken (c : Scene) (parent : Context) (number : Nat) (above : Token) : Scene :=
  { c with
    timers := (c.timers.newChild above).2
    tokens := (.child parent number, (c.timers.newChild above).1) :: c.tokens }

/-- The token of a context. It is made now if the context has none. -/
def meet (c : Scene) : Context → Token × Scene
  | .dispatcher => (.dispatcher, c)
  | .named name => (.named name, c)
  | .child parent number =>
    let (above, c) := c.meet parent
    match c.token? (.child parent number) with
    | some token => (token, c)
    | none => ((c.timers.newChild above).1, c.withToken parent number above)

/-- A context has been cancelled, by itself and not only through another. -/
def HasCancelled (c : Scene) (ctx : Context) : Prop :=
  ∃ t, c.token? ctx = some t ∧ c.timers.HasCancelled t

/-- Callers hold the tokens that were made for them. Contexts descend from each other as their
tokens do, and no two have the same token. -/
structure Placed (c : Scene) : Prop where
  sound : c.custody.Sound
  above : ∀ parent number t, c.token? (.child parent number) = some t →
    ∃ above serial, t = .child above serial ∧ c.token? parent = some above
  distinct : ∀ one other t, c.token? one = some t → c.token? other = some t → one = other

/-- Contexts were given tokens, and nothing else was done. -/
structure Meets (c c' : Scene) : Prop where
  workers : c'.timers.workers = c.timers.workers
  roster : c'.timers.staff.roster = c.timers.staff.roster
  readLimit : c'.timers.readLimit = c.timers.readLimit
  cancelled : c'.timers.staff.cancellations.cancelled = c.timers.staff.cancellations.cancelled
  token? : ∀ ctx t, c.token? ctx = some t → c'.token? ctx = some t
  hasCancelled : ∀ ctx, c'.HasCancelled ctx ↔ c.HasCancelled ctx
  log : c'.log = c.log
  answers : c'.answers = c.answers

/-- At first only the dispatcher and the named contexts have tokens, each its own. -/
theorem placed_start (limit : Option Nat) : (start limit).Placed where
  sound := Custody.sound_start limit
  above := fun _ _ _ found => nomatch found
  distinct := by
    intro one other t found found'
    cases one with
    | child => exact nomatch found
    | dispatcher =>
        cases other with
        | child => exact nomatch found'
        | dispatcher => rfl
        | named => exact nomatch found.trans found'.symm
    | named name =>
        cases other with
        | child => exact nomatch found'
        | dispatcher => exact nomatch found.trans found'.symm
        | named name' =>
            cases found.trans found'.symm
            rfl

theorem Meets.refl (c : Scene) : Meets c c :=
  ⟨rfl, rfl, rfl, rfl, fun _ _ => id, fun _ => Iff.rfl, rfl, rfl⟩

namespace Placed

variable {c : Scene} (p : c.Placed)

include p

/-- The token of a context is in the hands of callers. -/
theorem holds {ctx : Context} {t : Token} (found : c.token? ctx = some t) : c.custody.Holds t := by
  cases ctx with
  | dispatcher | named =>
      obtain rfl := Option.some.inj found
      trivial
  | child parent number =>
      obtain ⟨above, serial, rfl, -⟩ := p.above parent number t found
      obtain ⟨before, after, listed⟩ := List.lookup_eq_some_iff.mp found
      exact List.mem_map_of_mem (listed.1 ▸ List.mem_append_right before List.mem_cons_self)

/-- A token of a context was made before. -/
theorem lt_issued {ctx : Context} {above : Token} {serial : Nat}
    (found : c.token? ctx = some (.child above serial)) : serial < c.timers.issued :=
  p.sound.lt_of_holds (p.holds found)

/-- A new token is no context's yet. -/
theorem token?_ne_issued (ctx : Context) (above : Token) :
    c.token? ctx ≠ some (.child above c.timers.issued) :=
  fun found => Nat.lt_irrefl _ (p.lt_issued found)

/-- Whether a token is cancelled is told by the contexts that its own descends from. -/
theorem covers_iff {ctx : Context} {t : Token} (found : c.token? ctx = some t) :
    c.timers.staff.cancellations.covers t = true ↔ ∃ u ∈ ctx.line, c.HasCancelled u := by
  induction ctx generalizing t with
  | dispatcher | named =>
      obtain rfl := Option.some.inj found
      simp only [Cancellations.covers, decide_eq_true_eq, Context.line, List.mem_singleton,
        exists_eq_left]
      constructor
      · exact fun h => ⟨_, rfl, h⟩
      · rintro ⟨t, same, h⟩
        rwa [Option.some.inj same]
  | child parent number ih =>
      obtain ⟨above, serial, rfl, found'⟩ := p.above parent number t found
      rw [Cancellations.covers, Bool.or_eq_true, decide_eq_true_eq, ih found', Context.line]
      simp only [List.mem_cons, exists_eq_or_imp]
      refine or_congr_left ⟨fun h => ⟨_, found, h⟩, ?_⟩
      rintro ⟨t, same, h⟩
      rwa [Option.some.inj (found.symm.trans same)]

end Placed

/-- A new context gets the next token, and the others keep theirs. -/
theorem token?_withToken (c : Scene) (parent : Context) (number : Nat) (above : Token)
    (ctx : Context) :
    (c.withToken parent number above).token? ctx
      = if ctx = .child parent number then some (.child above c.timers.issued)
        else c.token? ctx := by
  cases ctx with
  | dispatcher | named => rfl
  | child parent' number' =>
      show List.lookup (Context.child parent' number')
        ((.child parent number, .child above c.timers.issued) :: c.tokens) = _
      by_cases same : Context.child parent' number' = .child parent number
      · rw [if_pos same, same, List.lookup_cons_self]
      · rw [if_neg same, List.lookup_cons, beq_false_of_ne same]
        rfl

namespace Placed

variable {c : Scene} (p : c.Placed)

include p

/-- A context gets a token that its parent has one for. -/
theorem withToken {parent : Context} {number : Nat} {above : Token}
    (unmet : c.token? (.child parent number) = none) (found : c.token? parent = some above) :
    (c.withToken parent number above).Placed ∧ Meets c (c.withToken parent number above) := by
  have kept : ∀ ctx t, c.token? ctx = some t →
      (c.withToken parent number above).token? ctx = some t := by
    intro ctx t found'
    rw [token?_withToken, if_neg, found']
    rintro rfl
    exact nomatch unmet.symm.trans found'
  refine ⟨⟨p.sound.newChild (p.holds found), ?_, ?_⟩, ⟨rfl, rfl, rfl, rfl, kept, ?_, rfl, rfl⟩⟩
  · intro parent' number' t found'
    rw [token?_withToken] at found'
    split at found'
    next same =>
        cases same
        exact ⟨above, _, (Option.some.inj found').symm, kept _ _ found⟩
    next =>
        obtain ⟨above', serial, rfl, found''⟩ := p.above _ _ _ found'
        exact ⟨above', serial, rfl, kept _ _ found''⟩
  · intro one other t found₁ found₂
    rw [token?_withToken] at found₁ found₂
    split at found₁ <;> split at found₂
    next same same' => exact same.trans same'.symm
    next =>
        rw [← found₁] at found₂
        exact absurd found₂ (p.token?_ne_issued other above)
    next =>
        rw [← found₂] at found₁
        exact absurd found₁ (p.token?_ne_issued one above)
    next => exact p.distinct one other t found₁ found₂
  · intro ctx
    constructor
    · rintro ⟨t, found', cancelled⟩
      rw [token?_withToken] at found'
      split at found'
      next =>
          -- what has not been made has not been cancelled
          obtain rfl := Option.some.inj found'
          exact absurd (p.sound.cancelled_lt _ _ cancelled) (Nat.lt_irrefl _)
      next => exact ⟨t, found', cancelled⟩
    · rintro ⟨t, found', cancelled⟩
      exact ⟨t, kept _ _ found', cancelled⟩

end Placed

theorem Meets.trans {a b c : Scene} (first : Meets a b) (then' : Meets b c) : Meets a c where
  workers := then'.workers.trans first.workers
  roster := then'.roster.trans first.roster
  readLimit := then'.readLimit.trans first.readLimit
  cancelled := then'.cancelled.trans first.cancelled
  token? := fun ctx t found => then'.token? ctx t (first.token? ctx t found)
  hasCancelled := fun ctx => (then'.hasCancelled ctx).trans (first.hasCancelled ctx)
  log := then'.log.trans first.log
  answers := then'.answers.trans first.answers

/-- **What is true once a context has met with its token.** -/
theorem Placed.meet {c : Scene} (p : c.Placed) (ctx : Context) :
    (c.meet ctx).2.Placed ∧ Meets c (c.meet ctx).2 ∧
      (c.meet ctx).2.token? ctx = some (c.meet ctx).1 := by
  induction ctx with
  | dispatcher | named => exact ⟨p, .refl c, rfl⟩
  | child parent number ih =>
      obtain ⟨placed, meets, found⟩ := ih
      cases met : (c.meet parent).2.token? (.child parent number) with
      | some token =>
          simp only [Scene.meet, met]
          exact ⟨placed, meets, trivial⟩
      | none =>
          simp only [Scene.meet, met]
          obtain ⟨placed', meets'⟩ := placed.withToken met found
          refine ⟨placed', meets.trans meets', ?_⟩
          rw [token?_withToken, if_pos rfl]
          rfl

/-! ## What may happen -/

/-- Something was done to the timers, said and answered. -/
def put (c : Scene) (r : Timers × List Notice) (answers : List (String × Bool)) : Scene where
  timers := r.1
  tokens := c.tokens
  log := c.log ++ r.2
  answers := c.answers ++ answers

/-- With a token, the session of an instance is to have a worker. The answer is whether one was
launched; none is given for an instance that belongs to no session. -/
def request (c : Scene) (i : Instance) (token : Token) : Scene :=
  c.put (c.timers.run i token).2
    (if i.sessionId.isEmpty then []
      else [(i.sessionId, (c.timers.staff.launch i.sessionId token).1.isSome)])

/-- What comes of an occurrence. -/
def step (c : Scene) : Occurrence → Scene
  | .run i ctx => (c.meet ctx).2.request i (c.meet ctx).1
  | .ask session => c.put (c.timers, []) [(session, c.timers.staff.roster.contains session)]
  | .cancel session =>
    c.put (c.timers.step (.cancel session)) [(session, (c.timers.cancel session).1)]
  | .cancelContext ctx =>
    (c.meet ctx).2.put ((c.meet ctx).2.timers.step (.cancelToken (c.meet ctx).1)) []
  | .shutDown => c.put (c.timers.step .shutDown) []
  | .act session now sight => c.put (c.timers.step (.act session now sight)) []
  | .throwAway session => c.put (c.timers.throwAway session) []

/-- What comes of a history. -/
def after (limit : Option Nat) (os : List Occurrence) : Scene :=
  os.foldl step (start limit)

variable {c : Scene}

theorem after_concat (limit : Option Nat) (os : List Occurrence) (o : Occurrence) :
    after limit (os ++ [o]) = (after limit os).step o := by
  simp only [after, List.foldl_append, List.foldl_cons, List.foldl_nil]

/-- Whoever is free can be launched. -/
theorem isSome_launch_iff {t : Timers} {session : String} (token : Token) :
    (t.staff.launch session token).1.isSome = true ↔ t.IsFree session := by
  by_cases free : t.IsFree session
  · obtain ⟨absent, -⟩ := not_or.mp (isFree_iff.mp free)
    rw [Staff.launch_of_free token absent free.isOpen]
    exact iff_of_true rfl free
  · rw [Staff.launch_of_taken token (not_not.mp (mt isFree_iff.mpr free))]
    exact iff_of_false Bool.false_ne_true free

/-- The session of an instance gets a worker if it is free. -/
theorem request_of_free {i : Instance} (attached : i.sessionId.isEmpty = false)
    (free : c.timers.IsFree i.sessionId) (token : Token) :
    c.request i token = c.put (c.timers.launchFor i.sessionId token,
      [.line ⟨.debug, .countdown, "launched session timer",
        [("instance", i.name), ("session_id", i.sessionId)]⟩]) [(i.sessionId, true)] := by
  obtain ⟨absent, opened⟩ := not_or.mp (isFree_iff.mp free)
  simp only [request, run, attached, launch, Staff.launch_of_free token absent free.isOpen]
  rfl

/-- It gets none if it is not. -/
theorem request_of_taken {i : Instance} (attached : i.sessionId.isEmpty = false)
    (taken : ¬c.timers.IsFree i.sessionId) (token : Token) :
    c.request i token
      = c.put (c.timers, [line .trace "session timer already running" i.sessionId []])
        [(i.sessionId, false)] := by
  rw [isFree_iff, not_not] at taken
  simp only [request, run, attached, launch, Staff.launch_of_taken token taken]
  rfl

theorem request_of_detached {i : Instance} (detached : i.sessionId.isEmpty = true)
    (token : Token) : c.request i token = c.put (c.timers, []) [] := by
  simp only [request, run, detached, if_true]

/-- What is known of a scene is not touched by a deed that makes no token. -/
theorem Placed.put (p : c.Placed) {e : Deed} (permitted : c.custody.Permits e)
    (makes : ∀ parent, e ≠ .newChild parent) (answers : List (String × Bool)) :
    (c.put (c.timers.step e) answers).Placed := by
  have sound := p.sound.step permitted
  have handed : (c.custody.step e).handed = c.custody.handed := by
    cases e with
    | newChild parent => exact absurd rfl (makes parent)
    | run | cancel | cancelToken | shutDown | act => rfl
  refine ⟨?_, p.above, p.distinct⟩
  show Custody.Sound ⟨(c.timers.step e).1, c.custody.handed⟩
  rw [← handed]
  exact sound

theorem Placed.request (p : c.Placed) (i : Instance) {token : Token}
    (holds : c.custody.Holds token) : (c.request i token).Placed :=
  p.put (e := .run i token) holds nofun _

theorem Placed.throwAway (p : c.Placed) (session : String) :
    (c.put (c.timers.throwAway session) []).Placed := by
  refine ⟨?_, p.above, p.distinct⟩
  have left := p.sound.finish session .aborted
  show Custody.Sound ⟨(c.timers.throwAway session).1, c.custody.handed⟩
  cases found : c.timers.workers[session]? with
  | none =>
      rw [throwAway_of_none found]
      exact p.sound
  | some w =>
      by_cases fresh : w.phase = .fresh
      · rw [throwAway_of_fresh found fresh]
        exact ⟨left.registered_eq, left.handed, left.own, left.apart, left.cancelled_lt⟩
      · rw [throwAway_of_begun found fresh]
        exact left

/-- **Whatever happens, it stays known whose the tokens are.** -/
theorem Placed.step (p : c.Placed) (o : Occurrence) : (c.step o).Placed := by
  cases o with
  | run i ctx =>
      obtain ⟨placed, -, found⟩ := p.meet ctx
      exact placed.request i (placed.holds found)
  | ask session => exact ⟨p.sound, p.above, p.distinct⟩
  | cancel session => exact p.put (e := .cancel session) trivial nofun _
  | cancelContext ctx =>
      obtain ⟨placed, -, found⟩ := p.meet ctx
      exact placed.put (e := .cancelToken _) (placed.holds found) nofun _
  | shutDown => exact p.put (e := .shutDown) trivial nofun _
  | act session now sight => exact p.put (e := .act session now sight) trivial nofun _
  | throwAway session => exact p.throwAway session

/-- **After any occurrences every context has a token of its own.** -/
theorem placed_after (limit : Option Nat) (os : List Occurrence) : (after limit os).Placed := by
  induction os using List.reverseRecOn with
  | nil => exact placed_start limit
  | append_singleton os o ih =>
      rw [after_concat]
      exact ih.step o

end Scene

end Timers

end Playgrounds
