import Playgrounds.Proofs.Worker.Contexts

/-!
# Sessions do not influence each other's timers

All sessions share one roster, one set of cancellations and one log. Still, what is said of a
session and answered about it depends on nothing but what concerns that session.

* `concerns`, `about` — what of a history concerns a session: its own affairs, a shutdown, and the
  cancellation of a context that a worker was asked for it in, or of one that this descends from.
* `Scene.Spares` — the relation of a scene to a later one that a session cannot tell from it;
  `Scene.spares_step` says that it holds across all that does not concern the session.
* `Scene.Alike` — two scenes that a session cannot tell from each other; `Scene.Alike.step` says
  that they stay so if the same happens in both.
* `sessions_apart` — what follows for two whole histories.
-/

namespace Playgrounds.Timers

/-- Whether something concerns a session that workers were asked for in some contexts. -/
def concerns (session : String) (contexts : List Context) : Occurrence → Bool
  | .run i _ => i.sessionId = session
  | .ask other | .cancel other | .act other _ _ | .throwAway other => other = session
  | .cancelContext ctx => contexts.any fun own => ctx ∈ own.line
  | .shutDown => true

/-- The contexts in which a worker was asked for, for a session. -/
def contextsOf (session : String) (os : List Occurrence) : List Context :=
  os.filterMap fun
    | .run i ctx => if i.sessionId = session then some ctx else none
    | _ => none

/-- What concerns a session. -/
def about (session : String) (os : List Occurrence) : List Occurrence :=
  os.filter (concerns session (contextsOf session os))

namespace Scene

/-- What was answered about a session. -/
def answersTo (c : Scene) (session : String) : List Bool :=
  (c.answers.filter (·.1 = session)).map (·.2)

variable {c c' d d' : Scene} {session : String} {contexts : List Context}

theorem answersTo_put (r : Timers × List Notice) (answers : List (String × Bool)) :
    (c.put r answers).answersTo session
      = c.answersTo session ++ (answers.filter (·.1 = session)).map (·.2) := by
  show ((c.answers ++ answers).filter _).map _ = _
  rw [List.filter_append, List.map_append]
  rfl

/-! ## What a session cannot tell apart -/

/-- A context that a session has to do with: one in which a worker was asked for it, or one that
this descends from. -/
def IsOwn (contexts : List Context) (ctx : Context) : Prop :=
  ∃ own ∈ contexts, ctx ∈ own.line

/-- The context whose token a deed cancels. -/
def Names (c : Scene) (e : Deed) (ctx : Context) : Prop :=
  ∃ t, c.token? ctx = some t ∧ e = .cancelToken t

/-- The session has a worker in some phase, launched in a context, that was asked to end or not. -/
def Employs (c : Scene) (session : String) (ctx : Context) (phase : Worker.Phase) (asked : Prop) :
    Prop :=
  ∃ t serial, c.timers.workers[session]? = some ⟨.child t serial, phase⟩ ∧
    c.token? ctx = some t ∧ (c.timers.HasCancelled (.child t serial) ↔ asked)

/-- What happened from one scene to another cannot be told by a session. -/
structure Spares (session : String) (contexts : List Context) (c d : Scene) : Prop where
  readLimit : d.timers.readLimit = c.timers.readLimit
  isClosed : d.timers.staff.roster.isClosed = c.timers.staff.roster.isClosed
  worker : d.timers.workers[session]? = c.timers.workers[session]?
  token? : ∀ ctx t, c.token? ctx = some t → d.token? ctx = some t
  asked : ∀ w, c.timers.workers[session]? = some w →
    (d.timers.HasCancelled w.token ↔ c.timers.HasCancelled w.token)
  hasCancelled : ∀ ctx, IsOwn contexts ctx → (d.HasCancelled ctx ↔ c.HasCancelled ctx)
  events : events session d.log = events session c.log
  exits : exits session d.log = exits session c.log
  answers : d.answersTo session = c.answersTo session

/-- Two scenes look the same to a session. -/
structure Alike (session : String) (contexts : List Context) (c c' : Scene) : Prop where
  readLimit : c.timers.readLimit = c'.timers.readLimit
  isClosed : c.timers.staff.roster.isClosed = c'.timers.staff.roster.isClosed
  worker : (c.timers.workers[session]? = none ∧ c'.timers.workers[session]? = none) ∨
    ∃ ctx ∈ contexts, ∃ phase asked,
      c.Employs session ctx phase asked ∧ c'.Employs session ctx phase asked
  hasCancelled : ∀ ctx, IsOwn contexts ctx → (c.HasCancelled ctx ↔ c'.HasCancelled ctx)
  events : events session c.log = events session c'.log
  exits : exits session c.log = exits session c'.log
  answers : c.answersTo session = c'.answersTo session

/-- What two scenes cannot be told apart by holds the other way round. -/
theorem Alike.symm (a : Alike session contexts c c') : Alike session contexts c' c where
  readLimit := a.readLimit.symm
  isClosed := a.isClosed.symm
  worker := by
    obtain ⟨none, none'⟩ | ⟨ctx, own, phase, asked, employs, employs'⟩ := a.worker
    · exact .inl ⟨none', none⟩
    · exact .inr ⟨ctx, own, phase, asked, employs', employs⟩
  hasCancelled := fun ctx own => (a.hasCancelled ctx own).symm
  events := a.events.symm
  exits := a.exits.symm
  answers := a.answers.symm

/-- Nothing tells two scenes apart in which nothing has happened. -/
theorem alike_start (limit : Option Nat) : Alike session contexts (start limit) (start limit) where
  readLimit := rfl
  isClosed := rfl
  worker := .inl ⟨Std.ExtTreeMap.getElem?_empty, Std.ExtTreeMap.getElem?_empty⟩
  hasCancelled := fun _ _ => Iff.rfl
  events := rfl
  exits := rfl
  answers := rfl

/-- What a session cannot tell leaves alike what was. -/
theorem Spares.alike (spares : Spares session contexts c d) (a : Alike session contexts c c') :
    Alike session contexts d c' where
  readLimit := spares.readLimit.trans a.readLimit
  isClosed := spares.isClosed.trans a.isClosed
  worker := by
    rw [spares.worker]
    refine a.worker.imp_right ?_
    rintro ⟨ctx, own, phase, asked, ⟨t, serial, found, met, cancelled⟩, employs'⟩
    exact ⟨ctx, own, phase, asked, ⟨t, serial, spares.worker.trans found, spares.token? ctx t met,
      (spares.asked _ found).trans cancelled⟩, employs'⟩
  hasCancelled := fun ctx own => (spares.hasCancelled ctx own).trans (a.hasCancelled ctx own)
  events := spares.events.trans a.events
  exits := spares.exits.trans a.exits
  answers := spares.answers.trans a.answers

theorem Spares.trans {e : Scene} (first : Spares session contexts c d)
    (then' : Spares session contexts d e) : Spares session contexts c e where
  readLimit := then'.readLimit.trans first.readLimit
  isClosed := then'.isClosed.trans first.isClosed
  worker := then'.worker.trans first.worker
  token? := fun ctx t found => then'.token? ctx t (first.token? ctx t found)
  asked := fun w found =>
    (then'.asked w (first.worker.trans found)).trans (first.asked w found)
  hasCancelled := fun ctx own => (then'.hasCancelled ctx own).trans (first.hasCancelled ctx own)
  events := then'.events.trans first.events
  exits := then'.exits.trans first.exits
  answers := then'.answers.trans first.answers

/-- No session can tell whether contexts have met with their tokens. -/
theorem Meets.spares (meets : Meets c d) : Spares session contexts c d where
  readLimit := meets.readLimit
  isClosed := congrArg Roster.isClosed meets.roster
  worker := by rw [meets.workers]
  token? := meets.token?
  asked := by
    intro w _
    rw [Timers.HasCancelled, meets.cancelled]
    rfl
  hasCancelled := fun ctx _ => meets.hasCancelled ctx
  events := by rw [meets.log]
  exits := by rw [meets.log]
  answers := by rw [answersTo, meets.answers, answersTo]

/-! ## What does not concern a session -/

theorem concerns_cancelContext_iff {ctx : Context} :
    concerns session contexts (.cancelContext ctx) = true ↔ IsOwn contexts ctx := by
  simp only [concerns, List.any_eq_true, decide_eq_true_eq, IsOwn]

namespace Placed

variable (p : c.Placed)

include p

/-- By a deed of the callers no context is cancelled but the one that it names. -/
theorem hasCancelled_put (e : Deed) (answers : List (String × Bool)) (ctx : Context) :
    (c.put (c.timers.step e) answers).HasCancelled ctx ↔ c.HasCancelled ctx ∨ c.Names e ctx := by
  have held : ∀ t, c.token? ctx = some t →
      ((c.timers.step e).1.HasCancelled t ↔ c.timers.HasCancelled t ∨ e = .cancelToken t) :=
    fun t found => Custody.Sound.hasCancelled_held p.sound (p.holds found)
  constructor
  · rintro ⟨t, found, cancelled⟩
    exact ((held t found).mp cancelled).imp (⟨t, found, ·⟩) (⟨t, found, ·⟩)
  · rintro (⟨t, found, cancelled⟩ | ⟨t, found, named⟩)
    · exact ⟨t, found, (held t found).mpr (.inl cancelled)⟩
    · exact ⟨t, found, (held t found).mpr (.inr named)⟩

/-- A session cannot tell that others are dealt with. -/
theorem spares {e : Deed} (permitted : c.custody.Permits e) (avoids : e.Avoids session c.timers)
    (unasked : ¬(e = .cancel session ∨ e = .shutDown))
    (unnamed : ∀ ctx, IsOwn contexts ctx → ¬c.Names e ctx) {answers : List (String × Bool)}
    (unanswered : ∀ a ∈ answers, a.1 ≠ session) :
    Spares session contexts c (c.put (c.timers.step e) answers) := by
  have passes := passesBy_step c.timers avoids
  refine ⟨passes.readLimit, ?_, passes.worker, fun _ _ => id, ?_, ?_, ?_, ?_, ?_⟩
  · exact Bool.eq_iff_iff.mpr ((Custody.isClosed_step (c := c.custody)).trans
      (or_iff_left (not_or.mp unasked).2))
  · intro w found
    exact (p.sound.hasCancelled_own permitted (p.sound.registered_of_found found)).trans
      (or_iff_left unasked)
  · intro ctx own
    rw [p.hasCancelled_put, or_iff_left (unnamed ctx own)]
  · show events session (c.log ++ _) = _
    rw [events_append, passes.events, List.append_nil]
  · show exits session (c.log ++ _) = _
    rw [exits_append, passes.exits, List.append_nil]
  · rw [answersTo_put, List.filter_eq_nil_iff.mpr fun a h => by simpa using unanswered a h]
    exact List.append_nil _

omit p in
/-- A session cannot tell that the worker of another is thrown away. -/
theorem spares_throwAway {other : String} (apart : other ≠ session) :
    Spares session contexts c (c.put (c.timers.throwAway other) []) := by
  -- A worker that is thrown away takes only its own entry and its own farewell with it.
  have passes : PassesBy session c.timers (c.timers.throwAway other) ∧
      (c.timers.throwAway other).1.staff.cancellations = c.timers.staff.cancellations ∧
      (c.timers.throwAway other).1.staff.roster.isClosed = c.timers.staff.roster.isClosed := by
    cases found : c.timers.workers[other]? with
    | none =>
        rw [throwAway_of_none found]
        exact ⟨.nothing _, rfl, rfl⟩
    | some w =>
        have ends := PassesBy.finish (t := c.timers) apart .aborted
        by_cases fresh : w.phase = .fresh
        · rw [throwAway_of_fresh found fresh]
          exact ⟨⟨ends.worker, ends.entry, rfl, fun _ => id, rfl, rfl⟩, rfl, rfl⟩
        · rw [throwAway_of_begun found fresh]
          exact ⟨ends, rfl, rfl⟩
  obtain ⟨passes, cancellations, isClosed⟩ := passes
  have same : ∀ t, (c.timers.throwAway other).1.HasCancelled t ↔ c.timers.HasCancelled t := by
    intro t
    rw [Timers.HasCancelled, cancellations]
    rfl
  refine ⟨passes.readLimit, isClosed, passes.worker, fun _ _ => id, fun w _ => same w.token, ?_, ?_,
    ?_, ?_⟩
  · exact fun ctx _ => exists_congr fun t => and_congr_right fun _ => same t
  · show events session (c.log ++ _) = _
    rw [events_append, passes.events, List.append_nil]
  · show exits session (c.log ++ _) = _
    rw [exits_append, passes.exits, List.append_nil]
  · rw [answersTo_put]
    exact List.append_nil _

/-- **A session cannot tell that something happens which does not concern it.** -/
theorem spares_step (o : Occurrence) (unconcerned : concerns session contexts o = false) :
    Spares session contexts c (c.step o) := by
  cases o with
  | run i ctx =>
      have apart : i.sessionId ≠ session := of_decide_eq_false unconcerned
      obtain ⟨placed, meets, found⟩ := p.meet ctx
      refine meets.spares.trans ?_
      refine placed.spares (e := .run i (c.meet ctx).1) (placed.holds found) (.inl apart) nofun
        ?_ ?_
      · exact fun _ _ named => nomatch named
      · intro a h
        split at h
        next => exact nomatch h
        next => rwa [List.mem_singleton.mp h]
  | ask other =>
      have apart : other ≠ session := of_decide_eq_false unconcerned
      refine ⟨rfl, rfl, rfl, fun _ _ => id, fun _ _ => Iff.rfl, fun _ _ => Iff.rfl, ?_, ?_, ?_⟩
      · exact congrArg _ (List.append_nil c.log)
      · exact congrArg _ (List.append_nil c.log)
      · rw [Scene.step, answersTo_put, List.filter_cons_of_neg (by simpa using apart)]
        exact List.append_nil _
  | cancel other =>
      have apart : other ≠ session := of_decide_eq_false unconcerned
      refine p.spares (e := .cancel other) trivial trivial ?_ (fun _ _ named => nomatch named) ?_
      · rintro (same | same)
        · exact apart (Deed.cancel.inj same)
        · exact nomatch same
      · intro a h
        rwa [List.mem_singleton.mp h]
  | cancelContext ctx =>
      obtain ⟨placed, meets, found⟩ := p.meet ctx
      refine meets.spares.trans ?_
      refine placed.spares (e := .cancelToken (c.meet ctx).1) (placed.holds found) trivial nofun ?_
        nofun
      -- no other context has its token
      rintro other own ⟨t, found', named⟩
      rw [← Deed.cancelToken.inj named] at found'
      rw [placed.distinct other ctx _ found' found, ← concerns_cancelContext_iff] at own
      exact nomatch unconcerned.symm.trans own
  | shutDown => exact nomatch unconcerned
  | act other now sight =>
      exact p.spares (e := .act other now sight) trivial (of_decide_eq_false unconcerned) nofun
        (fun _ _ named => nomatch named) nofun
  | throwAway other => exact spares_throwAway (of_decide_eq_false unconcerned)

end Placed

/-! ## What concerns it -/

/-- The worker of a session is cancelled if it was itself asked to end, or the context in which it
was launched has been cancelled, or one that this descends from. -/
theorem Placed.isCancelled_iff (p : c.Placed) {ctx : Context} {t : Token} {serial : Nat}
    {phase : Worker.Phase} (met : c.token? ctx = some t) :
    c.timers.isCancelled ⟨.child t serial, phase⟩ = true
      ↔ c.timers.HasCancelled (.child t serial) ∨ ∃ u ∈ ctx.line, c.HasCancelled u := by
  rw [isCancelled, Cancellations.covers, Bool.or_eq_true, decide_eq_true_eq, p.covers_iff met]
  rfl

/-- Two workers make the same of their turn: they go on in the same phase, or end for the same
reason, or nothing happens. -/
inductive SameTurn (session : String) (t t' : Timers) (w w' : Worker) :
    Timers × List Notice → Timers × List Notice → Prop where
  | goesOn (phase : Worker.Phase) (tally tally' : Tally) (said : List Notice) :
    SameTurn session t t' w w' ({ t.setPhase session w phase with tally }, said)
      ({ t'.setPhase session w' phase with tally := tally' }, said)
  | ends (e : Exit) : SameTurn session t t' w w' (t.finish session e) (t'.finish session e)
  | rests : SameTurn session t t' w w' (t, []) (t', [])

section

variable {t t' : Timers} {w w' : Worker}

theorem sameTurn_conclude (due : Nat) (v : Verdict) :
    SameTurn session t t' w w' (t.conclude session w due v) (t'.conclude session w' due v) := by
  cases v with
  | announce left => exact .goesOn _ _ _ _
  | failed why => exact .goesOn _ _ _ _
  | stop e => exact .ends e

/-- Two workers that ask at the same time are answered alike. -/
theorem sameTurn_ask (limit : t.readLimit = t'.readLimit) (due now : Nat)
    (call : Store.Call Session) (clock : Instant) :
    SameTurn session t t' w w' (t.ask session w due now call clock)
      (t'.ask session w' due now call clock) := by
  cases call with
  | answered read => exact sameTurn_conclude _ _
  | delayed ms =>
      rw [Timers.ask, Timers.ask, wait, wait, ← limit]
      exact .goesOn _ t.tally t'.tally _
  | silent =>
      rw [Timers.ask, Timers.ask, wait, wait, ← limit]
      exact .goesOn _ t.tally t'.tally _
  | brokenDown => exact .ends .aborted

/-- Workers in the same phase, both cancelled or neither, make the same of the same turn. -/
theorem sameTurn_act (found : t.workers[session]? = some w)
    (found' : t'.workers[session]? = some w') (limit : t.readLimit = t'.readLimit)
    (phase : w.phase = w'.phase) (cancelled : t.isCancelled w = t'.isCancelled w') (now : Nat)
    (sight : Sight) :
    SameTurn session t t' w w' (t.act session now sight) (t'.act session now sight) := by
  -- The move depends on the phase and on whether the worker is cancelled, and those are the same.
  have same : t'.move now w' = t.move now w := by
    rw [move, move, Worker.move, Worker.move, phase, cancelled]
  cases moves : t.move now w with
  | begin =>
      rw [act_begin found moves, act_begin found' (same.trans moves)]
      exact .goesOn _ _ _ _
  | stop =>
      rw [act_stop found moves, act_stop found' (same.trans moves)]
      exact .ends .cancelled
  | rest =>
      rw [act_rest found moves, act_rest found' (same.trans moves)]
      exact .rests
  | giveUp due =>
      rw [act_giveUp found moves, act_giveUp found' (same.trans moves), ← limit]
      exact sameTurn_conclude due _
  | hear due =>
      cases sight with
      | nothing | call =>
          simp only [act, found, found', same, moves]
          exact .rests
      | answer read clock =>
          rw [act_hear found moves, act_hear found' (same.trans moves)]
          exact sameTurn_conclude due _
  | ask due =>
      cases sight with
      | nothing | answer =>
          simp only [act, found, found', same, moves]
          exact .rests
      | call c clock =>
          rw [act_ask found moves, act_ask found' (same.trans moves)]
          exact sameTurn_ask limit due now c clock

end

/-! ## The same in two scenes -/

namespace Alike

variable (a : Alike session contexts c c')

include a

/-- Scenes stay alike if the same is said and answered in them. -/
theorem put {r r' : Timers × List Notice} {answers : List (String × Bool)} (said : r.2 = r'.2)
    (readLimit : r.1.readLimit = r'.1.readLimit)
    (isClosed : r.1.staff.roster.isClosed = r'.1.staff.roster.isClosed)
    (worker : (r.1.workers[session]? = none ∧ r'.1.workers[session]? = none) ∨
      ∃ ctx ∈ contexts, ∃ phase asked, (c.put r answers).Employs session ctx phase asked ∧
        (c'.put r' answers).Employs session ctx phase asked)
    (hasCancelled : ∀ ctx, IsOwn contexts ctx →
      ((c.put r answers).HasCancelled ctx ↔ (c'.put r' answers).HasCancelled ctx)) :
    Alike session contexts (c.put r answers) (c'.put r' answers) where
  readLimit := readLimit
  isClosed := isClosed
  worker := worker
  hasCancelled := hasCancelled
  events := by
    show Timers.events session (c.log ++ r.2) = Timers.events session (c'.log ++ r'.2)
    rw [events_append, events_append, a.events, said]
  exits := by
    show Timers.exits session (c.log ++ r.2) = Timers.exits session (c'.log ++ r'.2)
    rw [exits_append, exits_append, a.exits, said]
  answers := by rw [answersTo_put, answersTo_put, a.answers]

/-- The session has a worker in both scenes or in none. -/
theorem worker_eq_none_iff :
    c.timers.workers[session]? = none ↔ c'.timers.workers[session]? = none := by
  obtain ⟨nobody, nobody'⟩ | ⟨ctx, -, phase, asked, ⟨t, n, found, -⟩, ⟨t', n', found', -⟩⟩ :=
    a.worker
  · exact iff_of_true nobody nobody'
  · exact iff_of_false (fun h => nomatch h.symm.trans found) fun h => nomatch h.symm.trans found'

variable (p : c.Placed) (p' : c'.Placed)

include p p'

/-- The session is free in both scenes or in none. -/
theorem isFree_iff : c.timers.IsFree session ↔ c'.timers.IsFree session := by
  have absent : c.timers.registered? session = none ↔ c'.timers.registered? session = none := by
    show c.custody.timers.registered? session = none ↔ c'.custody.timers.registered? session = none
    rw [p.sound.registered_eq, p'.sound.registered_eq, Option.map_eq_none_iff,
      Option.map_eq_none_iff]
    exact a.worker_eq_none_iff
  exact ⟨fun free => ⟨absent.mp free.absent, a.isClosed.symm.trans free.isOpen⟩,
    fun free => ⟨absent.mpr free.absent, a.isClosed.trans free.isOpen⟩⟩

/-- The session is asked for in both scenes. -/
theorem request {i : Instance} (own : i.sessionId = session) {ctx : Context} (here : ctx ∈ contexts)
    {t t' : Token} (met : c.token? ctx = some t) (met' : c'.token? ctx = some t') :
    Alike session contexts (c.request i t) (c'.request i t') := by
  subst own
  cases attached : i.sessionId.isEmpty with
  | true =>
      rw [request_of_detached attached, request_of_detached attached]
      exact a.put rfl a.readLimit a.isClosed a.worker a.hasCancelled
  | false =>
      by_cases free : c.timers.IsFree i.sessionId
      · have free' := (a.isFree_iff p p').mp free
        rw [request_of_free attached free, request_of_free attached free']
        -- A token that has not been given out yet has not been cancelled.
        have unmade : ∀ {c : Scene} (_ : c.Placed) (parent : Token),
            ¬c.timers.HasCancelled (.child parent c.timers.issued) :=
          fun p parent cancelled => Nat.lt_irrefl _ (p.sound.cancelled_lt _ _ cancelled)
        have same : ∀ {c : Scene} (_ : c.timers.IsFree i.sessionId) (token u : Token),
            (c.timers.launchFor i.sessionId token).HasCancelled u ↔ c.timers.HasCancelled u := by
          intro c free token u
          rw [Timers.HasCancelled, free.cancelled_launchFor]
          rfl
        refine a.put rfl a.readLimit ?_ (.inr ⟨ctx, here, .fresh, False, ?_, ?_⟩) ?_
        · rw [free.isClosed_launchFor, free'.isClosed_launchFor]
          exact a.isClosed
        · exact ⟨t, _, Std.ExtTreeMap.getElem?_insert_self, met,
            iff_of_false (fun h => unmade p t ((same free t _).mp h)) id⟩
        · exact ⟨t', _, Std.ExtTreeMap.getElem?_insert_self, met',
            iff_of_false (fun h => unmade p' t' ((same free' t' _).mp h)) id⟩
        · intro u own
          refine Iff.trans ?_ ((a.hasCancelled u own).trans ?_)
          · exact exists_congr fun v => and_congr_right fun _ => same free t v
          · exact exists_congr fun v => and_congr_right fun _ => (same free' t' v).symm
      · rw [request_of_taken attached free,
          request_of_taken attached (mt (a.isFree_iff p p').mpr free)]
        exact a.put rfl a.readLimit a.isClosed a.worker a.hasCancelled

/-- The same is asked of the timers in both scenes, by deeds that may name different tokens. -/
theorem deed {e f : Deed} (permitted : c.custody.Permits e) (permitted' : c'.custody.Permits f)
    (avoids : e.Avoids session c.timers) (avoids' : f.Avoids session c'.timers)
    (asks : e = .cancel session ∨ e = .shutDown ↔ f = .cancel session ∨ f = .shutDown)
    (closes : e = .shutDown ↔ f = .shutDown)
    (names : ∀ ctx, IsOwn contexts ctx → (c.Names e ctx ↔ c'.Names f ctx))
    (said : (c.timers.step e).2 = (c'.timers.step f).2) (answers : List (String × Bool)) :
    Alike session contexts (c.put (c.timers.step e) answers)
      (c'.put (c'.timers.step f) answers) := by
  have passes := passesBy_step c.timers avoids
  have passes' := passesBy_step c'.timers avoids'
  refine a.put said ?_ ?_ ?_ ?_
  · rw [passes.readLimit, passes'.readLimit, a.readLimit]
  · refine Bool.eq_iff_iff.mpr ((Custody.isClosed_step (c := c.custody)).trans ?_)
    refine Iff.trans ?_ (Custody.isClosed_step (c := c'.custody)).symm
    exact or_congr (Bool.eq_iff_iff.mp a.isClosed) closes
  · rw [passes.worker, passes'.worker]
    refine a.worker.imp_right ?_
    -- The worker of the session is in both scenes, launched from the same context; only its token
    -- may differ.
    rintro ⟨ctx, here, phase, asked, ⟨t, n, found, met, cancelled⟩, t', n', found', met',
      cancelled'⟩
    refine ⟨ctx, here, phase, asked ∨ e = .cancel session ∨ e = .shutDown, ?_, ?_⟩
    · refine ⟨t, n, passes.worker.trans found, met, ?_⟩
      exact (p.sound.hasCancelled_own permitted (p.sound.registered_of_found found)).trans
        (or_congr_left cancelled)
    · refine ⟨t', n', passes'.worker.trans found', met', ?_⟩
      exact (p'.sound.hasCancelled_own permitted' (p'.sound.registered_of_found found')).trans
        (or_congr cancelled' asks.symm)
  · intro ctx own
    rw [p.hasCancelled_put, p'.hasCancelled_put, a.hasCancelled ctx own, names ctx own]

omit p p' in
/-- The session's workers make the same of a turn. -/
theorem turn {r r' : Timers × List Notice} {ctx : Context} (here : ctx ∈ contexts)
    (phase : Worker.Phase) {asked : Prop} {t t' : Token} {n n' : Nat}
    (met : c.token? ctx = some t) (met' : c'.token? ctx = some t')
    (cancelled : c.timers.HasCancelled (.child t n) ↔ asked)
    (cancelled' : c'.timers.HasCancelled (.child t' n') ↔ asked)
    (same : SameTurn session c.timers c'.timers ⟨.child t n, phase⟩ ⟨.child t' n', phase⟩ r r') :
    Alike session contexts (c.put r []) (c'.put r' []) := by
  cases same with
  | goesOn further tally tally' said =>
      refine a.put rfl a.readLimit a.isClosed (.inr ⟨ctx, here, further, asked, ?_, ?_⟩)
        a.hasCancelled
      · exact ⟨t, n, Std.ExtTreeMap.getElem?_insert_self, met, cancelled⟩
      · exact ⟨t', n', Std.ExtTreeMap.getElem?_insert_self, met', cancelled'⟩
  | ends e =>
      exact a.put rfl a.readLimit a.isClosed
        (.inl ⟨Std.ExtTreeMap.getElem?_erase_self, Std.ExtTreeMap.getElem?_erase_self⟩)
        a.hasCancelled
  | rests => exact a.put rfl a.readLimit a.isClosed a.worker a.hasCancelled

/-- The session's workers make the same move. -/
theorem act (now : Nat) (sight : Sight) :
    Alike session contexts (c.put (c.timers.act session now sight) [])
      (c'.put (c'.timers.act session now sight) []) := by
  obtain ⟨nobody, nobody'⟩ | ⟨ctx, here, phase, asked, ⟨t, n, found, met, cancelled⟩,
    t', n', found', met', cancelled'⟩ := a.worker
  · simp only [Timers.act, nobody, nobody']
    exact a.put rfl a.readLimit a.isClosed a.worker a.hasCancelled
  · refine a.turn here phase met met' cancelled cancelled'
      (sameTurn_act found found' a.readLimit rfl ?_ now sight)
    rw [Bool.eq_iff_iff, p.isCancelled_iff met, p'.isCancelled_iff met', cancelled, cancelled']
    refine or_congr_right (exists_congr fun u => and_congr_right fun above => ?_)
    exact a.hasCancelled u ⟨ctx, here, above⟩

omit p p' in
/-- The session's workers are thrown away. -/
theorem throwAway : Alike session contexts (c.put (c.timers.throwAway session) [])
    (c'.put (c'.timers.throwAway session) []) := by
  obtain ⟨nobody, nobody'⟩ | ⟨ctx, here, phase, asked, ⟨t, n, found, met, cancelled⟩,
    t', n', found', met', cancelled'⟩ := a.worker
  · rw [throwAway_of_none nobody, throwAway_of_none nobody']
    exact a.put rfl a.readLimit a.isClosed a.worker a.hasCancelled
  · by_cases fresh : phase = .fresh
    · rw [throwAway_of_fresh found fresh, throwAway_of_fresh found' fresh]
      exact a.put rfl a.readLimit a.isClosed
        (.inl ⟨Std.ExtTreeMap.getElem?_erase_self, Std.ExtTreeMap.getElem?_erase_self⟩)
        a.hasCancelled
    · rw [throwAway_of_begun found fresh, throwAway_of_begun found' fresh]
      exact a.turn here phase met met' cancelled cancelled' (.ends .aborted)

/-- The session is registered in both scenes or in none. -/
theorem contains_eq : c.timers.staff.roster.contains session
    = c'.timers.staff.roster.contains session := by
  have registered : ∀ {c : Scene}, c.Placed → (c.timers.staff.roster.contains session = true
      ↔ ¬c.timers.workers[session]? = none) := by
    intro c p
    rw [Roster.contains, Std.ExtTreeMap.contains_iff_mem, Store.mem_iff_getElem?,
      ← Option.ne_none_iff_exists']
    refine not_congr ?_
    show c.custody.timers.registered? session = none ↔ _
    rw [p.sound.registered_eq, Option.map_eq_none_iff]
    rfl
  rw [Bool.eq_iff_iff, registered p, registered p', a.worker_eq_none_iff]

/-- Whether the session's worker could be asked to end is answered alike. -/
theorem cancel_fst_eq : (c.timers.cancel session).1 = (c'.timers.cancel session).1 := by
  have found : ∀ t : Timers, (t.cancel session).1 = t.staff.roster.contains session := by
    intro t
    show (t.staff.cancel session).1 = _
    rw [Staff.cancel, Roster.contains, Std.ExtTreeMap.contains_eq_isSome_getElem?]
    cases t.staff.roster.entries[session]? <;> rfl
  rw [found, found, a.contains_eq p p']

/-- **Scenes that a session cannot tell apart stay so if the same happens to it.** -/
theorem step (o : Occurrence) (concerned : concerns session contexts o = true)
    (known : ∀ i ctx, o = .run i ctx → ctx ∈ contexts) :
    Alike session contexts (c.step o) (c'.step o) := by
  cases o with
  | run i ctx =>
      obtain ⟨placed, meets, found⟩ := p.meet ctx
      obtain ⟨placed', meets', found'⟩ := p'.meet ctx
      have a := meets'.spares.alike (meets.spares.alike a).symm
      exact a.symm.request placed placed' (of_decide_eq_true concerned) (known i ctx rfl) found
        found'
  | ask other =>
      obtain rfl : other = session := of_decide_eq_true concerned
      rw [Scene.step, Scene.step, a.contains_eq p p']
      exact a.put rfl a.readLimit a.isClosed a.worker a.hasCancelled
  | cancel other =>
      obtain rfl : other = session := of_decide_eq_true concerned
      rw [Scene.step, Scene.step, a.cancel_fst_eq p p']
      exact a.deed p p' (e := .cancel other) (f := .cancel other) trivial trivial trivial trivial
        Iff.rfl Iff.rfl (fun _ _ => iff_of_false (fun h => nomatch h.choose_spec.2)
          fun h => nomatch h.choose_spec.2) rfl _
  | shutDown =>
      exact a.deed p p' (e := .shutDown) (f := .shutDown) trivial trivial trivial trivial
        Iff.rfl Iff.rfl (fun _ _ => iff_of_false (fun h => nomatch h.choose_spec.2)
          fun h => nomatch h.choose_spec.2) rfl _
  | cancelContext ctx =>
      obtain ⟨placed, meets, found⟩ := p.meet ctx
      obtain ⟨placed', meets', found'⟩ := p'.meet ctx
      have a := (meets'.spares.alike (meets.spares.alike a).symm).symm
      refine a.deed placed placed' (e := .cancelToken _) (f := .cancelToken _)
        (placed.holds found) (placed'.holds found') trivial trivial
        (iff_of_false nofun nofun) (iff_of_false nofun nofun) ?_ rfl _
      -- the token of the context is no other's
      have names : ∀ {c : Scene} {t : Token}, c.Placed → c.token? ctx = some t → ∀ other,
          (c.Names (.cancelToken t) other ↔ other = ctx) := by
        intro c t p found other
        constructor
        · rintro ⟨u, found', named⟩
          rw [← Deed.cancelToken.inj named] at found'
          exact p.distinct other ctx _ found' found
        · rintro rfl
          exact ⟨t, found, rfl⟩
      intro other _
      rw [names placed found, names placed' found']
  | act other now sight =>
      obtain rfl : other = session := of_decide_eq_true concerned
      exact a.act p p' now sight
  | throwAway other =>
      obtain rfl : other = session := of_decide_eq_true concerned
      exact a.throwAway

end Alike

/-- A session cannot tell a history from what of it concerns the session. -/
theorem alike_filter (limit : Option Nat) (os : List Occurrence)
    (known : ∀ i ctx, .run i ctx ∈ os → i.sessionId = session → ctx ∈ contexts) :
    Alike session contexts (after limit os)
      (after limit (os.filter (concerns session contexts))) := by
  induction os using List.reverseRecOn with
  | nil => exact alike_start limit
  | append_singleton os o ih =>
      have a := ih fun i ctx h => known i ctx (List.mem_append_left _ h)
      rw [List.filter_append, after_concat]
      cases concerned : concerns session contexts o with
      | true =>
          rw [List.filter_cons_of_pos concerned, List.filter_nil, after_concat]
          refine a.step (placed_after limit os) (placed_after limit _) o concerned ?_
          rintro i ctx rfl
          exact known i ctx List.mem_concat_self (of_decide_eq_true concerned)
      | false =>
          rw [List.filter_cons_of_neg (by rw [concerned]; exact Bool.false_ne_true),
            List.filter_nil, List.append_nil]
          exact ((placed_after limit os).spares_step o concerned).alike a

end Scene

/-- The requests for a session are among what concerns it. -/
theorem contextsOf_filter (session : String) (contexts : List Context) (os : List Occurrence) :
    contextsOf session (os.filter (concerns session contexts)) = contextsOf session os := by
  rw [contextsOf, List.filterMap_filter]
  refine List.filterMap_congr fun o _ => ?_
  cases o with
  | run i ctx =>
      by_cases own : i.sessionId = session
      · exact if_pos (decide_eq_true own)
      · exact (if_neg fun h => own (of_decide_eq_true h)).trans (if_neg own).symm
  | ask | cancel | cancelContext | shutDown | act | throwAway => exact ite_self none

theorem mem_contextsOf {session : String} {os : List Occurrence} {i : Instance} {ctx : Context}
    (asked : .run i ctx ∈ os) (own : i.sessionId = session) : ctx ∈ contextsOf session os :=
  List.mem_filterMap.mpr ⟨_, asked, if_pos own⟩

open Scene in
/-- **Sessions do not influence each other's timers.** If two histories agree in what concerns a
session, however they differ in the rest, then the same is announced of the session in both, its
workers end for the same reasons, and all questions about it are answered alike, those included that
could be asked next. -/
theorem sessions_apart (limit : Option Nat) (os os' : List Occurrence) (session : String)
    (same : about session os = about session os') :
    let c := Scene.after limit os
    let c' := Scene.after limit os'
    events session c.log = events session c'.log ∧ exits session c.log = exits session c'.log ∧
      c.answersTo session = c'.answersTo session ∧
      c.timers.staff.roster.contains session = c'.timers.staff.roster.contains session ∧
      ∀ token token', (c.timers.staff.launch session token).1.isSome
        = (c'.timers.staff.launch session token').1.isSome := by
  intro c c'
  -- The contexts under which the session was asked for are found in what is about it.
  have contexts : contextsOf session os = contextsOf session os' := by
    have same := congrArg (contextsOf session) same
    rwa [about, about, contextsOf_filter, contextsOf_filter] at same
  have alike : Alike session (contextsOf session os) c (after limit (about session os)) :=
    alike_filter limit os fun i ctx asked own => mem_contextsOf asked own
  have alike' : Alike session (contextsOf session os) c' (after limit (about session os)) := by
    rw [same, contexts]
    exact alike_filter limit os' fun i ctx asked own => mem_contextsOf asked own
  have p := placed_after limit os
  have p' := placed_after limit os'
  have q := placed_after limit (about session os)
  refine ⟨alike.events.trans alike'.events.symm, alike.exits.trans alike'.exits.symm,
    alike.answers.trans alike'.answers.symm,
    (alike.contains_eq p q).trans (alike'.contains_eq p' q).symm, ?_⟩
  intro token token'
  rw [Bool.eq_iff_iff, isSome_launch_iff, isSome_launch_iff]
  exact (alike.isFree_iff p q).trans (alike'.isFree_iff p' q).symm

/-- An instance of a session. -/
def instanceOf (session : String) : Instance :=
  ⟨"n", session, "", "", "", .epoch⟩

/-- The worker of the session `s` is launched, begins, is asked to end, and ends. -/
def calmHistory : List Occurrence :=
  [.run (instanceOf "s") (.child .dispatcher 0), .act "s" 0 .nothing, .cancel "s",
    .act "s" 0 .nothing, .ask "s"]

/-- Meanwhile that of the session `t` is launched before it, loses its context, and is thrown
away. -/
def busyHistory : List Occurrence :=
  [.run (instanceOf "t") (.child .dispatcher 1), .run (instanceOf "s") (.child .dispatcher 0),
    .act "t" 0 .nothing, .act "s" 0 .nothing, .cancelContext (.child .dispatcher 1), .cancel "s",
    .throwAway "t", .act "s" 0 .nothing, .ask "t", .ask "s"]

/-- The session `s` cannot tell. -/
theorem sessions_apart_busy :
    about "s" calmHistory = about "s" busyHistory ∧
      events "s" (Scene.after none calmHistory).log
        = events "s" (Scene.after none busyHistory).log ∧
      exits "s" (Scene.after none calmHistory).log = exits "s" (Scene.after none busyHistory).log ∧
      (Scene.after none calmHistory).answersTo "s"
        = (Scene.after none busyHistory).answersTo "s" := by
  have same : about "s" calmHistory = about "s" busyHistory := rfl
  obtain ⟨announced, ended, answered, -⟩ := sessions_apart none calmHistory busyHistory "s" same
  exact ⟨same, announced, ended, answered⟩

end Playgrounds.Timers
