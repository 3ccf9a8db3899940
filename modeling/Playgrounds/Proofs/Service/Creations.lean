import Mathlib.Data.List.Induction
import Playgrounds.Proofs.Record.Faithful
import Playgrounds.Proofs.Service.InMemory

/-!
# The playgrounds are those created last

Over HTTP the playgrounds are a map: under each id stands what was created last under it. The map is
told by the answers alone, from the bodies of those that say that a playground was created.

* `answersTo`, `served` — the answers to some requests, and the service after them.
* `createdBy?`, `latest?` — the playground that an answer says was created, and the latest answer
  that says so of an id.
* `Api.answer_of_get` — a request to get a resource is answered by the resource.
* `answer_cases`, `HasTables.answer_cases` — what one request comes to: either a playground is
  created, or the store, the bus and the counts are as before.
* `Recalls` — the invariant: the table holds what the answers say.
* `playgrounds_are_last_creations` — what every request is answered then.
-/

namespace Playgrounds

/-- A text that is not empty and neither begins nor ends with a blank. -/
def Text.IsTrimmed (s : String) : Prop :=
  s ≠ "" ∧ (∀ c ∈ s.toList.head?, isBlank c = false) ∧ ∀ c ∈ s.toList.getLast?, isBlank c = false

namespace Http

/-- A request to get a resource is answered by the resource. -/
theorem Api.answer_of_get {m : Type → Type} [Monad m] [LawfulMonad m] (host : Host m)
    (exposition : m String) (uptime : Api.Uptime) {r : Request} {resource : Resource}
    (get : r.method = "GET") (named : Resource.of? (Target.of r.target).segments = some resource) :
    Api.answer host exposition uptime r = Api.answerResource host exposition uptime r resource := by
  have allowed : resource.allows r.method = true := by
    rw [get]
    cases resource <;> rfl
  have whole : r.method ≠ "HEAD" := by
    rw [get]
    decide
  simp only [Api.answer, named, allowed, if_neg whole, Bool.not_true, Bool.false_eq_true, if_false,
    bind_pure]

end Http

namespace Service

open Store Http

/-- The answers to some requests, one after the other. -/
def answersTo (s : Service) : List Request → List Answer
  | [] => []
  | r :: rest => (s.answer r).1 :: (s.answer r).2.answersTo rest

/-- The service after some requests. -/
def served (s : Service) (rs : List Request) : Service :=
  rs.foldl (fun s r => (s.answer r).2) s

/-- Whether an answer says that something was created. -/
def IsCreation : Answer → Bool
  | .response r => r.status = 201
  | .socket _ => false

/-- The body of an answer. -/
def bodyOf : Answer → String
  | .response r => r.body
  | .socket _ => ""

/-- The playground that was created, as its answer has it. -/
def createdBy? (a : Answer) : Option Playground :=
  if IsCreation a then (Playground.format.read (Text.bytes (bodyOf a))).toOption else none

/-- The latest answer that says that a playground with this id was created. -/
def latest? (id : String) (as : List Answer) : Option Answer :=
  as.reverse.find? fun a => (createdBy? a).any (·.id = id)

theorem answersTo_concat (s : Service) (rs : List Request) (r : Request) :
    s.answersTo (rs ++ [r]) = s.answersTo rs ++ [((s.served rs).answer r).1] := by
  induction rs generalizing s with
  | nil => rfl
  | cons first rest ih => exact congrArg _ (ih (s.answer first).2)

theorem served_concat (s : Service) (rs : List Request) (r : Request) :
    s.served (rs ++ [r]) = ((s.served rs).answer r).2 := by
  simp only [served, List.foldl_append, List.foldl_cons, List.foldl_nil]

/-- The latest creation under an id is the last answer, if that is one. -/
theorem latest?_concat (id : String) (as : List Answer) (a : Answer) :
    latest? id (as ++ [a])
      = if (createdBy? a).any (·.id = id) = true then some a else latest? id as := by
  rw [latest?, List.reverse_append, List.reverse_singleton, List.singleton_append, List.find?_cons]
  cases (createdBy? a).any (·.id = id) <;> rfl

/-- The latest answer that carries an id is one of the answers, and does carry it. -/
theorem of_latest? {id : String} {as : List Answer} {a : Answer} (latest : latest? id as = some a) :
    a ∈ as ∧ ∃ p, createdBy? a = some p ∧ p.id = id := by
  have latest : as.reverse.find? (fun a => (createdBy? a).any (·.id = id)) = some a := latest
  refine ⟨List.mem_reverse.mp (List.mem_of_find?_eq_some latest), ?_⟩
  have carries : (createdBy? a).any (·.id = id) = true := by
    simpa using List.find?_some latest
  obtain ⟨p, created, own⟩ := (Option.any_eq_true _ _).mp carries
  exact ⟨p, created, of_decide_eq_true own⟩

/-! ## Trimmed domains -/

section

open Text

/-- A text that was trimmed does not begin with a blank. -/
theorem head?_trimStart {cs : List Char} : ∀ c ∈ (trimStart cs).head?, isBlank c = false := by
  intro c h
  have := List.head?_dropWhile_not isBlank cs
  rw [trimStart] at h
  rw [Option.mem_def.mp h] at this
  simpa using this

/-- Whatever is left when a text has been trimmed is trimmed. -/
theorem isTrimmed_trim {s : String} (left : (trim s).isEmpty = false) : IsTrimmed (trim s) := by
  refine ⟨?_, ?_⟩
  · rintro empty
    rw [empty] at left
    exact nomatch left
  · rw [trim, String.toList_ofList]
    obtain ⟨blanks, before⟩ : trimStart (trimStart s.toList).reverse
        <:+ (trimStart s.toList).reverse := List.dropWhile_suffix isBlank
    have before := congrArg List.reverse before
    rw [List.reverse_append, List.reverse_reverse] at before
    constructor
    · intro c first
      refine @head?_trimStart s.toList c ?_
      rw [← before, List.head?_append, Option.mem_def.mp first]
      rfl
    · rw [List.getLast?_reverse]
      exact head?_trimStart

/-- A playground is asked for by its domain, less the blanks around it, if anything is left. -/
theorem domain_of_creation {c : CreationRequest} {p : Playground}
    (asked : c.playground? = some p) :
    p.domain = trim c.domain ∧ (trim c.domain).isEmpty = false := by
  rw [CreationRequest.playground?] at asked
  split at asked
  next => cases asked
  next left =>
      rw [← Option.some.inj asked]
      exact ⟨rfl, Bool.eq_false_iff.mpr left⟩

/-- The domain of a playground that is created has no blanks around it. -/
theorem isTrimmed_of_creation {c : CreationRequest} {p : Playground}
    (asked : c.playground? = some p) : IsTrimmed p.domain := by
  obtain ⟨domain, left⟩ := domain_of_creation asked
  rw [domain]
  exact isTrimmed_trim left

/-- The body of the request is read as this, and asks for this playground. -/
structure Asks (r : Request) (c : CreationRequest) (p : Playground) : Prop where
  read : CreationRequest.format.readFirst r.body = .ok c
  wanted : c.playground? = some p

/-- A body asks for a playground, or is refused. -/
theorem creationOf_cases (r : Request) :
    (∃ c p, Asks r c p ∧ Api.creationOf r = .ok p) ∨
      ∃ refused, Api.creationOf r = .error refused ∧ IsCreation (.response refused) = false := by
  rw [Api.creationOf]
  split
  next => exact .inr ⟨_, rfl, rfl⟩
  next =>
      split
      next => exact .inr ⟨_, rfl, rfl⟩
      next =>
          split
          next => exact .inr ⟨_, rfl, rfl⟩
          next => exact .inr ⟨_, rfl, rfl⟩
          next c read =>
              cases asked : c.playground? with
              | none => exact .inr ⟨_, rfl, rfl⟩
              | some p => exact .inl ⟨c, p, ⟨read, asked⟩, rfl⟩

end

/-! ## One request -/

/-- A program that touches nothing, and whose answer is never that something was created. -/
structure Declines (x : StateM Service Answer) : Prop where
  quiet : Quiet x
  answer : ∀ s, IsCreation (x s).1 = false

theorem declines_pure {a : Answer} (other : IsCreation a = false) : Declines (pure a) :=
  ⟨quiet_pure a, fun _ => other⟩

/-- A request that only reads at first declines if it does so afterwards. -/
theorem declines_bind {α : Type} {x : StateM Service α} {f : α → StateM Service Answer}
    (first : Quiet x) (then' : ∀ a, Declines (f a)) : Declines (x >>= f) :=
  ⟨quiet_bind first fun a => (then' a).quiet, fun _ => (then' _).answer _⟩

theorem isCreation_refusal (r : Refusal) : IsCreation (.response (.refusal r)) = false := by
  cases r <;> rfl

/-- What is found is answered by something else than a creation. -/
theorem isCreation_found {α : Type} (format : Json.Format α) (found : Directory.Found α) :
    IsCreation (.response (Api.found format 200 found)) = false := by
  cases found with
  | ok a => rfl
  | error r => exact isCreation_refusal r

/-- A part of a path that is no text is refused, which is no creation. -/
theorem isCreation_parameter {name : String} {b : List UInt8} {refused : Response}
    (invalid : Api.parameter name b = .error refused) : IsCreation (.response refused) = false := by
  rw [Api.parameter] at invalid
  split at invalid
  next => exact nomatch invalid
  next =>
      rw [← Except.error.inj invalid]
      rfl

/-- To leave out the body of an answer does not change whether it is a creation. -/
theorem isCreation_withoutBody (a : Answer) : IsCreation (Api.withoutBody a) = IsCreation a := by
  cases a <;> rfl

/-- The request is for a new playground. -/
def AsksToCreate (r : Request) (resource : Resource) : Prop :=
  resource = .playgrounds ∧ r.method = "POST"

/-- Whatever else is asked for, nothing is touched. -/
theorem declines_answerResource {exposition : StateM Service String} (quiet : Quiet exposition)
    (uptime : Api.Uptime) (r : Request) {resource : Resource} (other : ¬AsksToCreate r resource) :
    Declines (Api.answerResource host exposition uptime r resource) := by
  cases resource with
  | health => exact declines_pure rfl
  | ready => exact declines_pure rfl
  | metrics => exact declines_bind quiet fun _ => declines_pure rfl
  | playgrounds =>
      rw [Api.answerResource, if_neg fun h => other ⟨rfl, h⟩]
      exact declines_bind quiet_playgrounds fun found => declines_pure (isCreation_found _ found)
  | lookup =>
      rw [Api.answerResource]
      split
      next => exact declines_pure rfl
      next domain _ =>
          exact declines_bind (quiet_find domain) fun found =>
            declines_pure (isCreation_found _ found)
  | playground id =>
      rw [Api.answerResource]
      split
      next refused invalid => exact declines_pure (isCreation_parameter invalid)
      next id _ =>
          exact declines_bind (quiet_playground id) fun found =>
            declines_pure (isCreation_found _ found)
  | terminal id =>
      rw [Api.answerResource]
      split
      next refused invalid => exact declines_pure (isCreation_parameter invalid)
      next id _ =>
          exact declines_bind (quiet_resolve id) fun found =>
            declines_pure (isCreation_found _ found)
  | socket id =>
      rw [Api.answerResource]
      split
      next refused invalid => exact declines_pure (isCreation_parameter invalid)
      next id _ =>
          -- The terminal is resolved first; only an instance that was found may be given a socket.
          refine declines_bind (quiet_resolve id) fun found => ?_
          cases found with
          | error refusal => exact declines_pure (isCreation_refusal refusal)
          | ok i =>
              show Declines (if r.wantsSocket = true then _ else _)
              split <;> exact declines_pure rfl

/-- The answer to a request for the head of a resource says no more than that to one for it. -/
theorem declines_head {x : StateM Service Answer} (declines : Declines x) (head : Prop)
    [Decidable head] :
    Declines (do let answer ← x; return if head then Api.withoutBody answer else answer) := by
  refine ⟨quiet_bind declines.quiet fun _ => quiet_pure _, ?_⟩
  intro s
  show IsCreation (if head then Api.withoutBody (x s).1 else (x s).1) = false
  split
  · rw [isCreation_withoutBody, declines.answer]
  · exact declines.answer s

/-- A playground was created, and this is the answer and the service after it. -/
structure Creates (s : Service) (t : Tables) (p : Playground) (result : Answer × Service) :
    Prop where
  answer_eq : result.1 = .response (.json 201 (Playground.format.toValue p))
  id_eq : p.id = playgroundId p.domain
  trimmed : Text.IsTrimmed p.domain
  hasTables : HasTables result.2 { t with playgrounds := t.playgrounds.insert p.id p }
  bus : result.2.bus = s.bus.emit ⟨.playgroundNew, p.id, []⟩
  created : result.2.created = s.created + 1

variable {s : Service} {t : Tables} {r : Request}

/-- A request that a resource has the method for is answered by the resource. -/
theorem answer_of_resource {resource : Resource}
    (named : Resource.of? (Target.of r.target).segments = some resource)
    (allowed : resource.allows r.method = true) :
    s.answer r = (do
      let answer ← Api.answerResource host (fun s => (s.metrics.exposition, s)) 0 r resource
      return if r.method = "HEAD" then Api.withoutBody answer else answer : StateM Service Answer)
        s := by
  rw [Service.answer, Api.answer, named]
  simp only [allowed]
  rfl

/-- **The answers to a request, whatever the store.** A playground that the body asks for is
created, or else the request is declined. -/
theorem answer_cases (s : Service) (r : Request) :
    (∃ c p, Asks r c p ∧ s.answer r = (.response (Api.found Playground.format 201
        (Directory.create host p s).1), (Directory.create host p s).2)) ∨
      ∃ x, Declines x ∧ s.answer r = x s := by
  cases named : Resource.of? (Target.of r.target).segments with
  | none =>
      refine .inr ⟨pure (.response (.empty 404)), declines_pure rfl, ?_⟩
      rw [Service.answer, Api.answer, named]
  | some resource =>
      cases allowed : resource.allows r.method with
      | false =>
          refine .inr ⟨pure (.response { Response.empty 405 with
            allow := some (String.intercalate "," resource.methods) }), declines_pure rfl, ?_⟩
          rw [Service.answer, Api.answer, named]
          simp only [allowed]
          rfl
      | true =>
          have answered := answer_of_resource (s := s) named allowed
          by_cases asks : AsksToCreate r resource
          · obtain ⟨rfl, post⟩ := asks
            -- A creation is asked for with POST, whose answer has its body.
            have whole : r.method ≠ "HEAD" := by
              rw [post]
              decide
            simp only [if_neg whole, Api.answerResource, if_pos post] at answered
            obtain ⟨c, p, asked, wanted⟩ | ⟨refused, asked, other⟩ := creationOf_cases r
            · rw [wanted] at answered
              exact .inl ⟨c, p, asked, answered⟩
            · rw [asked] at answered
              exact .inr ⟨_, declines_pure other, answered⟩
          · refine .inr ⟨_, declines_head ?_ _, answered⟩
            exact declines_answerResource (fun _ _ _ => .refl _) 0 r asks

/-- **What one request comes to.** A playground is created, or nothing is touched. -/
theorem HasTables.answer_cases (h : HasTables s t) (r : Request) :
    (∃ p, Creates s t p (s.answer r)) ∨
      (IsCreation (s.answer r).1 = false ∧ Rests s (s.answer r).2) := by
  obtain ⟨c, p, asks, answered⟩ | ⟨x, declines, answered⟩ := s.answer_cases r
  · obtain ⟨result, tables, bus, created⟩ := h.create p
    have trimmed : Text.IsTrimmed p.domain := isTrimmed_of_creation asks.wanted
    rw [answered]
    refine .inl ⟨{ p with id := playgroundId p.domain }, ?_, rfl, trimmed, tables, bus, created⟩
    rw [result]
    rfl
  · rw [answered]
    exact .inr ⟨declines.answer s, declines.quiet s t h⟩

/-! ## What is read -/

/-- A request that gets something is answered by its resource alone. -/
theorem answer_of_get {resource : Resource} (get : r.method = "GET")
    (named : Resource.of? (Target.of r.target).segments = some resource) :
    s.answer r
      = Api.answerResource host (fun s => (s.metrics.exposition, s)) 0 r resource s :=
  congrFun (Api.answer_of_get host _ 0 get named) s

section

variable (h : HasTables s t) (get : r.method = "GET")

include h get

/-- The playground with an id. -/
theorem HasTables.get_playground {segment : List UInt8} {id : String}
    (path : (Target.of r.target).segments = [Text.bytes "playgrounds", segment])
    (given : segment ≠ []) (other : segment ≠ Text.bytes "lookup")
    (text : Text.text? (decoded segment) = some id) :
    (s.answer r).1 = match t.playgrounds[id]? with
      | some p => .response (.json 200 (Playground.format.toValue p))
      | none => .response (.refusal (.playgroundNotFound id)) := by
  have named : Resource.of? (Target.of r.target).segments = some (.playground segment) := by
    rw [path]
    simp [Resource.of?, given, other]
  have parameter : Api.parameter "id" segment = .ok id := by
    rw [Api.parameter, text]
  rw [answer_of_get get named, Api.answerResource, parameter]
  show Answer.response (Api.found Playground.format 200 (Directory.playground host id s).1) = _
  rw [h.playground]
  cases t.playgrounds[id]? <;> rfl

/-- All playgrounds. -/
theorem HasTables.get_playgrounds
    (path : (Target.of r.target).segments = [Text.bytes "playgrounds"]) :
    (s.answer r).1 = .response
      (.json 200 ((Json.Format.list Playground.format).toValue t.playgrounds.values)) := by
  have named : Resource.of? (Target.of r.target).segments = some .playgrounds := by
    rw [path]
    rfl
  have read : r.method ≠ "POST" := by
    rw [get]
    decide
  rw [answer_of_get get named, Api.answerResource, if_neg read]
  show Answer.response
    (Api.found (.list Playground.format) 200 (Directory.playgrounds host s).1) = _
  rw [h.playgrounds]
  rfl

/-- The playground of a domain under whose id there is one. -/
theorem HasTables.get_lookup {domain : String} {p : Playground}
    (path : (Target.of r.target).segments = [Text.bytes "playgrounds", Text.bytes "lookup"])
    (asked : (Target.of r.target).only? "domain" = some domain)
    (stored : t.playgrounds[playgroundId domain]? = some p) :
    (s.answer r).1 = .response (.json 200 (Playground.format.toValue p)) := by
  have named : Resource.of? (Target.of r.target).segments = some .lookup := by
    rw [path]
    rfl
  rw [answer_of_get get named, Api.answerResource, asked]
  show Answer.response (Api.found Playground.format 200 (Directory.find host domain s).1) = _
  rw [h.find stored]
  rfl

end

/-! ## Whole histories -/

/-- The table of the playgrounds holds what the answers say. -/
structure Recalls (as : List Answer) (s : Service) (t : Tables) : Prop where
  hasTables : HasTables s t
  stored : ∀ id, t.playgrounds[id]? = (latest? id as).bind createdBy?
  carried : ∀ a ∈ as, ∀ p, createdBy? a = some p → p.id = playgroundId p.domain ∧
    Text.IsTrimmed p.domain ∧ bodyOf a = Playground.format.write p

/-- Nothing is stored at first, and nothing has been answered. -/
theorem recalls_start (clock : Clock) (limit : Option Nat) (tasks : List Task) :
    Recalls [] (start clock limit tasks (.memory .empty)) .empty where
  hasTables := ⟨rfl, rfl⟩
  stored := fun _ => Std.ExtTreeMap.getElem?_empty
  carried := fun _ h => nomatch h

/-- An answer that says that a playground was created has the record of it. -/
theorem Creates.createdBy? {p : Playground} {result : Answer × Service}
    (creates : Creates s t p result) : createdBy? result.1 = some p := by
  rw [creates.answer_eq]
  show (Playground.format.read (Text.bytes (Playground.format.write p))).toOption = _
  rw [Playground.faithful_format.read_write]
  rfl

theorem createdBy?_of_other {a : Answer} (other : IsCreation a = false) : createdBy? a = none :=
  if_neg (by rw [other]; exact Bool.false_ne_true)

/-- **One more request keeps the invariant.** -/
theorem Recalls.answer {as : List Answer} (recalls : Recalls as s t) (r : Request) :
    ∃ t', Recalls (as ++ [(s.answer r).1]) (s.answer r).2 t' := by
  obtain ⟨p, creates⟩ | ⟨other, rests⟩ := recalls.hasTables.answer_cases r
  · have created := creates.createdBy?
    refine ⟨_, creates.hasTables, ?_, ?_⟩
    · intro id
      show (t.playgrounds.insert p.id p)[id]? = _
      rw [getElem?_insert_eq, latest?_concat, created]
      simp only [Option.any_some, decide_eq_true_eq]
      -- The new record takes the place of any other under its id.
      by_cases own : p.id = id
      · rw [if_pos own, if_pos own]
        exact created.symm
      · rw [if_neg own, if_neg own]
        exact recalls.stored id
    · intro a h q found
      rcases List.mem_append.mp h with h | h
      · exact recalls.carried a h q found
      · rw [List.mem_singleton.mp h, created] at found
        obtain rfl := Option.some.inj found
        refine ⟨creates.id_eq, creates.trimmed, ?_⟩
        rw [List.mem_singleton.mp h, creates.answer_eq]
        rfl
  -- Nothing was written, and the answer is not the latest creation under any id.
  · have uncreated := createdBy?_of_other other
    refine ⟨t, rests.hasTables recalls.hasTables, ?_, ?_⟩
    · intro id
      rw [latest?_concat, uncreated]
      exact recalls.stored id
    · intro a h q found
      rcases List.mem_append.mp h with h | h
      · exact recalls.carried a h q found
      · rw [List.mem_singleton.mp h, uncreated] at found
        exact nomatch found

/-- **After any requests, the tables recall what was answered to them.** -/
theorem exists_recalls (clock : Clock) (limit : Option Nat) (tasks : List Task)
    (rs : List Request) :
    let s := start clock limit tasks (.memory .empty)
    ∃ t, Recalls (s.answersTo rs) (s.served rs) t := by
  intro s
  induction rs using List.reverseRecOn with
  | nil => exact ⟨.empty, recalls_start clock limit tasks⟩
  | append_singleton rs r ih =>
      obtain ⟨t, recalls⟩ := ih
      rw [answersTo_concat, served_concat]
      exact recalls.answer r

namespace Recalls

variable {as : List Answer} (recalls : Recalls as s t)

include recalls

/-- What is stored was created by the latest answer that carries its id. -/
theorem exists_of_stored {id : String} {p : Playground} (stored : t.playgrounds[id]? = some p) :
    ∃ a ∈ as, latest? id as = some a ∧ createdBy? a = some p ∧ p.id = id := by
  rw [recalls.stored] at stored
  obtain ⟨a, latest, created⟩ := Option.bind_eq_some_iff.mp stored
  obtain ⟨here, q, created', own⟩ := of_latest? latest
  obtain rfl := Option.some.inj (created.symm.trans created')
  exact ⟨a, here, latest, created, own⟩

/-- If an id was carried by an answer, then something is stored under it. -/
theorem exists_stored {a : Answer} (here : a ∈ as) {p : Playground}
    (created : createdBy? a = some p) : ∃ q, t.playgrounds[p.id]? = some q := by
  cases latest : latest? p.id as with
  | none =>
      have carries : ¬(createdBy? a).any (fun q => decide (q.id = p.id)) = true :=
        List.find?_eq_none.mp latest a (List.mem_reverse.mpr here)
      rw [created] at carries
      exact absurd (decide_eq_true rfl) carries
  | some b =>
      obtain ⟨-, q, created', -⟩ := of_latest? latest
      exact ⟨q, by rw [recalls.stored, latest]; exact created'⟩

/-- Every playground stands under its own id, which is that of its trimmed domain. -/
theorem own {id : String} {p : Playground} (stored : t.playgrounds[id]? = some p) :
    p.id = id ∧ id = playgroundId p.domain ∧ Text.IsTrimmed p.domain := by
  obtain ⟨a, here, -, created, rfl⟩ := recalls.exists_of_stored stored
  obtain ⟨derived, trimmed, -⟩ := recalls.carried a here p created
  exact ⟨rfl, derived, trimmed⟩

/-- Something is stored under an id exactly if an answer has carried it. -/
theorem exists_stored_iff (id : String) : (∃ p, t.playgrounds[id]? = some p)
    ↔ ∃ a ∈ as, ∃ p, createdBy? a = some p ∧ p.id = id := by
  constructor
  · rintro ⟨p, stored⟩
    obtain ⟨a, here, -, created, own⟩ := recalls.exists_of_stored stored
    exact ⟨a, here, p, created, own⟩
  · rintro ⟨a, here, p, created, rfl⟩
    exact recalls.exists_stored here created

/-- Each record is listed once, under its own id. -/
theorem mem_values_iff {p : Playground} :
    p ∈ t.playgrounds.values ↔ t.playgrounds[p.id]? = some p := by
  rw [values_eq_map_snd, List.mem_map]
  constructor
  · rintro ⟨⟨id, q⟩, listed, rfl⟩
    have stored := Std.ExtTreeMap.mem_toList_iff_getElem?_eq_some.mp listed
    rwa [(recalls.own stored).1]
  · intro stored
    exact ⟨(p.id, p), Std.ExtTreeMap.mem_toList_iff_getElem?_eq_some.mpr stored, rfl⟩

/-- The ids of what is stored are the keys of the table. -/
theorem map_id_values : t.playgrounds.values.map (·.id) = t.playgrounds.keys :=
  Store.map_id_values fun _ _ stored => (recalls.own stored).1

end Recalls

/-- The request is to read what a path names. -/
def Gets (r : Request) (path : List (List UInt8)) : Prop :=
  r.method = "GET" ∧ (Target.of r.target).segments = path

/-- What is answered after some answers: the service has these tables, and they are a map of the
playgrounds that were created last. -/
structure IsMapOfLast (as : List Answer) (s : Service) (t : Tables) : Prop where
  store : s.store = .memory t
  /-- Every playground stands under its own id, which is that of its domain. -/
  own : ∀ id p, t.playgrounds[id]? = some p →
    p.id = id ∧ id = playgroundId p.domain ∧ Text.IsTrimmed p.domain
  /-- By its id a playground is answered with the body of the latest answer that created it. -/
  byId : ∀ r segment id, Gets r [Text.bytes "playgrounds", segment] → segment ≠ [] →
    segment ≠ Text.bytes "lookup" → Text.text? (decoded segment) = some id →
    (s.answer r).1 = match latest? id as with
      | some a => .response ⟨200, some Response.jsonType, none, bodyOf a⟩
      | none => .response (.refusal (.playgroundNotFound id))
  /-- The list has what is stored, and one record for each id that was ever created. -/
  list : ∀ r, Gets r [Text.bytes "playgrounds"] → ∃ ps : List Playground,
    (s.answer r).1 = .response (.json 200 ((Json.Format.list Playground.format).toValue ps)) ∧
    (ps.map (·.id)).Nodup ∧ (∀ p, p ∈ ps ↔ t.playgrounds[p.id]? = some p) ∧
    ∀ id, id ∈ ps.map (·.id) ↔ ∃ a ∈ as, ∃ p, createdBy? a = some p ∧ p.id = id
  /-- By a domain that is stored, the playground that stands under its id is found. -/
  lookup : ∀ r domain, Gets r [Text.bytes "playgrounds", Text.bytes "lookup"] →
    (Target.of r.target).only? "domain" = some domain →
    (∃ p : Playground, t.playgrounds[p.id]? = some p ∧ p.domain = domain) →
    ∃ q, t.playgrounds[playgroundId domain]? = some q ∧
      (s.answer r).1 = .response (.json 200 (Playground.format.toValue q))
  /-- A creation is announced once under the id of the record, and counted once. -/
  created : ∀ r, IsCreation (s.answer r).1 = true → ∃ p, createdBy? (s.answer r).1 = some p ∧
    (s.answer r).2.bus = s.bus.emit ⟨.playgroundNew, p.id, []⟩ ∧
    (s.answer r).2.created = s.created + 1
  /-- Whatever is answered otherwise has changed no record, and neither is announced nor counted. -/
  otherwise : ∀ r, IsCreation (s.answer r).1 = false → (s.answer r).2.store = s.store ∧
    (s.answer r).2.bus = s.bus ∧ (s.answer r).2.created = s.created

/-- **THE PLAYGROUNDS ARE THOSE CREATED LAST.** After every history of requests, of any methods to
any targets and with any bodies, the service answers as a map in which each answer that says that a
playground was created has put the record of its body under its id. -/
theorem playgrounds_are_last_creations (clock : Clock) (limit : Option Nat) (tasks : List Task)
    (rs : List Request) :
    let first := start clock limit tasks (.memory .empty)
    ∃ t, IsMapOfLast (first.answersTo rs) (first.served rs) t := by
  intro first
  obtain ⟨t, recalls⟩ := exists_recalls clock limit tasks rs
  have h := recalls.hasTables
  refine ⟨t, h.store, fun _ _ stored => recalls.own stored, ?_, ?_, ?_, ?_, ?_⟩
  · rintro r segment id ⟨get, path⟩ given other text
    rw [h.get_playground get path given other text]
    cases latest : latest? id (first.answersTo rs) with
    | none =>
        have stored := recalls.stored id
        rw [latest] at stored
        rw [stored]
        rfl
    | some a =>
        obtain ⟨here, p, created, -⟩ := of_latest? latest
        have stored := recalls.stored id
        rw [latest, Option.bind_some, created] at stored
        rw [stored]
        show _ = Answer.response ⟨200, _, _, bodyOf a⟩
        rw [(recalls.carried a here p created).2.2]
        rfl
  · rintro r ⟨get, path⟩
    refine ⟨t.playgrounds.values, h.get_playgrounds get path, ?_, fun _ => recalls.mem_values_iff,
      ?_⟩
    · rw [recalls.map_id_values]
      exact Std.ExtTreeMap.nodup_keys
    · intro id
      rw [recalls.map_id_values, Std.ExtTreeMap.mem_keys, mem_iff_getElem?]
      exact recalls.exists_stored_iff id
  · rintro r domain ⟨get, path⟩ asked ⟨p, stored, rfl⟩
    rw [(recalls.own stored).2.1] at stored
    exact ⟨p, stored, h.get_lookup get path asked stored⟩
  · intro r creation
    obtain ⟨p, creates⟩ | ⟨other, -⟩ := h.answer_cases r
    · exact ⟨p, creates.createdBy?, creates.bus, creates.created⟩
    · exact nomatch other.symm.trans creation
  · intro r other
    obtain ⟨p, creates⟩ | ⟨-, rests⟩ := h.answer_cases r
    · rw [creates.answer_eq] at other
      exact nomatch other
    · exact ⟨rests.store, rests.bus, rests.created⟩

end Service

end Playgrounds
