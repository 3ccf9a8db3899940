import Playgrounds.Proofs.Directory.Lookup
import Playgrounds.Proofs.Http.Query
import Playgrounds.Proofs.Service.Creations
import Playgrounds.Proofs.Store.Backing

/-!
# What was created is found

A playground is created for a domain less the blanks around it, and a domain is looked up as it is
given. So whatever was created is found at once under the domain that its record has, which is the
one that was asked for unless there were blanks around that.

* `candidates`, `sought` — the texts under whose ids a domain is looked up, and what that comes to.
* `HasPlaygrounds` — what is read of the playgrounds, whichever store there is.
* `HasPlaygrounds.find`, `HasPlaygrounds.create` — what the directory makes of it.
* `LooksUp` — a request to look a domain up, however the domain is written; `exists_looksUp`, there
  is one for every domain.
* `IsFoundAgain` — what lookups come to right after a creation.
* `created_is_found` — so they do, on every store that operations lead to.
-/

namespace Playgrounds

open Store

/-- What is no blank is still there when a text has been trimmed. -/
theorem Text.mem_trim {s : String} {c : Char} (here : c ∈ s.toList) (seen : isBlank c = false) :
    c ∈ (trim s).toList := by
  have stays : ∀ {cs : List Char}, c ∈ cs → c ∈ trimStart cs := by
    intro cs here
    rw [← List.takeWhile_append_dropWhile (p := isBlank) (l := cs)] at here
    rcases List.mem_append.mp here with dropped | left
    · exact absurd (List.mem_takeWhile_imp dropped) (by simp [seen])
    · exact left
  rw [trim, String.toList_ofList, List.mem_reverse]
  exact stays (List.mem_reverse.mpr (stays here))

namespace Directory

/-! ## What is looked up -/

/-- The texts under whose ids a domain is looked up: the domain, and its host without the port. -/
def candidates (domain : String) : List String :=
  domain :: (hostOf? domain).toList

/-- What a lookup of a domain comes to that tries these texts, if this is read under each id: the
first record that is not absent decides. -/
def sought (read : String → Outcome Playground) (domain : String) : List String → Found Playground
  | [] => .error (.playgroundNotFound domain)
  | name :: names =>
    match verdict domain (read (playgroundId name)) with
    | .error (.playgroundNotFound _) => sought read domain names
    | found => found

variable {read read' : String → Outcome Playground} {domain : String} {names : List String}
  {p : Playground}

/-- A record that is found under the first name settles the search. -/
theorem sought_of_ok {name : String} (found : read (playgroundId name) = .ok p) :
    sought read domain (name :: names) = .ok p := by
  rw [sought, found]
  rfl

/-- What is read last decides. -/
theorem sought_singleton (name : String) :
    sought read domain [name] = verdict domain (read (playgroundId name)) := by
  rw [sought]
  split
  next other none =>
      obtain ⟨-, rfl⟩ := verdict_eq_notFound_iff.mp none
      rw [none, sought]
  next => rfl

/-- Nothing but what is read under the ids of the texts matters. -/
theorem sought_congr (same : ∀ name ∈ names, read (playgroundId name) = read' (playgroundId name)) :
    sought read domain names = sought read' domain names := by
  induction names with
  | nil => rfl
  | cons name names ih =>
      rw [sought, sought, same name List.mem_cons_self,
        ih fun other h => same other (List.mem_cons_of_mem _ h)]

/-- What is found is read under the id of one of the texts. -/
theorem exists_of_sought (found : sought read domain names = .ok p) :
    ∃ name ∈ names, read (playgroundId name) = .ok p := by
  induction names with
  | nil => cases found
  | cons name names ih =>
      rw [sought] at found
      split at found
      -- The first name names no record, so what was found comes from the names after it.
      next =>
          obtain ⟨other, here, same⟩ := ih found
          exact ⟨other, List.mem_cons_of_mem _ here, same⟩
      next =>
          refine ⟨name, List.mem_cons_self, ?_⟩
          cases outcome : read (playgroundId name) with
          | ok q =>
              rw [outcome] at found
              cases found
              rfl
          | error f =>
              rw [outcome, verdict] at found
              split at found <;> cases found

/-- A domain with blanks around it is never looked up as the domain without them. -/
theorem ne_trim_of_mem_candidates (blanks : Text.trim domain ≠ domain) {name : String}
    (candidate : name ∈ candidates domain) : name ≠ Text.trim domain := by
  rcases List.mem_cons.mp candidate with rfl | host
  · exact blanks.symm
  · obtain ⟨⟨port, whole⟩, plain⟩ := eq_append_of_hostOf? (Option.mem_toList.mp host)
    -- The host has no colon, and the domain keeps its colon when it is trimmed.
    have colon : ':' ∈ domain.toList := by
      rw [whole]
      simp
    rintro rfl
    exact plain (Text.mem_trim colon (by decide))

end Directory

namespace Service

/-! ## What is read of the playgrounds -/

/-- The store answers every call, and this is read under each id. -/
structure HasPlaygrounds (s : Service) (read : String → Outcome Playground) : Prop where
  faults : s.faults = .empty
  quiet : s.store.IsQuiet
  read_eq : s.store.playground = read

variable {s s' : Service} {read : String → Outcome Playground} (h : HasPlaygrounds s read)

include h

/-- What touches neither store nor faults changes nothing of what is read. -/
theorem HasPlaygrounds.of_frame (faults : s'.faults = s.faults) (store : s'.store = s.store) :
    HasPlaygrounds s' read :=
  ⟨faults.trans h.faults, store ▸ h.quiet, store ▸ h.read_eq⟩

theorem HasPlaygrounds.report (l : Log.Line) : HasPlaygrounds (host.report l s).2 read :=
  h.of_frame rfl rfl

/-- A call is an operation on the store. -/
theorem HasPlaygrounds.call {α : Type} (op : Operation α) :
    (s.call op).1 = (s.store.run op).1.1 ∧ (s.call op).2.faults = .empty ∧
      (s.call op).2.store = (s.store.run op).2 := by
  have counted : (s.countRead op).faults = .empty ∧ (s.countRead op).store = s.store := by
    cases op <;> exact ⟨h.faults, rfl⟩
  have planned : (s.countRead op).faults.begin op = (none, (s.countRead op).faults) := by
    rw [counted.1]
    rfl
  obtain ⟨reports, frame⟩ := (s.countRead op).perform_frame op
  have called : s.call op = ((s.store.run op).1.1, ((s.countRead op).perform op).2) := by
    rw [← counted.2, Service.call]
    simp only [Service.begin, planned]
    rfl
  rw [called, frame, ← counted.2]
  exact ⟨rfl, counted.1, rfl⟩

/-- A read is answered with what is there, and leaves it there. -/
theorem HasPlaygrounds.call_get (id : String) :
    (s.call (.playgroundGet id)).1 = read id ∧
      HasPlaygrounds (s.call (.playgroundGet id)).2 read := by
  obtain ⟨answer, faults, store⟩ := h.call (.playgroundGet id)
  obtain ⟨quiet, same⟩ := h.quiet.read (.playgroundGet id) not_false
  refine ⟨answer.trans (congrFun h.read_eq id), faults, store ▸ quiet, ?_⟩
  rw [store, same, h.read_eq]

/-- What is written is read under its id from then on, and everything else as before. -/
theorem HasPlaygrounds.call_put {p : Playground}
    (written : (s.call (.playgroundPut p)).1 = .ok ()) :
    HasPlaygrounds (s.call (.playgroundPut p)).2 (Function.update read p.id (.ok p)) := by
  obtain ⟨answer, faults, store⟩ := h.call (.playgroundPut p)
  obtain ⟨quiet, put⟩ := h.quiet.put (answer.symm.trans written)
  refine ⟨faults, store ▸ quiet, ?_⟩
  rw [store, put, h.read_eq]

/-! ## The directory -/

open Directory

/-- One read of the directory comes to the verdict on what is there. -/
theorem HasPlaygrounds.playground (id : String) :
    (Directory.playground host id s).1 = verdict id (read id) ∧
      HasPlaygrounds (Directory.playground host id s).2 read := by
  obtain ⟨answer, later⟩ := h.call_get id
  have asked : host.store (.playgroundGet id) s = (read id, (s.call (.playgroundGet id)).2) := by
    rw [← answer]
    rfl
  rw [Directory.playground, bind_run, asked]
  cases read id with
  | ok p => exact ⟨rfl, later⟩
  | error f =>
      rw [verdict]
      dsimp only
      -- A failure that is no absence is reported, which changes no record.
      split
      · exact ⟨rfl, later⟩
      · exact ⟨rfl, later.report _⟩

/-- **What a lookup finds**, whichever store there is. -/
theorem HasPlaygrounds.find (domain : String) :
    (Directory.find host domain s).1 = sought read domain (candidates domain) := by
  obtain ⟨first, later⟩ := h.playground (playgroundId domain)
  rw [Directory.find, bind_run, first, candidates, sought]
  cases read (playgroundId domain) with
  | ok p => rfl
  | error f =>
      cases kind : f.isNotFound with
      | false => simp [verdict, kind]; rfl
      | true =>
          simp only [verdict, kind, if_true]
          cases hostOf? domain with
          | none => rfl
          | some name =>
              -- Only the answer of the last read counts, so the report before it may say anything.
              have last := fun l => ((later.report l).playground (playgroundId name)).1
              dsimp only
              rw [bind_run, bind_run, last, Option.toList_some, sought_singleton]
              cases read (playgroundId name) with
              | ok p => rfl
              | error f => cases kind : f.isNotFound <;> simp [verdict, kind] <;> rfl

/-- A creation fails, or its playground is what is read under its id from then on. -/
theorem HasPlaygrounds.create (p : Playground) :
    let stored := { p with id := playgroundId p.domain }
    (∃ f, (Directory.create host p s).1 = .error (.store f)) ∨
      (Directory.create host p s).1 = .ok stored ∧ HasPlaygrounds (Directory.create host p s).2
        (Function.update read stored.id (.ok stored)) := by
  intro stored
  have asked : host.store (.playgroundPut stored) s = s.call (.playgroundPut stored) := rfl
  rw [Directory.create, bind_run, asked]
  cases written : (s.call (.playgroundPut stored)).1 with
  | error f => exact .inl ⟨f, rfl⟩
  | ok done =>
      -- What is counted, reported and announced then touches neither the store nor the faults.
      have later := h.call_put written
      refine .inr ⟨rfl, ?_⟩
      generalize (s.call (.playgroundPut stored)).2 = s' at later
      exact later.of_frame rfl rfl

end Service

namespace Http

open Service Directory

/-! ## Requests -/

/-- The request is to look a domain up, which is written in the query in some way. -/
structure LooksUp (r : Request) (domain : String) : Prop where
  get : r.method = "GET"
  target : ∃ written, Text.bytes r.target = Text.bytes "/playgrounds/lookup?domain=" ++ written ∧
    Escapes (Text.bytes domain) written

/-- Every domain can be looked up. -/
theorem exists_looksUp (domain : String) : ∃ r, LooksUp r domain := by
  obtain ⟨written, escapes⟩ := exists_escapes domain
  refine ⟨⟨"GET", "/playgrounds/lookup?domain=" ++ written, [], [], false⟩, rfl, _, ?_, escapes⟩
  rw [← Text.encode_toList, ← Text.encode_toList, ← Text.encode_toList, String.toList_append,
    Text.encode_append]

variable {r : Request} {domain : String}

/-- The domain is found in the query. -/
theorem LooksUp.asked (looks : LooksUp r domain) :
    (Target.of r.target).segments = [Text.bytes "playgrounds", Text.bytes "lookup"] ∧
      (Target.of r.target).only? "domain" = some domain := by
  obtain ⟨written, target, escapes⟩ := looks.target
  have whole : Text.bytes r.target = Text.bytes "/playgrounds/lookup"
      ++ 63 :: (Text.bytes "domain" ++ 61 :: written) := by
    rw [target]
    rfl
  -- However the domain is written, no mark ends the query before its end.
  have unmarked : 35 ∉ written ∧ 38 ∉ written :=
    ⟨escapes.not_mem (by decide) (by decide) (by decide),
      escapes.not_mem (by decide) (by decide) (by decide)⟩
  obtain ⟨segments, pairs⟩ := Target.of_single whole (by decide) (by decide) unmarked
  refine ⟨segments, ?_⟩
  have name : queryText (Text.bytes "domain") = "domain" := by decide +kernel
  rw [Target.only?, pairs, name, escapes.queryText]
  rfl

/-- A lookup is answered by what the directory finds. -/
theorem LooksUp.answer (looks : LooksUp r domain) (s : Service) :
    (s.answer r).1
      = .response (Api.found Playground.format 200 (Directory.find host domain s).1) := by
  obtain ⟨segments, asked⟩ := looks.asked
  have named : Resource.of? (Target.of r.target).segments = some .lookup := by
    rw [segments]
    rfl
  rw [answer_of_get looks.get named, Api.answerResource, asked]
  rfl

/-- A record is answered exactly if it is found. -/
theorem found_eq_json_iff {α : Type} {format : Json.Format α} (faithful : format.Faithful)
    {found : Found α} {a : α} :
    Api.found format 200 found = .json 200 (format.toValue a) ↔ found = .ok a := by
  constructor
  · intro same
    cases found with
    | ok b => rw [faithful.write_inj.mp (congrArg Response.body same)]
    | error refusal => cases refusal <;> exact nomatch congrArg Response.status same
  · rintro rfl
    rfl

/-! ## After a creation -/

/-- What was asked for is found again: by the domain of the record, and by the one that was asked
for if there were no blanks around it. -/
structure IsFoundAgain (before after : Service) (asked : String) (p : Playground) : Prop where
  domain : p.domain = Text.trim asked
  id : p.id = playgroundId p.domain
  found : ∀ r, LooksUp r p.domain →
    (after.answer r).1 = .response (.json 200 (Playground.format.toValue p))
  trimmed : Text.trim asked = asked → ∀ r, LooksUp r asked →
    (after.answer r).1 = .response (.json 200 (Playground.format.toValue p))
  /-- With blanks around it, what was asked for is looked up by other texts. -/
  apart : Text.trim asked ≠ asked → ∀ name ∈ candidates asked, name ≠ p.domain
  /-- Unless one of these has the same id, they find what they found before, which is not this. -/
  otherwise : Text.trim asked ≠ asked → (∀ name ∈ candidates asked, playgroundId name ≠ p.id) →
    ∀ r, LooksUp r asked → (after.answer r).1 = (before.answer r).1 ∧
      (after.answer r).1 ≠ .response (.json 200 (Playground.format.toValue p))

/-- Whoever reads a record under its id, and what was there before under the others, finds it. -/
theorem isFoundAgain_of_update {before after : Service} {read : String → Outcome Playground}
    {asked : String} {p : Playground} (had : HasPlaygrounds before read)
    (own : ∀ id q, read id = .ok q → q.id = id) (domain : p.domain = Text.trim asked)
    (id : p.id = playgroundId p.domain)
    (has : HasPlaygrounds after (Function.update read p.id (.ok p))) :
    IsFoundAgain before after asked p := by
  -- The first name that is tried is the trimmed domain, and under its id the new record is stored.
  have found : ∀ r, LooksUp r p.domain →
      (after.answer r).1 = .response (.json 200 (Playground.format.toValue p)) := by
    intro r looks
    have stored : Function.update read p.id (.ok p) (playgroundId p.domain) = .ok p := by
      rw [← id, Function.update_self]
    rw [looks.answer, has.find, candidates, sought_of_ok stored]
    rfl
  have apart : Text.trim asked ≠ asked → ∀ name ∈ candidates asked, name ≠ p.domain := by
    intro blanks name candidate
    rw [domain]
    exact ne_trim_of_mem_candidates blanks candidate
  refine ⟨domain, id, found, ?_, apart, ?_⟩
  · intro trimmed r looks
    rw [domain, trimmed] at found
    exact found r looks
  · intro _ other r looks
    -- Any other domain is tried under other ids, where nothing has changed.
    have untouched : sought (Function.update read p.id (.ok p)) asked (candidates asked)
        = sought read asked (candidates asked) :=
      sought_congr fun name candidate => Function.update_of_ne (other name candidate) _ _
    rw [looks.answer, looks.answer, has.find, had.find, untouched]
    refine ⟨rfl, fun same => ?_⟩
    obtain ⟨name, candidate, there⟩ := exists_of_sought
      ((found_eq_json_iff Playground.faithful_format).mp (Answer.response.inj same))
    exact other name candidate (own _ _ there).symm

/-- **WHAT WAS CREATED IS FOUND.** Whatever operations the store comes from, in memory or on a
server, a request that is answered by a new playground has asked for the domain of its record, save
for blanks around it, and by the domain of the record the next lookup finds it. By what was asked
for it is found if there were no blanks; a lookup does not drop them. -/
theorem created_is_found {s : Service} {post : Request} (faultless : s.faults = .empty)
    (reached : s.store.IsReached) (created : IsCreation (s.answer post).1 = true) :
    ∃ c p, CreationRequest.format.readFirst post.body = .ok c ∧
      (s.answer post).1 = .response (.json 201 (Playground.format.toValue p)) ∧
      IsFoundAgain s (s.answer post).2 c.domain p := by
  have sound := reached.isSound
  have had : HasPlaygrounds s s.store.playground := ⟨faultless, sound.isQuiet, rfl⟩
  -- A request either asks for a creation and is answered with what comes of it, or declines to.
  obtain ⟨c, p, asks, answered⟩ | ⟨x, declines, answered⟩ := s.answer_cases post
  · rw [answered] at created ⊢
    obtain ⟨f, failed⟩ | ⟨done, has⟩ := had.create p
    · rw [failed] at created
      exact nomatch created
    · rw [done]
      refine ⟨c, _, asks.read, rfl, isFoundAgain_of_update had (fun _ _ => sound.own) ?_ rfl has⟩
      show p.domain = _
      exact (domain_of_creation asks.wanted).1
  · rw [answered, declines.answer] at created
    exact nomatch created

/-- A request for a playground, from the text of its domain in JSON. -/
def postOf (domain : String) : Request :=
  ⟨"POST", "/playgrounds", [("content-type", "application/json")],
    Text.bytes ("\x7b\"domain\":\"" ++ domain ++ "\"\x7d"), false⟩

/-- The playground of a domain, as it is stored. -/
def storedOf (domain : String) : Playground :=
  { Playground.ofDomain domain with id := playgroundId domain }

/-- A domain with a port and a blank before it, while there is a playground for the host. -/
theorem created_is_found_port :
    let s := start (.standing .epoch) none []
      ((Backing.server .empty).run (.playgroundPut (storedOf "a.test"))).2
    let post := postOf " a.test:80"
    (s.faults = .empty ∧ s.store.IsReached ∧ IsCreation (s.answer post).1 = true) ∧
      ∃ c p, CreationRequest.format.readFirst post.body = .ok c ∧
        (s.answer post).1 = .response (.json 201 (Playground.format.toValue p)) ∧
        IsFoundAgain s (s.answer post).2 c.domain p := by
  intro s post
  have faultless : s.faults = .empty := rfl
  have reached : s.store.IsReached := .run _ (.server alphabetically)
  have created : IsCreation (s.answer post).1 = true := by decide +kernel
  have found := created_is_found faultless reached created
  exact ⟨⟨faultless, reached, created⟩, found⟩

/-- A request to look up a domain with a blank before it. -/
def blankLookup : Request :=
  ⟨"GET", "/playgrounds/lookup?domain=%20a.test", [], [], false⟩

theorem looksUp_blankLookup : LooksUp blankLookup " a.test" := by
  refine ⟨rfl, Text.bytes "%20a.test", by decide +kernel, ?_⟩
  have bytes : Text.bytes " a.test" = UInt8.ofNat (16 * 2 + 0) :: Text.bytes "a.test" := by
    decide +kernel
  have written : Text.bytes "%20a.test" = 37 :: 50 :: 48 :: Text.bytes "a.test" := by
    decide +kernel
  have two : Hex.value? 50 = some 2 := by decide
  have zero : Hex.value? 48 = some 0 := by decide
  rw [bytes, written]
  exact .digits two zero (escapes_of_plain (by decide +kernel))

/-- A playground is created for a domain with a blank before it, and by the domain that was asked
for it is not found right after that. -/
theorem not_found_by_blank :
    let s := start (.standing .epoch) none [] (.memory .empty)
    let post := postOf " a.test"
    (s.faults = .empty ∧ s.store.IsReached ∧ IsCreation (s.answer post).1 = true ∧
        CreationRequest.format.readFirst post.body = .ok ⟨" a.test", none, none, false⟩ ∧
        (s.answer post).1
          = .response (.json 201 (Playground.format.toValue (storedOf "a.test"))) ∧
        LooksUp blankLookup " a.test") ∧
      ((s.answer post).2.answer blankLookup).1
        = .response (.refusal (.playgroundNotFound " a.test")) ∧
      ((s.answer post).2.answer blankLookup).1
        ≠ .response (.json 200 (Playground.format.toValue (storedOf "a.test"))) := by
  intro s post
  have created : (s.answer post).1
      = .response (.json 201 (Playground.format.toValue (storedOf "a.test"))) := by
    decide +kernel
  have refused : ((s.answer post).2.answer blankLookup).1
      = .response (.refusal (.playgroundNotFound " a.test")) := by
    decide +kernel
  refine ⟨⟨rfl, .memory, congrArg IsCreation created, by decide +kernel, created,
    looksUp_blankLookup⟩, refused, ?_⟩
  rw [refused]
  intro same
  have status := congrArg Response.status (Answer.response.inj same)
  exact absurd status (by decide)

end Http

end Playgrounds
