import Mathlib.Data.List.TakeWhile
import Playgrounds.Proofs.Directory.Contacts
import Playgrounds.Proofs.Service.InMemory

/-!
# A failure is not an absence

To look a domain up, one or two records are read. Only that a record is absent makes the lookup go
on, or come to nothing; any other failure is what the lookup comes to. So a playground is created
only where there is none.

* `Search` — what is read for a domain, and what it comes to.
* `IsLookup`, `does_find` — all that a lookup does to its host.
* `Creation`, `Ensured` — what is done to create a playground, and to ensure that there is one.
* `HasTables.find_eq`, `HasTables.ensure` — the playground that serves a domain, in memory.
* `no_failure_is_taken_for_absence` — all this for every host, and in memory for a second time.
-/

namespace Playgrounds

open Store

/-! ## Hosts of domains -/

/-- A domain has another host to be looked up under only if it has a colon. -/
theorem hostOf?_eq_none_iff {domain : String} : hostOf? domain = none ↔ ':' ∉ domain.toList := by
  rw [hostOf?]
  split
  next colon => exact iff_of_false nofun (not_not.mpr colon)
  next plain => exact iff_of_true rfl plain

/-- The host of a domain is what stands before its first colon. -/
theorem eq_append_of_hostOf? {domain name : String} (host : hostOf? domain = some name) :
    (∃ port, domain = name ++ ":" ++ port) ∧ ':' ∉ name.toList := by
  rw [hostOf?] at host
  split at host
  next colon =>
      obtain rfl := Option.some.inj host
      rw [String.toList_ofList]
      constructor
      · cases rest : domain.toList.dropWhile (· ≠ ':') with
        | nil => exact absurd (List.dropWhile_eq_nil_iff.mp rest ':' colon) (by simp)
        | cons c port =>
            -- What is left of the domain begins at its first colon.
            have first : c = ':' := by
              have stops := List.head?_dropWhile_not (· ≠ ':') domain.toList
              rw [rest] at stops
              simpa using stops
            refine ⟨String.ofList port, String.toList_inj.mp ?_⟩
            have whole := List.takeWhile_append_dropWhile (p := (· ≠ ':')) (l := domain.toList)
            rw [rest, first] at whole
            simp only [String.toList_append, String.toList_ofList, List.append_assoc]
            exact whole.symm
      · intro there
        exact absurd (List.mem_takeWhile_imp there) (by simp)
  next => exact nomatch host

namespace Directory

/-! ## What is looked up -/

/-- Whether a record is told to be absent. -/
def IsAbsent {α : Type} (read : Outcome α) : Prop :=
  ∃ f, read = .error f ∧ f.isNotFound = true

/-- What a read comes to, if it is the last that is made for this. -/
def verdict (domain : String) : Outcome Playground → Found Playground
  | .ok p => .ok p
  | .error f => if f.isNotFound then .error (.playgroundNotFound domain) else .error (.store f)

/-- What is read for a domain, in this order, and what that comes to. -/
inductive Search (domain : String) :
    List (String × Outcome Playground) → Found Playground → Prop where
  /-- The first read finds a record, or fails. -/
  | settled (read : Outcome Playground) : ¬IsAbsent read →
    Search domain [(playgroundId domain, read)] (verdict domain read)
  /-- The record is absent, and the domain has no port. -/
  | plain (read : Outcome Playground) : IsAbsent read → ':' ∉ domain.toList →
    Search domain [(playgroundId domain, read)] (verdict domain read)
  /-- The record is absent, and the host without the port decides. -/
  | host (read last : Outcome Playground) (name port : String) : IsAbsent read →
    domain = name ++ ":" ++ port → ':' ∉ name.toList →
    Search domain [(playgroundId domain, read), (playgroundId name, last)] (verdict domain last)

/-- What a lookup of a domain does to its host, and comes to. -/
structure IsLookup (domain : String) (cs : List Contact) (found : Found Playground) : Prop where
  search : Search domain (Contact.reads cs) found
  /-- Nothing is written, announced or counted. -/
  quiet : ∀ c ∈ cs, c.isQuiet = true

variable {domain : String} {found : Found Playground}

/-- Of the failures, only those of one kind say that a record is absent. -/
theorem isAbsent_error_iff {α : Type} {f : Failure} :
    IsAbsent (.error f : Outcome α) ↔ f.isNotFound = true := by
  constructor
  · rintro ⟨_, same, absent⟩
    cases same
    exact absent
  · exact fun absent => ⟨f, rfl, absent⟩

theorem not_isAbsent_ok {α : Type} {a : α} : ¬IsAbsent (.ok a : Outcome α) :=
  fun ⟨_, same, _⟩ => nomatch same

/-- A read comes to an absence exactly if the record is absent, and then to that of the whole
domain. -/
theorem verdict_eq_notFound_iff {read : Outcome Playground} {name : String} :
    verdict domain read = .error (.playgroundNotFound name) ↔ IsAbsent read ∧ name = domain := by
  cases read with
  | ok p => exact iff_of_false nofun fun h => not_isAbsent_ok h.1
  | error f =>
      rw [isAbsent_error_iff, verdict]
      cases f.isNotFound with
      | false => simp
      | true => simp [eq_comm]

/-- What is not absent comes to the same for any domain. -/
theorem verdict_congr {read : Outcome Playground} {name : String} (present : ¬IsAbsent read) :
    verdict name read = verdict domain read := by
  cases read with
  | ok p => rfl
  | error f => rw [verdict, verdict, if_neg (isAbsent_error_iff.not.mp present),
      if_neg (isAbsent_error_iff.not.mp present)]

/-- **A domain is said to be absent exactly if every record that was read is**, and then it is the
whole domain. -/
theorem Search.notFound_iff {reads : List (String × Outcome Playground)}
    (search : Search domain reads found) (name : String) :
    found = .error (.playgroundNotFound name)
      ↔ (∀ read ∈ reads, IsAbsent read.2) ∧ name = domain := by
  cases search with
  | settled read => simp [verdict_eq_notFound_iff]
  | plain read => simp [verdict_eq_notFound_iff]
  | host read last _ _ absent => simp [verdict_eq_notFound_iff, absent]

section

variable {σ : Type} (host : Host (StateM σ))

/-- To look an id up reads the record, and else only reports. -/
theorem does_playground (id : String) : Does (playground host.watched id) fun cs found =>
    ∃ read, Contact.reads cs = [(id, read)] ∧ (∀ c ∈ cs, c.isQuiet = true) ∧
      found = verdict id read := by
  refine does_store fun read => ?_
  cases read with
  | ok p => exact does_pure ⟨.ok p, rfl, by simp [Contact.ofCall, Contact.isQuiet], rfl⟩
  | error f =>
      show Does (if f.isNotFound = true then _ else _) _
      -- A failure that is no absence is reported, and comes to a failure.
      split
      next absent =>
          refine does_pure ⟨.error f, rfl, by simp [Contact.ofCall, Contact.isQuiet], ?_⟩
          rw [verdict, if_pos absent]
      next other =>
          refine does_report (does_pure ⟨.error f, rfl, ?_, ?_⟩)
          · simp [Contact.ofCall, Contact.isQuiet]
          · rw [verdict, if_neg other]

/-- After an absence the host without the port is looked up, if there is one. -/
theorem does_retry {cs : List Contact} {read : Outcome Playground} (absent : IsAbsent read)
    (reads : Contact.reads cs = [(playgroundId domain, read)])
    (quiet : ∀ c ∈ cs, c.isQuiet = true) :
    Does (match hostOf? domain with
      | none => pure (.error (.playgroundNotFound domain))
      | some name => do
        host.watched.report (line .debug "retrying playground lookup without port"
          [("domain", Text.quoted domain), ("host", Text.quoted name)])
        match ← playground host.watched (playgroundId name) with
        | .error (.playgroundNotFound _) => return .error (.playgroundNotFound domain)
        | other => return other)
      fun more found => IsLookup domain (cs ++ more) found := by
  split
  next plain =>
      refine does_pure ⟨?_, by simpa using quiet⟩
      rw [List.append_nil, reads, ← verdict_eq_notFound_iff.mpr ⟨absent, rfl⟩]
      exact .plain read absent (hostOf?_eq_none_iff.mp plain)
  next name some =>
      obtain ⟨⟨port, whole⟩, first⟩ := eq_append_of_hostOf? some
      refine does_report (does_bind (does_playground host _) ?_)
      rintro later _ ⟨last, again, quiet', rfl⟩
      -- An absence of the host is that of the domain; all else is passed on.
      have passed : (match verdict (playgroundId name) last with
          | .error (.playgroundNotFound _) => return .error (.playgroundNotFound domain)
          | other => return other : StateM (σ × List Contact) (Found Playground))
          = pure (verdict domain last) := by
        by_cases absent' : IsAbsent last
        · rw [verdict_eq_notFound_iff.mpr ⟨absent', rfl⟩,
            verdict_eq_notFound_iff.mpr ⟨absent', rfl⟩]
        · have same : verdict (playgroundId name) last = verdict domain last :=
            verdict_congr absent'
          rw [same]
          split
          next name' none => exact absurd (verdict_eq_notFound_iff.mp none).1 absent'
          next => rfl
      refine passed ▸ does_pure ⟨?_, ?_⟩
      · rw [List.append_nil, Contact.reads_append, reads]
        show Search domain ([_] ++ Contact.reads later) _
        rw [again]
        exact .host read last name port absent whole first
      · intro c here
        rcases List.mem_append.mp here with here | here
        · exact quiet c here
        · rw [List.append_nil] at here
          rcases List.mem_cons.mp here with rfl | here
          · rfl
          · exact quiet' c here

/-- **What a lookup does.** -/
theorem does_find (domain : String) : Does (find host.watched domain) (IsLookup domain) := by
  refine does_bind (does_playground host _) ?_
  rintro cs _ ⟨read, reads, quiet, rfl⟩
  by_cases absent : IsAbsent read
  · rw [verdict_eq_notFound_iff.mpr ⟨absent, rfl⟩]
    exact does_retry host absent reads quiet
  · have same : verdict (playgroundId domain) read = verdict domain read := verdict_congr absent
    rw [same]
    split
    next name none => exact absurd (verdict_eq_notFound_iff.mp none).1 absent
    next =>
        refine does_pure ⟨?_, by simpa using quiet⟩
        rw [List.append_nil, reads]
        exact .settled read absent

end

/-! ## What is ensured -/

/-- What the creation of a playground does to its host, and comes to. -/
inductive Creation (p : Playground) : List Contact → Found Playground → Prop where
  /-- What is written is announced. -/
  | written (l : Log.Line) :
    Creation p [.write p (.ok ()), .counted, .reported l, .announced ⟨.playgroundNew, p.id, []⟩]
      (.ok p)
  | refused (f : Failure) (l : Log.Line) :
    Creation p [.write p (.error f), .reported l] (.error (.store f))

/-- What is done to ensure the playground of a domain, and what that comes to, where the lookup has
done and found this. -/
inductive Ensured (domain : String) (seconds : UInt64) (looked : List Contact) :
    Found Playground → List Contact → Found Playground → Prop where
  /-- There is none: it is created. -/
  | created (cs : List Contact) (made : Found Playground) :
    Creation ⟨playgroundId domain, domain, seconds, none, false⟩ cs made →
    Ensured domain seconds looked (.error (.playgroundNotFound domain)) (looked ++ cs) made
  /-- Whatever else the lookup comes to, nothing more is done. -/
  | otherwise (found : Found Playground) : (∀ name, found ≠ .error (.playgroundNotFound name)) →
    Ensured domain seconds looked found looked found

/-- **One write is tried where there is none, and announced if it succeeds; else nothing is.** -/
theorem Ensured.writes {seconds : UInt64} {looked cs : List Contact} {made : Found Playground}
    (ensured : Ensured domain seconds looked found cs made)
    (quiet : ∀ c ∈ looked, c.isQuiet = true) :
    (found = .error (.playgroundNotFound domain) → ∃ written, Contact.writes cs
        = [(⟨playgroundId domain, domain, seconds, none, false⟩, written)] ∧
      Contact.announcements cs = match written with
        | .ok () => [⟨.playgroundNew, playgroundId domain, []⟩]
        | .error _ => []) ∧
    (found ≠ .error (.playgroundNotFound domain) →
      Contact.writes cs = [] ∧ Contact.announcements cs = []) := by
  have none := Contact.writes_eq_nil quiet
  have silent := Contact.announcements_eq_nil quiet
  cases ensured with
  | created cs made creation =>
      refine ⟨fun _ => ?_, fun other => absurd rfl other⟩
      rw [Contact.writes_append, Contact.announcements_append, none, silent]
      cases creation with
      | written l => exact ⟨.ok (), rfl, rfl⟩
      | refused f l => exact ⟨.error f, rfl, rfl⟩
  | otherwise found other => exact ⟨fun same => absurd same (other domain), fun _ => ⟨none, silent⟩⟩

/-- Nothing is read to create a playground. -/
theorem Ensured.reads {seconds : UInt64} {looked cs : List Contact} {made : Found Playground}
    (ensured : Ensured domain seconds looked found cs made) :
    Contact.reads cs = Contact.reads looked := by
  cases ensured with
  | created cs made creation =>
      rw [Contact.reads_append]
      cases creation <;> exact List.append_nil _
  | otherwise => rfl

section

variable {σ : Type} (host : Host (StateM σ))

/-- A creation writes the record under the identifier of its domain. -/
theorem does_create (p : Playground) :
    Does (create host.watched p) (Creation { p with id := playgroundId p.domain }) := by
  refine does_store fun written => ?_
  cases written with
  | error f => exact does_report (does_pure (.refused f _))
  | ok => exact does_countCreated (does_report (does_announce (does_pure (.written _))))

/-- What a lookup does, and finds, on a host that is not watched. -/
theorem isLookup_find (domain : String) (s : σ) :
    IsLookup domain (contacts (find host.watched domain) s) (find host domain s).1 :=
  (erases_find host domain s []).1 ▸ (does_find host domain).contacts s

/-- **What is done to ensure the playground of a domain.** -/
theorem ensured_ensure (domain : String) (seconds : UInt64) (s : σ) :
    Ensured domain seconds (contacts (find host.watched domain) s) (find host domain s).1
      (contacts (ensure host.watched domain seconds) s) (ensure host domain seconds s).1 := by
  have absent := (isLookup_find host domain s).search.notFound_iff
  rw [← (erases_find host domain s []).1] at absent ⊢
  rw [← (erases_ensure host domain seconds s []).1, contacts, contacts, ensure]
  simp only [bind, StateT.bind]
  -- The lookup comes first, whatever it does; what is done afterwards depends on what it found.
  generalize find host.watched domain (s, []) = looked at absent ⊢
  obtain ⟨found, s', cs⟩ := looked
  dsimp only at absent ⊢
  split
  next name =>
      obtain rfl := ((absent name).mp rfl).2
      obtain ⟨more, reached, creation⟩ :=
        does_create host { Playground.ofDomain name with sessionSeconds := seconds } s' cs
      rw [reached]
      exact .created more _ creation
  next other => exact .otherwise found other

end

end Directory

/-! ## In memory -/

/-- The playground that serves a domain: that of the whole domain, or else that of its host. -/
def Store.Tables.playgroundOf? (t : Tables) (domain : String) : Option Playground :=
  t.playgrounds[playgroundId domain]?.or
    ((hostOf? domain).bind fun name => t.playgrounds[playgroundId name]?)

namespace Service

open Directory

variable {s : Service} {t : Tables} (h : HasTables s t)

include h

/-- What is found is the playground that serves the domain. -/
theorem HasTables.find_eq (domain : String) : (Directory.find host domain s).1
    = match t.playgroundOf? domain with
      | some p => .ok p
      | none => .error (.playgroundNotFound domain) := by
  have later := (quiet_playground (playgroundId domain) s t h).hasTables h
  rw [Directory.find, bind_run, h.playground, Tables.playgroundOf?]
  cases t.playgrounds[playgroundId domain]? with
  | some p => rfl
  | none =>
      cases hostOf? domain with
      | none => rfl
      | some name =>
          -- The second read is made of the same tables, as neither the first nor the report changes
          -- them.
          have later' := (quiet_report (line .debug "retrying playground lookup without port"
            [("domain", Text.quoted domain), ("host", Text.quoted name)]) _ t later).hasTables later
          dsimp only
          rw [bind_run, bind_run, later'.playground, Option.or, Option.bind]
          cases t.playgrounds[playgroundId name]? <;> rfl

/-- **What is ensured is there afterwards.** -/
theorem HasTables.ensure (domain : String) (seconds : UInt64) :
    ∃ p t', (Directory.ensure host domain seconds s).1 = .ok p ∧
      HasTables (Directory.ensure host domain seconds s).2 t' ∧
      t'.playgroundOf? domain = some p := by
  have later := (quiet_find domain s t h).hasTables h
  rw [Directory.ensure, bind_run, h.find_eq]
  cases there : t.playgroundOf? domain with
  | some p => exact ⟨p, t, rfl, later, there⟩
  | none =>
      obtain ⟨made, tables, -⟩ :=
        later.create { Playground.ofDomain domain with sessionSeconds := seconds }
      exact ⟨_, _, made, tables, by simp [Tables.playgroundOf?, Playground.ofDomain]⟩

/-- A domain that is served is not touched. -/
theorem HasTables.ensure_served {domain : String} {p : Playground}
    (served : t.playgroundOf? domain = some p) (seconds : UInt64) :
    (Directory.ensure host domain seconds s).1 = .ok p ∧
      Rests s (Directory.ensure host domain seconds s).2 := by
  have rests := quiet_find domain s t h
  rw [Directory.ensure, bind_run, h.find_eq, served]
  exact ⟨rfl, rests⟩

/-- **A second time the same playground is found**, whatever length its sessions are to have, as
long as the playgrounds in memory are still those that the first time has left. -/
theorem HasTables.ensure_again (domain : String) (seconds : UInt64) :
    ∃ p t', (Directory.ensure host domain seconds s).1 = .ok p ∧
      HasTables (Directory.ensure host domain seconds s).2 t' ∧
      ∀ s₂ t₂ again, HasTables s₂ t₂ → t₂.playgrounds = t'.playgrounds →
        (Directory.ensure host domain again s₂).1 = .ok p ∧
        Rests s₂ (Directory.ensure host domain again s₂).2 ∧
        Contact.writes (contacts (Directory.ensure host.watched domain again) s₂) = [] ∧
        Contact.announcements (contacts (Directory.ensure host.watched domain again) s₂) = [] := by
  obtain ⟨p, t', made, tables, served⟩ := h.ensure domain seconds
  refine ⟨p, t', made, tables, fun s₂ t₂ again h₂ same => ?_⟩
  -- What was made the first time is still stored, so the second time it is found.
  have served₂ : t₂.playgroundOf? domain = some p := by
    rwa [Tables.playgroundOf?, same]
  obtain ⟨result, rests⟩ := h₂.ensure_served served₂ again
  have found : (Directory.find host domain s₂).1 = .ok p := by
    rw [h₂.find_eq, served₂]
  have looked := isLookup_find host domain s₂
  exact ⟨result, rests, ((ensured_ensure host domain again s₂).writes looked.quiet).2
    (by rw [found]; exact nofun)⟩

end Service

namespace Directory

/-- **A failure is never taken for an absence.** On every host the record of the whole domain is
read, and only if it is absent that of the host without the port; the first read that is not absent
decides, and a domain is absent exactly if all that was read is. A playground is written exactly if
the lookup comes to that, and it is announced exactly if it could be written; nothing else is ever
written. In memory a second time finds what the first has found or made. -/
theorem no_failure_is_taken_for_absence {σ : Type} (host : Host (StateM σ)) (s : σ)
    (domain : String) (seconds : UInt64) :
    let looked := contacts (find host.watched domain) s
    let found := (find host domain s).1
    let cs := contacts (ensure host.watched domain seconds) s
    IsLookup domain looked found ∧
    (∀ name, found = .error (.playgroundNotFound name)
      ↔ (∀ read ∈ Contact.reads looked, IsAbsent read.2) ∧ name = domain) ∧
    Ensured domain seconds looked found cs (ensure host domain seconds s).1 ∧
    (found = .error (.playgroundNotFound domain) → ∃ written, Contact.writes cs
        = [(⟨playgroundId domain, domain, seconds, none, false⟩, written)] ∧
      Contact.announcements cs = match written with
        | .ok () => [⟨.playgroundNew, playgroundId domain, []⟩]
        | .error _ => []) ∧
    (found ≠ .error (.playgroundNotFound domain) →
      Contact.writes cs = [] ∧ Contact.announcements cs = []) ∧
    (Contact.writes cs ≠ [] → ∀ read ∈ Contact.reads cs, IsAbsent read.2) ∧
    ∀ (inMemory : Service) (t : Tables), inMemory.HasTables t →
      ∃ p t', (ensure Service.host domain seconds inMemory).1 = .ok p ∧
        (ensure Service.host domain seconds inMemory).2.HasTables t' ∧
        ∀ s₂ t₂ again, s₂.HasTables t₂ → t₂.playgrounds = t'.playgrounds →
          (ensure Service.host domain again s₂).1 = .ok p ∧
          s₂.Rests (ensure Service.host domain again s₂).2 ∧
          Contact.writes (contacts (ensure Service.host.watched domain again) s₂) = [] ∧
          Contact.announcements (contacts (ensure Service.host.watched domain again) s₂) = [] := by
  intro looked found cs
  have lookup := isLookup_find host domain s
  have ensured := ensured_ensure host domain seconds s
  obtain ⟨created, otherwise⟩ := ensured.writes lookup.quiet
  refine ⟨lookup, lookup.search.notFound_iff, ensured, created, otherwise, fun writes => ?_,
    fun inMemory t h => h.ensure_again domain seconds⟩
  -- What is written at all is written because nothing was found.
  have absent : found = .error (.playgroundNotFound domain) := by
    by_contra other
    exact writes (otherwise other).1
  rw [show Contact.reads cs = Contact.reads looked from ensured.reads]
  exact ((lookup.search.notFound_iff domain).mp absent).1

/-- A domain with a port is created on an empty store, and found again with other settings. -/
theorem no_failure_is_taken_for_absence_first_boot :
    let s := Service.start (.standing .epoch) none [] (.memory .empty)
    let booted := ensure Service.host "a.b:80" 5 s
    s.HasTables .empty ∧ ∃ p, booted.1 = .ok p ∧
      (ensure Service.host "a.b:80" 9 booted.2).1 = .ok p ∧
      Contact.writes (contacts (ensure Service.host.watched "a.b:80" 9) booted.2) = [] := by
  intro s booted
  have empty : s.HasTables .empty := ⟨rfl, rfl⟩
  obtain ⟨-, -, -, -, -, -, memory⟩ := no_failure_is_taken_for_absence Service.host s "a.b:80" 5
  obtain ⟨p, t', made, tables, again⟩ := memory s .empty empty
  obtain ⟨found, -, unwritten, -⟩ := again booted.2 t' 9 tables rfl
  exact ⟨empty, p, made, found, unwritten⟩

end Directory

end Playgrounds
