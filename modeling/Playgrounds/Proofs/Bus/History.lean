import Playgrounds.Bus.Events
import Playgrounds.Proofs.Bus.Channel
import Playgrounds.Proofs.Record.Faithful

/-!
# The history of a bus

What may be done to a bus, and what a subscription is to receive of it. The latter is told by the
history alone: by what was posted on the topic since the subscription began, and by when it
received.

* `Bus.Deed`, `Bus.after`, `Bus.received` — deeds, a bus with a history, and what is received.
* `Bus.receipts` — what a subscription is to receive, told without the bus.
* `Bus.Accounts` — receipts that stand for some postings, in order and without a gap that is not
  told; `Bus.exists_accounts` says that those of a subscription do.
* `Bus.standing` — the subscriptions that stand.
-/

namespace Playgrounds

/-- What is posted on the bus: some bytes, or an event. -/
inductive Posting where
  | raw (topic : String) (payload : List UInt8)
  | event (e : Event)
deriving DecidableEq

namespace Posting

/-- The topic on which it is posted. -/
def topic : Posting → String
  | raw topic _ => topic
  | event e => e.kind.topic

/-- The bytes that are posted. -/
def payload : Posting → List UInt8
  | raw _ payload => payload
  | event e => e.payload

/-- The message that is received for it. -/
def message (p : Posting) : Message :=
  ⟨p.topic, p.payload⟩

end Posting

namespace Received

/-- A receipt as a subscription receives it. -/
def delivery : Received Posting → Delivery
  | .message p => .message p.message
  | .lagged count => .lagged count
  | .nothing => .nothing

/-- A receipt as a subscription to events receives it: an event that was posted is that event. -/
def eventDelivery : Received Posting → EventDelivery
  | .message (.event e) => .event e
  | .message (.raw topic payload) => Bus.readDelivery (.message ⟨topic, payload⟩)
  | .lagged count => .lagged count
  | .nothing => .nothing

/-- To read what is delivered is to deliver what is read. -/
theorem readDelivery_delivery (r : Received Posting) :
    Bus.readDelivery r.delivery = r.eventDelivery := by
  cases r with
  | message p =>
      cases p with
      | raw topic payload => rfl
      | event e =>
          show Bus.readDelivery (.message ⟨_, e.payload⟩) = .event e
          rw [Bus.readDelivery, Event.ofPayload_payload]
  | lagged | nothing => rfl

/-- As long as the bus is open no subscription receives that it is closed, and only one that is to
wait receives nothing. -/
theorem eventDelivery_ne_closed (r : Received Posting) : r.eventDelivery ≠ .closed := by
  cases r with
  | message p =>
      cases p with
      | raw topic payload =>
          rw [eventDelivery, Bus.readDelivery]
          split <;> exact nofun
      | event e => exact nofun
  | lagged | nothing => exact nofun

theorem eventDelivery_eq_nothing_iff {r : Received Posting} :
    r.eventDelivery = .nothing ↔ r = .nothing := by
  cases r with
  | message p =>
      refine iff_of_false ?_ nofun
      cases p with
      | raw topic payload =>
          rw [eventDelivery, Bus.readDelivery]
          split <;> exact nofun
      | event e => exact nofun
  | lagged count => exact iff_of_false nofun nofun
  | nothing => exact iff_of_true rfl rfl

end Received

namespace Bus

/-! ## Histories -/

/-- What may be done to a bus. A subscription to a kind of events is one to its topic. -/
inductive Deed where
  | subscribe (topic : String)
  | post (p : Posting)
  | receive (id : SubscriptionId)
  | unsubscribe (id : SubscriptionId)
deriving DecidableEq

/-- Posts some bytes or an event. -/
def post (b : Bus) : Posting → Bus
  | .raw topic payload => (b.publish topic payload).2
  | .event e => b.emit e

/-- What comes of a deed. -/
def step (b : Bus) : Deed → Bus
  | .subscribe topic => (b.subscribe topic).2
  | .post p => b.post p
  | .receive id => (b.receive id).2
  | .unsubscribe id => b.unsubscribe id

/-- A bus with a history. -/
def after (ds : List Deed) : Bus :=
  ds.foldl step empty

/-- What a subscription receives by a deed. -/
def received? (id : SubscriptionId) (b : Bus) : Deed → Option Delivery
  | .receive other => if other = id then some (b.receive id).1 else none
  | _ => none

/-- What a subscription receives in the course of some deeds. -/
def received (id : SubscriptionId) : (b : Bus) → List Deed → List Delivery
  | _, [] => []
  | b, d :: ds => (b.received? id d).toList ++ received id (b.step d) ds

/-- What a subscription received by one more deed comes last. -/
theorem received_concat (id : SubscriptionId) (b : Bus) (ds : List Deed) (d : Deed) :
    received id b (ds ++ [d]) = received id b ds ++ ((ds.foldl step b).received? id d).toList := by
  induction ds generalizing b with
  | nil => exact List.append_nil _
  | cons first rest ih =>
      rw [List.cons_append, received, received, ih, List.append_assoc]
      rfl

/-- By what others do a subscription receives nothing. -/
theorem received_append_others {id : SubscriptionId} {b : Bus} {ds others : List Deed}
    (none : ∀ d ∈ others, d ≠ .receive id) :
    received id b (ds ++ others) = received id b ds := by
  induction others generalizing ds with
  | nil => rw [List.append_nil]
  | cons d rest ih =>
      have nothing : (ds.foldl step b).received? id d = Option.none := by
        cases d with
        | receive other =>
            have other : other ≠ id := fun same => none _ List.mem_cons_self (congrArg _ same)
            exact if_neg other
        | subscribe | post | unsubscribe => rfl
      rw [List.append_cons, ih fun d here => none d (List.mem_cons_of_mem _ here), received_concat,
        nothing, Option.toList_none, List.append_nil]

/-! ## Told by the history alone -/

/-- What was posted on a topic. -/
def postings (topic : String) (ds : List Deed) : List Posting :=
  ds.filterMap fun
    | .post p => if p.topic = topic then some p else none
    | _ => none

/-- What was posted on a topic was posted. -/
theorem mem_postings {topic : String} {ds : List Deed} {p : Posting} :
    p ∈ postings topic ds ↔ .post p ∈ ds ∧ p.topic = topic := by
  rw [postings, List.mem_filterMap]
  constructor
  · rintro ⟨d, here, found⟩
    cases d with
    | post q =>
        by_cases own : q.topic = topic
        · simp only [if_pos own, Option.some.injEq] at found
          subst found
          exact ⟨here, own⟩
        · simp only [if_neg own] at found
          exact nomatch found
    | subscribe | receive | unsubscribe => exact nomatch found
  · rintro ⟨here, own⟩
    exact ⟨_, here, if_pos own⟩

/-- What a subscription is to receive by a deed that has these postings before it. -/
def receipt? (id : SubscriptionId) (ahead : List Posting) : Deed → Option (Received Posting)
  | .receive other => if other = id then some (.next ahead) else none
  | _ => none

/-- The postings that lie before a subscription after a deed. -/
def goOn (id : SubscriptionId) (topic : String) (ahead : List Posting) : Deed → List Posting
  | .post p => if p.topic = topic then ahead ++ [p] else ahead
  | .receive other => if other = id then ahead.drop (Received.next ahead).count else ahead
  | _ => ahead

/-- What a subscription is to receive in the course of some deeds. -/
def receipts (id : SubscriptionId) (topic : String) :
    (ahead : List Posting) → List Deed → List (Received Posting)
  | _, [] => []
  | ahead, d :: ds => (receipt? id ahead d).toList ++ receipts id topic (goOn id topic ahead d) ds

/-- Whether a subscription to a topic has to do with a deed. -/
def Concerns (id : SubscriptionId) (topic : String) : Deed → Bool
  | .post p => p.topic == topic
  | .receive other => other == id
  | _ => false

/-- How many subscriptions have begun, and which of them stand, with their topics. -/
structure Enrolment where
  begun : Nat
  standing : List (SubscriptionId × String)

/-- What a deed does to the subscriptions. -/
def enrol (e : Enrolment) : Deed → Enrolment
  | .subscribe topic => ⟨e.begun + 1, (e.begun, topic) :: e.standing⟩
  | .unsubscribe id => { e with standing := e.standing.filter (·.1 != id) }
  | _ => e

/-- The subscriptions that stand after some deeds, with their topics. -/
def standing (ds : List Deed) : List (SubscriptionId × String) :=
  (ds.foldl enrol ⟨0, []⟩).standing

/-- The postings among some receipts. -/
def postingsOf (rs : List (Received Posting)) : List Posting :=
  rs.filterMap fun
    | .message p => some p
    | _ => none

/-- How many postings were lost by some receipts. -/
def lost : List (Received Posting) → Nat
  | [] => 0
  | .lagged count :: rs => count + lost rs
  | .message _ :: rs | .nothing :: rs => lost rs

/-- The receipts stand for these postings: each for its own, or for some that are lost and counted,
or for none. -/
inductive Accounts : List (Received Posting) → List Posting → Prop where
  | done : Accounts [] []
  | message (p : Posting) {rs : List (Received Posting)} {ps : List Posting} :
    Accounts rs ps → Accounts (.message p :: rs) (p :: ps)
  | lagged (gone : List Posting) {rs : List (Received Posting)} {ps : List Posting} :
    gone ≠ [] → Accounts rs ps → Accounts (.lagged gone.length :: rs) (gone ++ ps)
  | nothing {rs : List (Received Posting)} {ps : List Posting} :
    Accounts rs ps → Accounts (.nothing :: rs) ps

section

variable {id : SubscriptionId} {topic : String} {ahead : List Posting}

/-- Every posting has been received or counted as lost. -/
theorem Accounts.length_eq {rs : List (Received Posting)} {ps : List Posting}
    (a : Accounts rs ps) : (postingsOf rs).length + lost rs = ps.length := by
  induction a with
  | done => rfl
  | @message p rs ps _ ih =>
      show (postingsOf rs).length + 1 + lost rs = ps.length + 1
      omega
  | @lagged gone rs ps _ _ ih =>
      show (postingsOf rs).length + (gone.length + lost rs) = (gone ++ ps).length
      rw [List.length_append]
      omega
  | @nothing rs ps _ ih =>
      show (postingsOf rs).length + lost rs = ps.length
      exact ih

/-- The postings among some receipts are some of those that these stand for. -/
theorem Accounts.sublist {rs : List (Received Posting)} {ps : List Posting} (a : Accounts rs ps) :
    (postingsOf rs).Sublist ps := by
  induction a with
  | done => exact .slnil
  | message p _ ih => exact ih.cons_cons p
  | lagged gone _ _ ih => exact ih.trans (List.sublist_append_right gone _)
  | nothing _ ih => exact ih

/-- If none is lost then they are all of them. -/
theorem Accounts.eq_of_kept {rs : List (Received Posting)} {ps : List Posting} (a : Accounts rs ps)
    (kept : ∀ count, .lagged count ∉ rs) : postingsOf rs = ps := by
  induction a with
  | done => rfl
  | message p _ ih => exact congrArg _ (ih fun n h => kept n (List.mem_cons_of_mem _ h))
  | lagged gone _ _ ih => exact absurd List.mem_cons_self (kept gone.length)
  | nothing _ ih => exact ih fun n h => kept n (List.mem_cons_of_mem _ h)

/-- Receipts of messages alone are these postings. -/
theorem Accounts.eq_map_message {rs : List (Received Posting)} {ps : List Posting}
    (a : Accounts rs ps) (messages : ∀ r ∈ rs, ∃ p, r = .message p) : rs = ps.map .message := by
  induction a with
  | done => rfl
  | message p _ ih => exact congrArg _ (ih fun r h => messages r (List.mem_cons_of_mem _ h))
  | lagged gone _ _ _ =>
      obtain ⟨p, same⟩ := messages _ List.mem_cons_self
      exact nomatch same
  | nothing _ _ =>
      obtain ⟨p, same⟩ := messages _ List.mem_cons_self
      exact nomatch same

/-- A receipt stands for the first postings ahead, and the others are still ahead. -/
theorem Accounts.next {rs : List (Received Posting)} {taken : List Posting}
    (a : Accounts rs taken) :
    Accounts (.next ahead :: rs) (ahead.take (Received.next ahead).count ++ taken) := by
  by_cases far : Channel.capacity < ahead.length
  · have length : (ahead.take (ahead.length - Channel.capacity)).length
        = ahead.length - Channel.capacity := List.length_take_of_le (Nat.sub_le _ _)
    -- More lies before the reader than is kept, so it is told of at least one that is lost.
    have some : ahead.take (ahead.length - Channel.capacity) ≠ [] := by
      rw [← List.length_pos_iff, length]
      exact Nat.sub_pos_of_lt far
    have lagged := a.lagged _ some
    rw [length] at lagged
    rw [Received.next_of_lt far]
    exact lagged
  · cases ahead with
    | nil => exact a.nothing
    | cons p rest =>
        rw [Received.next_cons (Nat.not_lt.mp far)]
        exact a.message p

/-- What is to be received stands for what was posted, up to what is still ahead. -/
theorem exists_accounts (id : SubscriptionId) (topic : String) (ahead : List Posting)
    (ds : List Deed) :
    ∃ taken, ahead ++ postings topic ds = taken ++ ds.foldl (goOn id topic) ahead ∧
      Accounts (receipts id topic ahead ds) taken := by
  induction ds generalizing ahead with
  | nil => exact ⟨[], by simp [postings], .done⟩
  | cons d ds ih =>
      obtain ⟨taken, split, accounts⟩ := ih (goOn id topic ahead d)
      cases d with
      | subscribe other | unsubscribe other => exact ⟨taken, split, accounts⟩
      | post p =>
          refine ⟨taken, ?_, accounts⟩
          rw [List.foldl_cons, ← split]
          by_cases here : p.topic = topic
          · simp [goOn, postings, here]
          · simp [goOn, postings, here]
      | receive other =>
          by_cases own : other = id
          -- What this receipt deals with comes off the front of what lies before the subscription.
          · refine ⟨ahead.take (Received.next ahead).count ++ taken, ?_, ?_⟩
            · rw [List.append_assoc, List.foldl_cons, ← split]
              simp only [goOn, if_pos own, ← List.append_assoc, List.take_append_drop]
              rfl
            · simp only [receipts, receipt?, if_pos own]
              exact accounts.next
          · refine ⟨taken, ?_, ?_⟩
            · rw [List.foldl_cons, ← split]
              simp only [goOn, if_neg own]
              rfl
            · simp only [receipts, receipt?, if_neg own]
              exact accounts

/-- A subscription that is never further behind than the channel keeps is told of no loss. -/
theorem lagged_notMem_receipts (id : SubscriptionId) (topic : String) (ahead : List Posting)
    (ds : List Deed)
    (near : ∀ n, ((ds.take n).foldl (goOn id topic) ahead).length ≤ Channel.capacity)
    (count : Nat) : .lagged count ∉ receipts id topic ahead ds := by
  induction ds generalizing ahead with
  | nil => exact List.not_mem_nil
  | cons d ds ih =>
      have later := ih (goOn id topic ahead d) fun n => near (n + 1)
      intro told
      rcases List.mem_append.mp told with told | told
      · cases d with
        | receive other =>
            have now : ahead.length ≤ Channel.capacity := near 0
            by_cases own : other = id
            · rw [receipt?, if_pos own] at told
              have told : .lagged count = Received.next ahead := by simpa using told
              cases ahead with
              | nil => exact nomatch told
              | cons p rest =>
                  rw [Received.next_cons now] at told
                  exact nomatch told
            · rw [receipt?, if_neg own] at told
              exact nomatch told
        | subscribe | post | unsubscribe => exact nomatch told
      · exact later told

/-- What is to be received hangs on the deeds that concern the subscription. -/
theorem receipts_filter (ahead : List Posting) (ds : List Deed) :
    receipts id topic ahead (ds.filter (Concerns id topic)) = receipts id topic ahead ds := by
  induction ds generalizing ahead with
  | nil => rfl
  | cons d ds ih =>
      rw [List.filter_cons]
      cases concerned : Concerns id topic d with
      | true =>
          rw [if_pos rfl, receipts, receipts, ih]
      | false =>
          rw [if_neg Bool.false_ne_true, ih, receipts]
          cases d with
          | subscribe | unsubscribe => rfl
          | post p =>
              rw [goOn, if_neg (by simpa [Concerns] using concerned)]
              rfl
          | receive other =>
              have other : ¬other = id := by simpa [Concerns] using concerned
              rw [goOn, receipt?, if_neg other, if_neg other]
              rfl

end

end Bus

end Playgrounds
