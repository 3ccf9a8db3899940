import Mathlib.Data.List.Induction
import Playgrounds.Proofs.Bus.History
import Playgrounds.Proofs.Store.Table

/-!
# What a subscription receives

A subscription receives what the history of the bus says that it is to receive, at any number of
subscriptions and topics, however far it falls behind.

* `Bus.Awaits` — the invariant: the messages that lie before a subscription.
* `Bus.Awaits.step`, `Bus.Awaits.foldl` — one deed, and a history of deeds.
* `Bus.Enrolls` — the subscriptions that stand are those that began and have not ended.
* `Bus.delivers_in_order` — what comes of it for a subscription.
-/

namespace Playgrounds

namespace Bus

/-! ## The bus -/

variable {b : Bus} {id : SubscriptionId} {topic : String} {ahead : List Posting}

theorem post_eq (b : Bus) (p : Posting) : b.post p = (b.publish p.topic p.payload).2 := by
  cases p <;> rfl

/-- What is published to nobody is not kept for anybody. -/
theorem publish_of_alone (isOpen : b.isOpen = true) (alone : b.audience topic = 0)
    (payload : List UInt8) : b.publish topic payload = (0, b) := by
  simp only [publish, isOpen, alone, if_true]

/-- What is published to somebody is sent into the channel of its topic, and into no other. -/
theorem publish_of_audience (isOpen : b.isOpen = true) (reached : b.audience topic ≠ 0)
    (payload : List UInt8) :
    b.publish topic payload
      = (b.audience topic,
        { b with channels := b.channels.insert topic ((b.channel topic).send payload) }) := by
  simp only [publish, isOpen, if_true, if_neg reached]

/-- The sender is told how many there are to hear. -/
theorem publish_fst (isOpen : b.isOpen = true) (topic : String) (payload : List UInt8) :
    (b.publish topic payload).1 = b.audience topic := by
  by_cases alone : b.audience topic = 0
  · rw [publish_of_alone isOpen alone, alone]
  · rw [publish_of_audience isOpen alone]

/-- The channel of a topic once a message has been put on another or the same. -/
theorem channel_insert (b : Bus) (other topic : String) (c : Channel (List UInt8)) :
    channel { b with channels := b.channels.insert other c } topic
      = if other = topic then c else b.channel topic := by
  show ((b.channels.insert other c)[topic]?).getD .empty = _
  rw [Std.ExtTreeMap.getElem?_insert]
  by_cases same : other = topic
  · simp [same]
  · simp [same, channel]

/-- A topic that somebody is subscribed to has an audience. -/
theorem audience_ne_zero {s : Subscription} (found : b.subscriptions[id]? = some s) :
    b.audience s.topic ≠ 0 := by
  have listed : (id, s) ∈ b.subscriptions.toList :=
    Std.ExtTreeMap.mem_toList_iff_getElem?_eq_some.mpr found
  have here : 0 < b.subscriptions.values.countP (·.topic == s.topic) := by
    rw [List.countP_pos_iff, Store.values_eq_map_snd]
    exact ⟨s, List.mem_map.mpr ⟨_, listed, rfl⟩, beq_self_eq_true _⟩
  exact Nat.ne_of_gt here

theorem receive_of_none (gone : b.subscriptions[id]? = none) : b.receive id = (.closed, b) := by
  simp only [receive, gone]

/-- What comes of receiving: a place in the channel moves on. -/
theorem receive_of_some {s : Subscription} (found : b.subscriptions[id]? = some s) :
    (b.receive id).2 = { b with
      subscriptions := b.subscriptions.insert id
        ⟨s.topic, ((b.channel s.topic).receive s.position).2⟩ } := by
  simp only [receive, found]
  split <;> rfl

/-! ## The invariant of a bus -/

/-- The bus is open, and each of its channels has carried something or nothing. -/
structure Sound (b : Bus) : Prop where
  isOpen : b.isOpen = true
  carries : ∀ topic, ∃ ms, (b.channel topic).Carries ms
  id_lt : ∀ id ∈ b.subscriptions, id < b.nextId

theorem channel_empty (topic : String) : empty.channel topic = .empty := by
  rw [channel, empty, Std.ExtTreeMap.getElem?_empty]
  rfl

/-- The invariant holds at first. -/
theorem sound_empty : empty.Sound where
  isOpen := rfl
  carries := by
    intro topic
    rw [channel_empty]
    exact ⟨[], Channel.carries_empty⟩
  id_lt := fun _ h => absurd h Std.ExtTreeMap.not_mem_empty

/-- **Each deed keeps the invariant.** -/
theorem Sound.step (s : b.Sound) (d : Deed) : (b.step d).Sound := by
  cases d with
  | subscribe topic =>
      refine ⟨s.isOpen, s.carries, ?_⟩
      intro id h
      rcases Std.ExtTreeMap.mem_insert.mp h with same | h
      · rw [← Std.compare_eq_iff_eq.mp same]
        exact Nat.lt_succ_self _
      · exact Nat.lt_succ_of_lt (s.id_lt id h)
  | post p =>
      show (b.post p).Sound
      rw [post_eq]
      by_cases alone : b.audience p.topic = 0
      · rw [publish_of_alone s.isOpen alone]
        exact s
      · rw [publish_of_audience s.isOpen alone]
        -- The channel of the topic has carried one message more, and the other channels are as they
        -- were.
        refine ⟨s.isOpen, ?_, s.id_lt⟩
        intro topic
        rw [channel_insert]
        split
        · obtain ⟨ms, carries⟩ := s.carries p.topic
          exact ⟨_, carries.send p.payload⟩
        · exact s.carries topic
  | receive id =>
      show (b.receive id).2.Sound
      cases found : b.subscriptions[id]? with
      | none =>
          rw [receive_of_none found]
          exact s
      | some subscription =>
          rw [receive_of_some found]
          refine ⟨s.isOpen, s.carries, ?_⟩
          intro other h
          rcases Std.ExtTreeMap.mem_insert.mp h with same | h
          · rw [← Std.compare_eq_iff_eq.mp same]
            exact s.id_lt id (Std.ExtTreeMap.mem_iff_isSome_getElem?.mpr (by rw [found]; rfl))
          · exact s.id_lt other h
  | unsubscribe id =>
      exact ⟨s.isOpen, s.carries, fun other h => s.id_lt other (Std.ExtTreeMap.mem_of_mem_erase h)⟩

theorem Sound.foldl (s : b.Sound) (ds : List Deed) : (ds.foldl Bus.step b).Sound := by
  induction ds generalizing b with
  | nil => exact s
  | cons d ds ih => exact ih (s.step d)

theorem sound_after (ds : List Deed) : (after ds).Sound :=
  sound_empty.foldl ds

/-! ## The messages before a subscription -/

/-- These postings lie before a subscription to a topic. -/
structure Awaits (b : Bus) (id : SubscriptionId) (topic : String) (ahead : List Posting) :
    Prop where
  onTopic : ∀ p ∈ ahead, p.topic = topic
  place : ∃ past : List (List UInt8), b.subscriptions[id]? = some ⟨topic, past.length⟩ ∧
    (b.channel topic).Carries (past ++ ahead.map Posting.payload)

/-- What the bus says is pending is what lies before the subscription. -/
theorem Awaits.pending_eq (a : b.Awaits id topic ahead) : b.pending id = ahead.length := by
  obtain ⟨past, found, carries⟩ := a.place
  simp only [pending, found, carries.sent_eq, List.length_append, List.length_map]
  omega

/-- A subscription that begins has nothing before it. -/
theorem Sound.awaits_subscribe (s : b.Sound) (topic : String) :
    (b.subscribe topic).2.Awaits b.nextId topic [] := by
  obtain ⟨ms, carries⟩ := s.carries topic
  refine ⟨fun _ h => absurd h List.not_mem_nil, ms, ?_, ?_⟩
  · rw [← carries.sent_eq]
    exact Std.ExtTreeMap.getElem?_insert_self
  · rw [List.map_nil, List.append_nil]
    exact carries

section

variable (s : b.Sound) (a : b.Awaits id topic ahead)

include a

/-- What is received is told by the postings that lie ahead. -/
theorem Awaits.receive_fst (isOpen : b.isOpen = true) :
    (b.receive id).1 = (Received.next ahead).delivery := by
  obtain ⟨past, found, carries⟩ := a.place
  simp only [receive, found, carries.receive, Received.next_map]
  cases next : Received.next ahead with
  | message p =>
      show Delivery.message ⟨topic, p.payload⟩ = .message ⟨p.topic, p.payload⟩
      rw [a.onTopic p (Received.mem_of_next_eq_message next)]
  | lagged count => rfl
  | nothing => exact if_pos isOpen

/-- The postings that a receipt stands for do not lie ahead any more. -/
theorem Awaits.receive_snd :
    (b.receive id).2.Awaits id topic (ahead.drop (Received.next ahead).count) := by
  obtain ⟨past, found, carries⟩ := a.place
  have taken := carries.receive
  rw [Received.next_map, Received.count_map] at taken
  refine ⟨fun p h => a.onTopic p (List.mem_of_mem_drop h),
    past ++ (ahead.take (Received.next ahead).count).map Posting.payload, ?_, ?_⟩
  · rw [receive_of_some found, taken]
    show (b.subscriptions.insert id _)[id]? = _
    rw [Std.ExtTreeMap.getElem?_insert_self, List.length_append, List.length_map,
      List.length_take_of_le (Received.count_next_le ahead)]
  · rw [List.append_assoc, ← List.map_append, List.take_append_drop, receive_of_some found]
    exact carries

omit a in
/-- A subscription is where it was if neither its place nor its channel has changed. -/
theorem Awaits.keep (a : b.Awaits id topic ahead) {b' : Bus}
    (place : b'.subscriptions[id]? = b.subscriptions[id]?)
    (channel : b'.channel topic = b.channel topic) : b'.Awaits id topic ahead := by
  obtain ⟨past, found, carries⟩ := a.place
  exact ⟨a.onTopic, past, place.trans found, by rw [channel]; exact carries⟩

theorem Awaits.mem_subscriptions : id ∈ b.subscriptions := by
  obtain ⟨past, found, -⟩ := a.place
  rw [Std.ExtTreeMap.mem_iff_isSome_getElem?, found]
  rfl

include s

/-- A posting lies before every subscription to its topic, and before no other. -/
theorem Awaits.post (p : Posting) : (b.post p).Awaits id topic (goOn id topic ahead (.post p)) := by
  obtain ⟨past, found, carries⟩ := a.place
  rw [post_eq]
  by_cases alone : b.audience p.topic = 0
  -- Nobody listens to the topic of this posting, so it is not the one that is subscribed to.
  · have other : p.topic ≠ topic := fun same => audience_ne_zero found (same ▸ alone)
    rw [publish_of_alone s.isOpen alone, goOn, if_neg other]
    exact a
  · rw [publish_of_audience s.isOpen alone]
    by_cases here : p.topic = topic
    · rw [goOn, if_pos here]
      refine ⟨?_, past, found, ?_⟩
      · intro q h
        rcases List.mem_append.mp h with h | h
        · exact a.onTopic q h
        · rw [List.mem_singleton.mp h, here]
      · rw [channel_insert, if_pos here, here, List.map_append, ← List.append_assoc]
        exact carries.send p.payload
    · rw [goOn, if_neg here]
      exact a.keep rfl (by rw [channel_insert, if_neg here])

/-- **One deed.** What a subscription receives by it is told by the postings that lie ahead, and so
is what lies ahead after it. -/
theorem Awaits.step {d : Deed} (stays : d ≠ .unsubscribe id) :
    (b.step d).Awaits id topic (goOn id topic ahead d) ∧
      b.received? id d = (receipt? id ahead d).map Received.delivery := by
  cases d with
  | subscribe other =>
      refine ⟨a.keep ?_ rfl, rfl⟩
      show (b.subscriptions.insert b.nextId _)[id]? = _
      -- A new subscription gets a number of its own.
      have older := Nat.ne_of_gt (s.id_lt id a.mem_subscriptions)
      rw [Std.ExtTreeMap.getElem?_insert, if_neg (by simpa using older)]
  | post p => exact ⟨a.post s p, rfl⟩
  | receive other =>
      by_cases own : other = id
      · subst own
        simp only [goOn, received?, receipt?, if_true, Option.map_some]
        exact ⟨a.receive_snd, congrArg some (a.receive_fst s.isOpen)⟩
      · simp only [goOn, received?, receipt?, if_neg own, Option.map_none, and_true]
        show (b.receive other).2.Awaits id topic ahead
        cases found : b.subscriptions[other]? with
        | none =>
            rw [receive_of_none found]
            exact a
        | some subscription =>
            rw [receive_of_some found]
            refine a.keep ?_ rfl
            show (b.subscriptions.insert other _)[id]? = _
            rw [Std.ExtTreeMap.getElem?_insert, if_neg (by simpa using own)]
  | unsubscribe other =>
      have other : other ≠ id := fun same => stays (congrArg Deed.unsubscribe same)
      refine ⟨a.keep ?_ rfl, rfl⟩
      show (b.subscriptions.erase _)[id]? = _
      rw [Std.ExtTreeMap.getElem?_erase, if_neg (by simpa using other)]

/-- **A history of deeds.** -/
theorem Awaits.foldl {ds : List Deed} (stays : .unsubscribe id ∉ ds) :
    (ds.foldl Bus.step b).Awaits id topic (ds.foldl (goOn id topic) ahead) ∧
      received id b ds = (receipts id topic ahead ds).map Received.delivery := by
  induction ds generalizing b ahead with
  | nil => exact ⟨a, rfl⟩
  | cons d ds ih =>
      rw [List.mem_cons, not_or] at stays
      obtain ⟨awaits, now⟩ := a.step s (Ne.symm stays.1)
      obtain ⟨awaits', later⟩ := ih (s.step d) awaits stays.2
      refine ⟨awaits', ?_⟩
      rw [received, receipts, List.map_append, now, later]
      cases receipt? id ahead d <;> rfl

end

section

variable {ds : List Deed}

/-- What was posted since a subscription began has been given to it, or is still ahead; its receipts
stand for the former. -/
theorem Awaits.exists_taken (a : b.Awaits id topic []) (s : b.Sound)
    (stays : .unsubscribe id ∉ ds) : ∃ taken ahead,
      postings topic ds = taken ++ ahead ∧ (ds.foldl Bus.step b).Awaits id topic ahead ∧
      (received id b ds).map readDelivery
        = (receipts id topic [] ds).map Received.eventDelivery ∧
      Accounts (receipts id topic [] ds) taken := by
  obtain ⟨awaiting, receives⟩ := a.foldl s stays
  obtain ⟨taken, split, accounts⟩ := exists_accounts id topic [] ds
  refine ⟨taken, _, split, awaiting, ?_, accounts⟩
  rw [receives, List.map_map]
  exact List.map_congr_left fun r _ => Received.readDelivery_delivery r

/-- A subscription that was never further behind than a channel keeps was told of no loss. -/
theorem Awaits.lagged_notMem (a : b.Awaits id topic []) (s : b.Sound)
    (stays : .unsubscribe id ∉ ds)
    (near : ∀ n, ((ds.take n).foldl Bus.step b).pending id ≤ Channel.capacity) (count : Nat) :
    .lagged count ∉ receipts id topic [] ds := by
  refine lagged_notMem_receipts id topic [] ds (fun n => ?_) count
  have stays : .unsubscribe id ∉ ds.take n := fun h => stays (List.mem_of_mem_take h)
  rw [← (a.foldl s stays).1.pending_eq]
  exact near n

/-- What is received next as an event is told by the postings that lie ahead. -/
theorem Awaits.receiveEvent_fst (a : b.Awaits id topic ahead) (isOpen : b.isOpen = true) :
    (b.receiveEvent id).1 = (Received.next ahead).eventDelivery := by
  rw [← Received.readDelivery_delivery, ← a.receive_fst isOpen]
  rfl

end

/-! ## Who is subscribed -/

/-- The enrolment tells the subscriptions of the bus. -/
structure Enrolls (e : Enrolment) (b : Bus) : Prop where
  begun_eq : e.begun = b.nextId
  nodup : e.standing.Nodup
  mem_iff : ∀ id topic,
    (id, topic) ∈ e.standing ↔ b.subscriptions[id]?.map (·.topic) = some topic

/-- Nobody is subscribed at first. -/
theorem enrolls_empty : Enrolls ⟨0, []⟩ empty where
  begun_eq := rfl
  nodup := List.nodup_nil
  mem_iff := by
    intro id topic
    have none : empty.subscriptions[id]? = none := Std.ExtTreeMap.getElem?_empty
    rw [none]
    exact ⟨fun h => absurd h List.not_mem_nil, fun h => nomatch h⟩

/-- Each deed changes who is subscribed as it says. -/
theorem Enrolls.step {e : Enrolment} (h : Enrolls e b) (s : b.Sound) (d : Deed) :
    Enrolls (enrol e d) (b.step d) := by
  cases d with
  | subscribe topic =>
      -- The number of the new subscription has never been in use.
      have absent : b.subscriptions[b.nextId]? = none :=
        Std.ExtTreeMap.getElem?_eq_none fun here => Nat.lt_irrefl _ (s.id_lt _ here)
      have fresh : ∀ other, (b.nextId, other) ∉ e.standing := by
        intro other
        rw [h.mem_iff, absent]
        exact fun h => nomatch h
      obtain ⟨begun, standing⟩ := e
      obtain rfl : begun = b.nextId := h.begun_eq
      refine ⟨rfl, List.nodup_cons.mpr ⟨fresh topic, h.nodup⟩, ?_⟩
      intro id other
      show (id, other) ∈ (b.nextId, topic) :: standing ↔
        (b.subscriptions.insert b.nextId ⟨topic, (b.channel topic).sent⟩)[id]?.map (·.topic)
          = some other
      by_cases same : b.nextId = id
      · subst same
        rw [Std.ExtTreeMap.getElem?_insert_self, List.mem_cons, or_iff_left (fresh other)]
        simp [eq_comm]
      · rw [Std.ExtTreeMap.getElem?_insert, if_neg (by simpa using same), ← h.mem_iff,
          List.mem_cons, or_iff_right fun same' => same (Prod.mk.inj same').1.symm]
  | post p =>
      show Enrolls e (b.post p)
      rw [post_eq]
      by_cases alone : b.audience p.topic = 0
      · rw [publish_of_alone s.isOpen alone]
        exact h
      · rw [publish_of_audience s.isOpen alone]
        exact ⟨h.begun_eq, h.nodup, h.mem_iff⟩
  | receive id =>
      show Enrolls e (b.receive id).2
      cases found : b.subscriptions[id]? with
      | none =>
          rw [receive_of_none found]
          exact h
      | some subscription =>
          rw [receive_of_some found]
          refine ⟨h.begun_eq, h.nodup, ?_⟩
          intro other topic
          show _ ↔ (b.subscriptions.insert id ⟨subscription.topic, _⟩)[other]?.map (·.topic) = _
          by_cases same : id = other
          · subst same
            rw [h.mem_iff, found, Std.ExtTreeMap.getElem?_insert_self]
            rfl
          · rw [h.mem_iff, Std.ExtTreeMap.getElem?_insert, if_neg (by simpa using same)]
  | unsubscribe id =>
      refine ⟨h.begun_eq, h.nodup.filter _, ?_⟩
      intro other topic
      show (other, topic) ∈ e.standing.filter (·.1 != id) ↔
        (b.subscriptions.erase id)[other]?.map (·.topic) = some topic
      rw [List.mem_filter, h.mem_iff, Std.ExtTreeMap.getElem?_erase]
      by_cases same : id = other
      · simp [same]
      · simp [same, Ne.symm same]

/-- Who is subscribed is told by the history alone. -/
theorem enrolls_after (ds : List Deed) : Enrolls (ds.foldl enrol ⟨0, []⟩) (after ds) := by
  induction ds using List.reverseRecOn with
  | nil => exact enrolls_empty
  | append_singleton ds d ih =>
      rw [after, List.foldl_append, List.foldl_append]
      exact ih.step (sound_after ds) d

/-- As many as are enrolled with a topic hear what is published on it. -/
theorem Enrolls.audience_eq {e : Enrolment} (h : Enrolls e b) (topic : String) :
    b.audience topic = e.standing.countP (·.2 == topic) := by
  -- Both count the same list of pairs, once without repetitions in each order.
  let listed := b.subscriptions.toList.map fun entry => (entry.1, entry.2.topic)
  have distinct : listed.Nodup := by
    refine List.pairwise_map.mpr (Std.ExtTreeMap.distinct_keys_toList.imp ?_)
    intro x y apart same
    exact apart (Std.compare_eq_iff_eq.mpr (Prod.mk.inj same).1)
  have same : listed.Perm e.standing := by
    refine (List.perm_ext_iff_of_nodup distinct h.nodup).mpr ?_
    rintro ⟨id, topic⟩
    rw [h.mem_iff, List.mem_map, Option.map_eq_some_iff]
    constructor
    · rintro ⟨⟨id', s⟩, here, same⟩
      cases same
      exact ⟨s, Std.ExtTreeMap.mem_toList_iff_getElem?_eq_some.mp here, rfl⟩
    · rintro ⟨s, found, rfl⟩
      exact ⟨(id, s), Std.ExtTreeMap.mem_toList_iff_getElem?_eq_some.mpr found, rfl⟩
  rw [← same.countP_eq, audience, Store.values_eq_map_snd, List.countP_map, List.countP_map]
  rfl

/-- How many subscriptions hear what is published. -/
theorem publish_after (ds : List Deed) (topic : String) (payload : List UInt8) :
    ((after ds).publish topic payload).1 = (standing ds).countP (·.2 == topic) := by
  rw [publish_fst (sound_after ds).isOpen, (enrolls_after ds).audience_eq]
  rfl

/-! ## Delivery -/

/-- **WHAT A SUBSCRIPTION RECEIVES.** Whatever was done to the bus before a subscription began and
is done after that, so long as it stands: it receives what the history says that it is to receive,
and hears the events that were posted as they were posted. What it was told stands for what was
posted on its topic first, each posting in its turn and once, or counted as lost; the others are
pending, and decide what it receives next. If it is never further behind than a channel keeps then
nothing is lost to it, and all that is done on other topics or to other subscriptions changes
nothing for it. Whoever publishes is told how many subscriptions to the topic stand. -/
theorem delivers_in_order (before later : List Deed) (topic : String)
    (stays : .unsubscribe (after before).nextId ∉ later) :
    let id := (after before).nextId
    let start := after (before ++ [.subscribe topic])
    let b := after (before ++ .subscribe topic :: later)
    let posted := postings topic later
    let seen := posted.length - b.pending id
    let told := receipts id topic [] later
    received id start later = told.map Received.delivery ∧
    (received id start later).map readDelivery = told.map Received.eventDelivery ∧
    Accounts told (posted.take seen) ∧
    (postingsOf told).length + lost told + b.pending id = posted.length ∧
    (b.receive id).1 = (Received.next (posted.drop seen)).delivery ∧
    (b.receiveEvent id).1 = (Received.next (posted.drop seen)).eventDelivery ∧
    ((∀ n, ((later.take n).foldl step start).pending id ≤ Channel.capacity) →
      ∀ count, .lagged count ∉ received id start later) ∧
    (∀ others, .unsubscribe id ∉ others →
      others.filter (Concerns id topic) = later.filter (Concerns id topic) →
      received id start others = received id start later) ∧
    ∀ other payload, (b.publish other payload).1
      = (standing (before ++ .subscribe topic :: later)).countP (·.2 == other) := by
  intro id start b posted seen told
  -- From the moment of the subscription on, its invariant holds.
  have begins : start = ((after before).subscribe topic).2 := by
    simp only [start, after, List.foldl_append]
    rfl
  have sound : start.Sound := sound_after _
  have awaits : start.Awaits id topic [] := begins ▸ (sound_after before).awaits_subscribe topic
  have ends : ∀ ds, after (before ++ .subscribe topic :: ds) = ds.foldl step start := by
    intro ds
    rw [List.append_cons, after, List.foldl_append]
    rfl
  obtain ⟨awaiting, receives⟩ := awaits.foldl sound stays
  rw [← ends] at awaiting
  have pending : b.pending id = (later.foldl (goOn id topic) []).length := awaiting.pending_eq
  -- What was posted splits into what has been told of and what still lies before the subscription.
  obtain ⟨taken, split, accounts⟩ := exists_accounts id topic [] later
  have split : posted = taken ++ later.foldl (goOn id topic) [] := split
  have seen_eq : seen = taken.length := by
    simp only [seen, pending, split, List.length_append, Nat.add_sub_cancel]
  have taken_eq : posted.take seen = taken := by rw [seen_eq, split, List.take_left]
  have ahead_eq : posted.drop seen = later.foldl (goOn id topic) [] := by
    rw [seen_eq, split, List.drop_left]
  have next := awaiting.receive_fst (sound_after _).isOpen
  rw [← ahead_eq] at next
  refine ⟨receives, ?_, ?_, ?_, next, ?_, ?_, ?_, publish_after _⟩
  · rw [receives, List.map_map]
    exact List.map_congr_left fun r _ => Received.readDelivery_delivery r
  · rw [taken_eq]
    exact accounts
  · rw [accounts.length_eq, pending, ← List.length_append, ← split]
  · rw [← Received.readDelivery_delivery, ← next]
    rfl
  · intro near count told
    rw [receives] at told
    obtain ⟨r, told, same⟩ := List.mem_map.mp told
    refine lagged_notMem_receipts id topic [] later ?_ count ?_
    · intro n
      have stays : .unsubscribe id ∉ later.take n := fun h => stays (List.mem_of_mem_take h)
      rw [← (awaits.foldl sound stays).1.pending_eq]
      exact near n
    · cases r with
      | lagged other =>
          cases same
          exact told
      | message | nothing => exact nomatch same
  · intro others stays' same
    rw [receives, (awaits.foldl sound stays').2, ← receipts_filter [] others, same,
      receipts_filter]

/-! ## A subscription that falls behind -/

/-- Another subscription, and an event that nobody hears. -/
def earlierDeeds : List Deed :=
  [.subscribe "instance new", .post (.event ⟨.sessionTimer, "s", ["00:09"]⟩)]

/-- One event more than a channel keeps, another topic and two receipts. -/
def crowdedDeeds : List Deed :=
  [.post (.event ⟨.sessionTimer, "s", ["00:08"]⟩), .post (.raw "session timer" [0x7B])]
    ++ List.replicate 255 (.post (.event ⟨.sessionTimer, "s", ["00:07"]⟩))
    ++ [.post (.raw "instance new" []), .receive 1, .unsubscribe 0, .receive 1, .receive 1]

/-- The first event is lost to the subscription, which is told so; what comes next is no event, and
then the events go on. -/
theorem delivers_in_order_crowded :
    .unsubscribe (after earlierDeeds).nextId ∉ crowdedDeeds ∧
      (received (after earlierDeeds).nextId (after (earlierDeeds ++ [.subscribe "session timer"]))
        crowdedDeeds).map readDelivery
        = [.lagged 1, .unreadable .malformed, .event ⟨.sessionTimer, "s", ["00:07"]⟩] := by
  have stays : .unsubscribe (after earlierDeeds).nextId ∉ crowdedDeeds := by decide +kernel
  refine ⟨stays, ?_⟩
  rw [(delivers_in_order earlierDeeds crowdedDeeds "session timer" stays).2.1]
  decide +kernel

end Bus

end Playgrounds
