import Mathlib.Data.List.Range
import Mathlib.Data.List.Nodup
import EdgeLink.ForStd.History
import EdgeLink.Native.MessageBus

/-!
# Message bus correctness

The two indexes of the bus represent one chronological list of live subscriptions,
through every interleaving of threads and every nesting of publish calls.

The list is a function of the history alone (`live`). `Represents` ties the indexes to
it and is kept by each critical section; `FrameInv` ties a publish call in progress to
the list at its snapshot, and is not disturbed by what happens around the call.

## Key results

- `Represents.subscribe`, `Represents.unsubscribe`, `Represents.clear`: the critical
  sections refine the operations of the list
- `Represents.indexesAgree`: what that means for the two indexes alone
- `busInv_of_reachable`: the invariant over all runs
- `bus_refines_live_list`: the refinement, with the explanation of every event
-/

namespace EdgeLink

variable {Thread Callback : Type}

/-! ## The list of live subscriptions -/

/-- A live subscription. -/
structure LiveSubscription (Callback : Type) where
  id : UInt64
  topic : Bytes
  callback : Callback

/-- The entry of a live subscription in the list of its topic. -/
def LiveSubscription.entry (live : LiveSubscription Callback) : Subscription Callback :=
  ⟨live.id, live.callback⟩

/-- The live subscriptions of a topic, in subscription order. -/
def subscribersOf (live : List (LiveSubscription Callback)) (topic : Bytes) :
    List (Subscription Callback) :=
  (live.filter fun subscription => subscription.topic = topic).map LiveSubscription.entry

/-- What an event does to the list. -/
def applyEvent (live : List (LiveSubscription Callback)) :
    BusEvent Thread Callback → List (LiveSubscription Callback)
  | .subscribed id topic callback => live ++ [⟨id, topic, callback⟩]
  | .unsubscribed id _ => live.filter fun subscription => subscription.id ≠ id
  | .cleared => []
  | _ => live

/-- The live subscriptions after a history, oldest first. -/
def live (history : List (BusEvent Thread Callback)) : List (LiveSubscription Callback) :=
  history.foldl applyEvent []

/-- The live subscriptions after one more event. -/
@[simp] theorem live_append_singleton (history : List (BusEvent Thread Callback))
    (event : BusEvent Thread Callback) :
    live (history ++ [event]) = applyEvent (live history) event := by
  simp [live, List.foldl_append]

/-- A new subscription goes to the end of the list of its topic, and to no other. -/
theorem subscribersOf_append_singleton (list : List (LiveSubscription Callback))
    (subscription : LiveSubscription Callback) (topic : Bytes) :
    subscribersOf (list ++ [subscription]) topic =
      subscribersOf list topic ++
        if subscription.topic = topic then [subscription.entry] else [] := by
  unfold subscribersOf
  by_cases h : subscription.topic = topic <;> simp [List.filter_append, h]

/-- Removing an id from the list removes it from every topic. -/
theorem subscribersOf_filter (list : List (LiveSubscription Callback)) (id : UInt64)
    (topic : Bytes) :
    subscribersOf (list.filter fun subscription => subscription.id ≠ id) topic =
      (subscribersOf list topic).filter fun subscription => subscription.id ≠ id := by
  simp only [subscribersOf, List.filter_map, List.filter_filter]
  congr 1
  apply List.filter_congr
  intro subscription _
  exact Bool.and_comm _ _

theorem mem_subscribersOf (list : List (LiveSubscription Callback)) (topic : Bytes)
    (subscription : Subscription Callback) :
    subscription ∈ subscribersOf list topic ↔
      ∃ l ∈ list, l.topic = topic ∧ l.entry = subscription := by
  simp [subscribersOf, and_assoc]

/-! ## The indexes represent the list -/

/-- A topic's entry in `subscribers_`: no entry where it has no subscription. -/
def indexEntry {α : Type} (list : List α) : Option (List α) :=
  if list.isEmpty then none else some list

@[simp] theorem indexEntry_nil {α : Type} : indexEntry ([] : List α) = none := rfl

@[simp] theorem getD_indexEntry {α : Type} (list : List α) :
    (indexEntry list).getD [] = list := by
  cases list <;> rfl

theorem indexEntry_of_ne_nil {α : Type} (list : List α) (h : list ≠ []) :
    indexEntry list = some list := by
  cases list with
  | nil => exact absurd rfl h
  | cons => rfl

/-- `subscribers_` and `subscriptionTopics_` hold exactly the live subscriptions. -/
structure Represents (bus : MessageBus Callback) (list : List (LiveSubscription Callback)) :
    Prop where
  subscribers : ∀ topic, bus.subscribers topic = indexEntry (subscribersOf list topic)
  topics : ∀ id topic, bus.subscriptionTopics id = some topic ↔
    ∃ subscription ∈ list, subscription.id = id ∧ subscription.topic = topic
  nodup : (list.map LiveSubscription.id).Nodup
  topic_ne_nil : ∀ subscription ∈ list, subscription.topic ≠ []

/-- The new bus represents the empty list. -/
theorem Represents.empty : Represents (MessageBus.empty : MessageBus Callback) [] where
  subscribers := fun _ => rfl
  topics := by simp [MessageBus.empty]
  nodup := List.nodup_nil
  topic_ne_nil := by simp

/-- An id has at most one live subscription. -/
theorem Represents.eq_of_id_eq {bus : MessageBus Callback}
    {list : List (LiveSubscription Callback)} (h : Represents bus list)
    {s t : LiveSubscription Callback} (hs : s ∈ list) (ht : t ∈ list) (hid : s.id = t.id) :
    s = t :=
  List.inj_on_of_nodup_map h.nodup hs ht hid

/-- `subscribe` appends to the list, where its arguments pass and the next id is not
    the id of a live subscription. -/
theorem Represents.subscribe {bus : MessageBus Callback}
    {list : List (LiveSubscription Callback)} (h : Represents bus list) (topic : Bytes)
    (callback : Callback) (htopic : topic ≠ [])
    (hfresh : bus.nextSubscriptionId ∉ list.map LiveSubscription.id) :
    Represents (bus.subscribe topic (some callback)).1
      (list ++ [⟨bus.nextSubscriptionId, topic, callback⟩]) := by
  have hchecked : MessageBus.checkedCallback topic (some callback) = some callback := by
    simp [MessageBus.checkedCallback, htopic]
  simp only [MessageBus.subscribe, hchecked]
  constructor
  case subscribers =>
    intro topic'
    dsimp only
    rw [subscribersOf_append_singleton]
    by_cases heq : topic' = topic
    · -- `operator[]` makes the entry where the topic had none
      subst heq
      rw [Function.update_self, h.subscribers, getD_indexEntry, if_pos rfl,
        indexEntry_of_ne_nil _ (by simp)]
      rfl
    · rw [Function.update_of_ne heq, if_neg (Ne.symm heq), List.append_nil, h.subscribers]
  case topics =>
    intro id topic'
    dsimp only
    by_cases heq : id = bus.nextSubscriptionId
    · subst heq
      rw [Function.update_self]
      constructor
      · intro hsome
        exact ⟨_, List.mem_append_right _ (List.mem_singleton.mpr rfl), rfl,
          Option.some.inj hsome⟩
      · intro ⟨s, hs, hid, htopic'⟩
        cases List.mem_append.mp hs with
        -- an older subscription does not have the new id
        | inl hs => exact absurd (hid ▸ List.mem_map_of_mem hs) hfresh
        | inr hs =>
          rw [List.mem_singleton.mp hs] at htopic'
          rw [← htopic']
    · rw [Function.update_of_ne heq, h.topics]
      constructor
      · intro ⟨s, hs, hid, ht⟩
        exact ⟨s, List.mem_append_left _ hs, hid, ht⟩
      · intro ⟨s, hs, hid, ht⟩
        cases List.mem_append.mp hs with
        | inl hs => exact ⟨s, hs, hid, ht⟩
        | inr hs =>
          rw [List.mem_singleton.mp hs] at hid
          exact absurd hid.symm heq
  case nodup =>
    rw [List.map_append, List.nodup_append]
    refine ⟨h.nodup, List.nodup_singleton _, fun id hid new hnew heq => ?_⟩
    rw [heq, List.mem_singleton.mp hnew] at hid
    exact hfresh hid
  case topic_ne_nil =>
    intro s hs
    cases List.mem_append.mp hs with
    | inl hs => exact h.topic_ne_nil s hs
    | inr hs =>
      rw [List.mem_singleton.mp hs]
      exact htopic

/-- An id without an entry in `subscriptionTopics_` is not live. -/
theorem Represents.not_live {bus : MessageBus Callback}
    {list : List (LiveSubscription Callback)} (h : Represents bus list) (id : UInt64)
    (hnone : bus.subscriptionTopics id = none) (s : LiveSubscription Callback)
    (hs : s ∈ list) : s.id ≠ id := by
  intro hid
  have := (h.topics id s.topic).mpr ⟨s, hs, hid, rfl⟩
  rw [hnone] at this
  exact nomatch this

/-- `unsubscribe` removes the id from the list, and returns whether it was live. -/
theorem Represents.unsubscribe {bus : MessageBus Callback}
    {list : List (LiveSubscription Callback)} (h : Represents bus list) (id : UInt64) :
    Represents (bus.unsubscribe id).1 (list.filter fun s => s.id ≠ id) ∧
      ((bus.unsubscribe id).2 = true ↔ ∃ s ∈ list, s.id = id) := by
  cases htopic : bus.subscriptionTopics id with
  | none =>
    have hother := h.not_live id htopic
    have hfilter : list.filter (fun s => s.id ≠ id) = list :=
      List.filter_eq_self.mpr fun s hs => by simpa using hother s hs
    simp only [MessageBus.unsubscribe, htopic, hfilter]
    refine ⟨h, ?_⟩
    constructor
    · intro hfalse
      exact nomatch hfalse
    · intro ⟨s, hs, hid⟩
      exact absurd hid (hother s hs)
  | some topic =>
    obtain ⟨s, hs, rfl, rfl⟩ := (h.topics id topic).mp htopic
    -- the list of the recorded topic is there and has the id
    have hmem : s.entry ∈ subscribersOf list s.topic :=
      (mem_subscribersOf _ _ _).mpr ⟨s, hs, rfl, rfl⟩
    have hentry : bus.subscribers s.topic = some (subscribersOf list s.topic) := by
      rw [h.subscribers, indexEntry_of_ne_nil _ (List.ne_nil_of_mem hmem)]
    -- so `remaining` is shorter, and `unsubscribe` returns true
    have hshorter : ((subscribersOf list s.topic).filter fun t => t.id ≠ s.id).length ≠
        (subscribersOf list s.topic).length := by
      rw [Ne, List.length_filter_eq_length_iff]
      intro hall
      exact absurd (hall _ hmem) (by simp [LiveSubscription.entry])
    -- the id occurs in the list of its own topic only
    have hothers (topic' : Bytes) (hne : topic' ≠ s.topic) :
        (subscribersOf list topic').filter (fun t => t.id ≠ s.id) =
          subscribersOf list topic' := by
      refine List.filter_eq_self.mpr fun t ht => ?_
      obtain ⟨l, hl, rfl, rfl⟩ := (mem_subscribersOf _ _ _).mp ht
      have hid : l.entry.id ≠ s.id := fun hid => hne (by rw [h.eq_of_id_eq hl hs hid])
      exact decide_eq_true hid
    simp only [MessageBus.unsubscribe, htopic, hentry]
    refine ⟨?_, ?_⟩
    swap
    · have hlive : ∃ t ∈ list, t.id = s.id := ⟨s, hs, rfl⟩
      simpa [hlive] using hshorter
    constructor
    case subscribers =>
      intro topic'
      dsimp only
      rw [subscribersOf_filter]
      by_cases heq : topic' = s.topic
      · -- the entry of the topic is erased with its last subscription
        subst heq
        by_cases hnil : ((subscribersOf list s.topic).filter fun t => t.id ≠ s.id).isEmpty
        · rw [if_pos hnil, Function.update_self, List.isEmpty_iff.mp hnil, indexEntry_nil]
        · rw [if_neg hnil, Function.update_self, indexEntry, if_neg hnil]
      · rw [hothers topic' heq, ← h.subscribers topic']
        split <;> rw [Function.update_of_ne heq]
    case topics =>
      intro id' topic'
      dsimp only
      by_cases heq : id' = s.id
      · subst heq
        rw [Function.update_self]
        constructor
        · intro hnone
          exact nomatch hnone
        · intro ⟨t, ht, hid, _⟩
          exact absurd hid (by simpa using List.of_mem_filter ht)
      · rw [Function.update_of_ne heq, h.topics]
        constructor
        · intro ⟨t, ht, hid, htt⟩
          exact ⟨t, by simp [ht, hid, heq], hid, htt⟩
        · intro ⟨t, ht, hid, htt⟩
          exact ⟨t, List.mem_of_mem_filter ht, hid, htt⟩
    case nodup => exact h.nodup.sublist (List.filter_sublist.map _)
    case topic_ne_nil => exact fun t ht => h.topic_ne_nil t (List.mem_of_mem_filter ht)

/-- `clear` empties the list. -/
theorem Represents.clear (bus : MessageBus Callback) : Represents bus.clear [] where
  subscribers := fun _ => rfl
  topics := by simp [MessageBus.clear]
  nodup := List.nodup_nil
  topic_ne_nil := by simp

/-- A list found in `subscribers_` is the list of the live subscriptions of its topic, and
    not empty. -/
theorem Represents.eq_of_subscribers {bus : MessageBus Callback}
    {list : List (LiveSubscription Callback)} (h : Represents bus list) {topic : Bytes}
    {entries : List (Subscription Callback)} (hsome : bus.subscribers topic = some entries) :
    entries = subscribersOf list topic ∧ entries ≠ [] := by
  rw [h.subscribers, indexEntry] at hsome
  split at hsome
  · exact nomatch hsome
  · rename_i hne
    obtain rfl := Option.some.inj hsome
    exact ⟨rfl, fun hnil => hne (by rw [hnil]; rfl)⟩

/-- A snapshot is the list of the live subscriptions of its topic. -/
theorem Represents.eq_of_snapshot {bus : MessageBus Callback}
    {list : List (LiveSubscription Callback)} (h : Represents bus list) {topic : Bytes}
    {entries : List (Subscription Callback)} (hsome : bus.snapshot topic = some entries) :
    entries = subscribersOf list topic :=
  (h.eq_of_subscribers hsome).1

/-- The two indexes by themselves: a recorded id occurs once, in the list of its topic;
    nothing else is in the lists; no list is empty. -/
structure IndexesAgree (bus : MessageBus Callback) : Prop where
  once : ∀ id topic, bus.subscriptionTopics id = some topic →
    ∃ list, bus.subscribers topic = some list ∧ (list.map Subscription.id).count id = 1
  recorded : ∀ topic list, bus.subscribers topic = some list →
    ∀ subscription ∈ list, bus.subscriptionTopics subscription.id = some topic
  ne_nil : ∀ topic list, bus.subscribers topic = some list → list ≠ []

/-- The ids of a topic's subscriptions are the ids of live subscriptions. -/
private theorem subscribersOf_ids_sublist (list : List (LiveSubscription Callback))
    (topic : Bytes) :
    ((subscribersOf list topic).map Subscription.id).Sublist
      (list.map LiveSubscription.id) := by
  rw [subscribersOf, List.map_map]
  exact List.filter_sublist.map _

/-- Indexes that represent a list agree with each other. -/
theorem Represents.indexesAgree {bus : MessageBus Callback}
    {list : List (LiveSubscription Callback)} (h : Represents bus list) :
    IndexesAgree bus := by
  refine ⟨fun id topic hsome => ?_, fun topic entries hsome s hs => ?_,
    fun topic entries hsome => (h.eq_of_subscribers hsome).2⟩
  · obtain ⟨s, hs, rfl, rfl⟩ := (h.topics id topic).mp hsome
    have hmem : s.entry ∈ subscribersOf list s.topic :=
      (mem_subscribersOf _ _ _).mpr ⟨s, hs, rfl, rfl⟩
    refine ⟨subscribersOf list s.topic, ?_, ?_⟩
    · rw [h.subscribers, indexEntry_of_ne_nil _ (List.ne_nil_of_mem hmem)]
    · exact List.count_eq_one_of_mem (h.nodup.sublist (subscribersOf_ids_sublist _ _))
        (List.mem_map_of_mem hmem)
  · obtain ⟨rfl, -⟩ := h.eq_of_subscribers hsome
    obtain ⟨l, hl, htopic, rfl⟩ := (mem_subscribersOf _ _ _).mp hs
    exact (h.topics _ _).mpr ⟨l, hl, rfl, htopic⟩

/-! ## Subscription ids in a history -/

/-- The id given out by an event. -/
def BusEvent.subscribedId : BusEvent Thread Callback → Option UInt64
  | .subscribed id _ _ => some id
  | _ => none

/-- The ids given out in a history, in order. -/
def subscribedIds (history : List (BusEvent Thread Callback)) : List UInt64 :=
  history.filterMap BusEvent.subscribedId

/-- How many subscriptions a history has made. -/
def subscriptionCount (history : List (BusEvent Thread Callback)) : Nat :=
  (subscribedIds history).length

theorem subscribedIds_append_singleton (history : List (BusEvent Thread Callback))
    (event : BusEvent Thread Callback) :
    subscribedIds (history ++ [event]) =
      subscribedIds history ++ event.subscribedId.toList := by
  cases h : event.subscribedId <;> simp [subscribedIds, List.filterMap_append, h]

/-- An event makes at most one subscription. -/
theorem subscriptionCount_append_singleton (history : List (BusEvent Thread Callback))
    (event : BusEvent Thread Callback) :
    subscriptionCount (history ++ [event]) =
      subscriptionCount history + event.subscribedId.toList.length := by
  rw [subscriptionCount, subscribedIds_append_singleton, List.length_append]
  rfl

/-- A live id was given out. -/
theorem mem_subscribedIds_of_live (history : List (BusEvent Thread Callback))
    (s : LiveSubscription Callback) (hs : s ∈ live history) :
    s.id ∈ subscribedIds history := by
  -- only `subscribed` makes an id live, and that is where it is given out
  induction history using List.reverseRecOn with
  | nil => exact absurd hs (List.not_mem_nil)
  | append_singleton history event ih =>
    rw [subscribedIds_append_singleton]
    rw [live_append_singleton] at hs
    cases event with
    | subscribed id topic callback =>
      rcases List.mem_append.mp hs with hs | hs
      · exact List.mem_append_left _ (ih hs)
      · rw [List.mem_singleton.mp hs]
        exact List.mem_append_right _ (List.mem_singleton.mpr rfl)
    | unsubscribed id removed =>
      exact List.mem_append_left _ (ih (List.mem_of_mem_filter hs))
    | cleared => exact absurd hs (List.not_mem_nil)
    | _ => exact List.mem_append_left _ (ih hs)

/-- The id of the subscription number `n` of a run, counted from 0. -/
def nthId (n : Nat) : UInt64 := UInt64.ofNat (n + 1)

theorem nthId_toNat (n : Nat) (h : n < 2 ^ 64 - 1) : (nthId n).toNat = n + 1 :=
  UInt64.toNat_ofNat_of_lt (by simp only [UInt64.size]; omega)

theorem nthId_ne_invalid (n : Nat) (h : n < 2 ^ 64 - 1) : nthId n ≠ InvalidSubscriptionId := by
  intro hzero
  have := congrArg UInt64.toNat hzero
  rw [nthId_toNat n h] at this
  exact absurd this (by simp [InvalidSubscriptionId])

theorem nthId_succ (n : Nat) : nthId n + 1 = nthId (n + 1) := by
  simp [nthId, UInt64.ofNat_add]

/-- Ids are given out in the order of `nthId`, so they are not reused before the counter
    wraps. -/
theorem nthId_not_mem (n : Nat) (h : n < 2 ^ 64 - 1) :
    nthId n ∉ (List.range n).map nthId := by
  intro hmem
  obtain ⟨m, hm, heq⟩ := List.mem_map.mp hmem
  have hm := List.mem_range.mp hm
  have := congrArg UInt64.toNat heq
  rw [nthId_toNat n h, nthId_toNat m (by omega)] at this
  omega

/-! ## Publish calls in a history -/

/-- The publish call whose loop an event belongs to. -/
def BusEvent.publish : BusEvent Thread Callback → Option (PublishId Thread)
  | .started publish _ => some publish
  | .called publish _ => some publish
  | .finished publish _ => some publish
  | .returned publish _ => some publish
  | _ => none

/-- The list that was live for its topic when `publish` took its snapshot. -/
def SnapshotOf (history : List (BusEvent Thread Callback)) (publish : PublishId Thread)
    (snapshot : List (Subscription Callback)) : Prop :=
  ∃ before message after, history = before ++ .started publish message :: after ∧
    snapshot = subscribersOf (live before) message.topic

/-- The snapshot does not depend on what happens later. -/
theorem SnapshotOf.append {history : List (BusEvent Thread Callback)}
    {publish : PublishId Thread} {snapshot : List (Subscription Callback)}
    (h : SnapshotOf history publish snapshot) (event : BusEvent Thread Callback) :
    SnapshotOf (history ++ [event]) publish snapshot := by
  obtain ⟨before, message, after, rfl, hsnapshot⟩ := h
  exact ⟨before, message, after ++ [event], by simp, hsnapshot⟩

variable [DecidableEq Thread]

/-- The subscription that an event of `publish` calls. -/
def BusEvent.callIn (publish : PublishId Thread) :
    BusEvent Thread Callback → Option (Subscription Callback)
  | .called publish' subscription => if publish' = publish then some subscription else none
  | _ => none

/-- Whether an event ends a callback of `publish`. -/
def BusEvent.finishesIn (publish : PublishId Thread) : BusEvent Thread Callback → Bool
  | .finished publish' _ => publish' = publish
  | _ => false

/-- Whether an event ends a callback of `publish` normally. -/
def BusEvent.deliversIn (publish : PublishId Thread) : BusEvent Thread Callback → Bool
  | .finished publish' threw => publish' = publish && !threw
  | _ => false

/-- The callbacks that `publish` has started, in order. -/
def calls (publish : PublishId Thread) (history : List (BusEvent Thread Callback)) :
    List (Subscription Callback) :=
  history.filterMap (BusEvent.callIn publish)

/-- How many callbacks of `publish` have ended. -/
def finishes (publish : PublishId Thread) (history : List (BusEvent Thread Callback)) : Nat :=
  history.countP (BusEvent.finishesIn publish)

/-- How many callbacks of `publish` have ended without throwing. -/
def delivered (publish : PublishId Thread) (history : List (BusEvent Thread Callback)) : Nat :=
  history.countP (BusEvent.deliversIn publish)

/-- What the events before an event say about it. -/
def BusEvent.Explained (past : List (BusEvent Thread Callback)) :
    BusEvent Thread Callback → Prop
  -- the id is new, even among the ids that are no longer live
  | .subscribed id topic _ =>
    id ∉ subscribedIds past ∧ id ≠ InvalidSubscriptionId ∧ topic ≠ []
  | .unsubscribed id removed => removed = true ↔ ∃ s ∈ live past, s.id = id
  | .cleared => True
  | .started publish _ => ∀ message, .started publish message ∉ past
  -- calls go through the snapshot from its start, none twice and none left out
  | .called publish subscription =>
    ∃ snapshot, SnapshotOf past publish snapshot ∧
      calls publish past ++ [subscription] <+: snapshot
  | .finished publish _ => finishes publish past + 1 = (calls publish past).length
  | .returned publish deliveredCount =>
    SnapshotOf past publish (calls publish past) ∧
      finishes publish past = (calls publish past).length ∧
      deliveredCount = delivered publish past

/-! ## The invariant -/

/-- What the history says about a publish call in progress. -/
structure FrameInv (history : List (BusEvent Thread Callback)) (thread : Thread)
    (frame : PublishFrame Callback) : Prop where
  snapshot : SnapshotOf history ⟨thread, frame.number⟩
    (calls ⟨thread, frame.number⟩ history ++ frame.remaining)
  finishes : finishes ⟨thread, frame.number⟩ history + frame.current.toList.length =
    (calls ⟨thread, frame.number⟩ history).length
  delivered : frame.deliveredCount = delivered ⟨thread, frame.number⟩ history

/-- The record of a publish call grows by what an event adds to it. -/
theorem record_append_singleton (publish : PublishId Thread)
    (history : List (BusEvent Thread Callback)) (event : BusEvent Thread Callback) :
    calls publish (history ++ [event]) =
        calls publish history ++ (event.callIn publish).toList ∧
      finishes publish (history ++ [event]) =
        finishes publish history + (event.finishesIn publish).toNat ∧
      delivered publish (history ++ [event]) =
        delivered publish history + (event.deliversIn publish).toNat := by
  have hcount (p : BusEvent Thread Callback → Bool) :
      List.countP p [event] = (p event).toNat := by
    rw [List.countP_singleton]
    cases p event <;> rfl
  have hcalls : List.filterMap (BusEvent.callIn publish) [event] =
      (event.callIn publish).toList := by
    cases hcall : event.callIn publish <;> simp [hcall]
  refine ⟨?_, ?_, ?_⟩
  · rw [calls, calls, List.filterMap_append, hcalls]
  · rw [finishes, finishes, List.countP_append, hcount]
  · rw [delivered, delivered, List.countP_append, hcount]

/-- An event of another publish call, or of none, leaves the record of `publish` alone. -/
theorem record_append_other (publish : PublishId Thread)
    (history : List (BusEvent Thread Callback)) (event : BusEvent Thread Callback)
    (h : event.publish ≠ some publish) :
    calls publish (history ++ [event]) = calls publish history ∧
      finishes publish (history ++ [event]) = finishes publish history ∧
      delivered publish (history ++ [event]) = delivered publish history := by
  -- the three counters look at events of `publish` only
  have hnothing : event.callIn publish = none ∧ event.finishesIn publish = false ∧
      event.deliversIn publish = false := by
    cases event with
    | called publish' subscription =>
      have hne : publish' ≠ publish := fun heq => h (congrArg some heq)
      exact ⟨if_neg hne, rfl, rfl⟩
    | finished publish' threw =>
      have hne : publish' ≠ publish := fun heq => h (congrArg some heq)
      refine ⟨rfl, decide_eq_false hne, ?_⟩
      rw [BusEvent.deliversIn, decide_eq_false hne]
      rfl
    | subscribed | unsubscribed | cleared | started | returned => exact ⟨rfl, rfl, rfl⟩
  obtain ⟨hcalls, hfinishes, hdelivered⟩ := record_append_singleton publish history event
  rw [hnothing.1, Option.toList_none, List.append_nil] at hcalls
  rw [hnothing.2.1] at hfinishes
  rw [hnothing.2.2] at hdelivered
  exact ⟨hcalls, hfinishes, hdelivered⟩

/-- A frame's record is not disturbed by the events of other publish calls. -/
theorem FrameInv.append_other {history : List (BusEvent Thread Callback)} {thread : Thread}
    {frame : PublishFrame Callback} (h : FrameInv history thread frame)
    (event : BusEvent Thread Callback)
    (hother : event.publish ≠ some ⟨thread, frame.number⟩) :
    FrameInv (history ++ [event]) thread frame := by
  obtain ⟨hcalls, hfinishes, hdelivered⟩ := record_append_other _ history event hother
  constructor
  case snapshot => rw [hcalls]; exact h.snapshot.append event
  case finishes => rw [hcalls, hfinishes]; exact h.finishes
  case delivered => rw [hdelivered]; exact h.delivered

/-- A publish call with no events yet has no record. -/
theorem record_eq_nil (publish : PublishId Thread)
    (history : List (BusEvent Thread Callback))
    (h : ∀ event ∈ history, event.publish ≠ some publish) :
    calls publish history = [] ∧ finishes publish history = 0 ∧
      delivered publish history = 0 := by
  induction history using List.reverseRecOn with
  | nil => exact ⟨rfl, rfl, rfl⟩
  | append_singleton history event ih =>
    have hlast := h event (List.mem_append_right _ (List.mem_singleton.mpr rfl))
    obtain ⟨hcalls, hfinishes, hdelivered⟩ := record_append_other publish history event hlast
    rw [hcalls, hfinishes, hdelivered]
    exact ih fun e he => h e (List.mem_append_left _ he)

/-- The invariant of the bus. -/
structure BusInv (σ : BusState Thread Callback) : Prop where
  represents : Represents σ.bus (live σ.history)
  nextId : σ.bus.nextSubscriptionId = nthId (subscriptionCount σ.history)
  ids : subscribedIds σ.history = (List.range (subscriptionCount σ.history)).map nthId
  frames : ∀ thread, ∀ frame ∈ σ.frames thread, FrameInv σ.history thread frame
  -- a thread's nested publish calls have different numbers
  nodup : ∀ thread, ((σ.frames thread).map PublishFrame.number).Nodup
  number_lt : ∀ thread, ∀ frame ∈ σ.frames thread, frame.number < σ.publishCount thread
  event_lt : ∀ event ∈ σ.history, ∀ publish, event.publish = some publish →
    publish.number < σ.publishCount publish.thread
  explained : σ.history.Chronicle BusEvent.Explained

/-- The first state satisfies the invariant. -/
theorem BusInv.start : BusInv (BusState.start : BusState Thread Callback) where
  represents := Represents.empty
  nextId := rfl
  ids := rfl
  frames := by simp [BusState.start]
  nodup := by simp [BusState.start]
  number_lt := by simp [BusState.start]
  event_lt := by simp [BusState.start]
  explained := List.chronicle_nil

/-- A live id is not the failure value. -/
theorem BusInv.live_id_ne_invalid {σ : BusState Thread Callback} (h : BusInv σ)
    (hcount : subscriptionCount σ.history < 2 ^ 64 - 1) (l : LiveSubscription Callback)
    (hl : l ∈ live σ.history) : l.id ≠ InvalidSubscriptionId := by
  have hmem := mem_subscribedIds_of_live σ.history l hl
  rw [h.ids] at hmem
  obtain ⟨n, hn, heq⟩ := List.mem_map.mp hmem
  have hn := List.mem_range.mp hn
  exact heq ▸ nthId_ne_invalid n (by omega)

/-! ### Critical sections on the indexes -/

/-- A critical section on the indexes that refines the step of the list keeps the
    invariant; the publish calls in progress do not notice. -/
theorem BusInv.index_event {σ : BusState Thread Callback} (h : BusInv σ)
    (bus : MessageBus Callback) (event : BusEvent Thread Callback)
    (hpublish : event.publish = none)
    (hrepresents : Represents bus (applyEvent (live σ.history) event))
    (hnextId : bus.nextSubscriptionId =
      nthId (subscriptionCount σ.history + event.subscribedId.toList.length))
    (hids : event.subscribedId.toList =
      ((List.range event.subscribedId.toList.length).map
        (subscriptionCount σ.history + ·)).map nthId)
    (hexplained : event.Explained σ.history) :
    BusInv { σ with bus, history := σ.history ++ [event] } where
  represents := by simpa using hrepresents
  nextId := by rw [subscriptionCount_append_singleton]; exact hnextId
  ids := by
    rw [subscribedIds_append_singleton, subscriptionCount_append_singleton, h.ids,
      List.range_add, List.map_append, ← hids]
  frames := fun thread frame hframe =>
    (h.frames thread frame hframe).append_other event (by simp [hpublish])
  nodup := h.nodup
  number_lt := h.number_lt
  -- the event belongs to no `publish`
  event_lt := by
    intro e he publish hp
    rcases List.mem_append.mp he with he | he
    · exact h.event_lt e he publish hp
    · rw [List.mem_singleton.mp he, hpublish] at hp
      exact nomatch hp
  explained := (List.chronicle_append_singleton _ _).mpr ⟨h.explained, hexplained⟩

omit [DecidableEq Thread] in
/-- A subscription that is refused changes nothing. -/
theorem BusState.subscribe_refused (σ : BusState Thread Callback) (topic : Bytes)
    (callback : Option Callback)
    (hchecked : MessageBus.checkedCallback topic callback = none) :
    σ.subscribe topic callback = σ := by
  simp only [BusState.subscribe, MessageBus.subscribe, hchecked]

omit [DecidableEq Thread] in
/-- A subscription that is accepted gets the next id. -/
theorem BusState.subscribe_accepted (σ : BusState Thread Callback) (topic : Bytes)
    (callback : Option Callback) (checked : Callback)
    (hchecked : MessageBus.checkedCallback topic callback = some checked) :
    σ.subscribe topic callback =
      { σ with
        bus := (σ.bus.subscribe topic callback).1
        history := σ.history ++ [.subscribed σ.bus.nextSubscriptionId topic checked] } := by
  simp only [BusState.subscribe, MessageBus.subscribe, hchecked]

/-- `subscribe` keeps the invariant while the id counter has not wrapped. -/
theorem BusInv.subscribe {σ : BusState Thread Callback} (h : BusInv σ) (topic : Bytes)
    (callback : Option Callback) (hcount : subscriptionCount σ.history < 2 ^ 64 - 1) :
    BusInv (σ.subscribe topic callback) := by
  cases hchecked : MessageBus.checkedCallback topic callback with
  | none =>
    rw [σ.subscribe_refused topic callback hchecked]
    exact h
  | some checked =>
    obtain ⟨htopic, rfl⟩ : topic ≠ [] ∧ callback = some checked := by
      simpa [MessageBus.checkedCallback] using hchecked
    have hfresh : σ.bus.nextSubscriptionId ∉ subscribedIds σ.history := by
      rw [h.nextId, h.ids]
      exact nthId_not_mem _ hcount
    have hnext : (σ.bus.subscribe topic (some checked)).1.nextSubscriptionId =
        σ.bus.nextSubscriptionId + 1 := by
      simp only [MessageBus.subscribe, hchecked]
    rw [σ.subscribe_accepted topic _ checked hchecked]
    refine h.index_event _ _ rfl ?_ ?_ ?_ ⟨hfresh, ?_, htopic⟩
    · -- an id that was never given out is not live either
      refine h.represents.subscribe topic checked htopic fun hmem => hfresh ?_
      obtain ⟨s, hs, heq⟩ := List.mem_map.mp hmem
      exact heq ▸ mem_subscribedIds_of_live _ s hs
    · rw [hnext, h.nextId, nthId_succ]
      rfl
    · simp [BusEvent.subscribedId, h.nextId]
    · rw [h.nextId]
      exact nthId_ne_invalid _ hcount

/-- `unsubscribe` keeps the invariant. -/
theorem BusInv.unsubscribe {σ : BusState Thread Callback} (h : BusInv σ) (id : UInt64) :
    BusInv (σ.unsubscribe id) := by
  obtain ⟨hrepresents, hremoved⟩ := h.represents.unsubscribe id
  have hnext : (σ.bus.unsubscribe id).1.nextSubscriptionId = σ.bus.nextSubscriptionId := by
    unfold MessageBus.unsubscribe
    split
    · rfl
    · split <;> rfl
  exact h.index_event _ (.unsubscribed id _) rfl hrepresents (hnext.trans h.nextId) rfl hremoved

/-- `clear` keeps the invariant. -/
theorem BusInv.clear {σ : BusState Thread Callback} (h : BusInv σ) : BusInv σ.clear :=
  h.index_event _ .cleared rfl (Represents.clear σ.bus) h.nextId rfl trivial

/-! ### Publish calls -/

/-- The record of a publish call after one more callback has started. -/
theorem record_append_called (publish : PublishId Thread)
    (history : List (BusEvent Thread Callback)) (subscription : Subscription Callback) :
    calls publish (history ++ [BusEvent.called publish subscription]) =
        calls publish history ++ [subscription] ∧
      finishes publish (history ++ [BusEvent.called publish subscription]) =
        finishes publish history ∧
      delivered publish (history ++ [BusEvent.called publish subscription]) =
        delivered publish history := by
  obtain ⟨hcalls, hfinishes, hdelivered⟩ :=
    record_append_singleton publish history (.called publish subscription)
  rw [BusEvent.callIn, if_pos rfl] at hcalls
  exact ⟨hcalls, hfinishes, hdelivered⟩

/-- The record of a publish call after its running callback has ended. -/
theorem record_append_finished (publish : PublishId Thread)
    (history : List (BusEvent Thread Callback)) (threw : Bool) :
    calls publish (history ++ [BusEvent.finished publish threw]) = calls publish history ∧
      finishes publish (history ++ [BusEvent.finished publish threw]) =
        finishes publish history + 1 ∧
      delivered publish (history ++ [BusEvent.finished publish threw]) =
        if threw then delivered publish history else delivered publish history + 1 := by
  obtain ⟨hcalls, hfinishes, hdelivered⟩ :=
    record_append_singleton publish history (.finished publish threw)
  have hcall : BusEvent.callIn publish
      (.finished publish threw : BusEvent Thread Callback) = none := rfl
  rw [hcall, Option.toList_none, List.append_nil] at hcalls
  rw [BusEvent.finishesIn, decide_eq_true rfl] at hfinishes
  rw [BusEvent.deliversIn, decide_eq_true rfl] at hdelivered
  refine ⟨hcalls, hfinishes, ?_⟩
  rw [hdelivered]
  cases threw <;> rfl

/-- The innermost call starts the next callback of its snapshot. -/
theorem FrameInv.called {history : List (BusEvent Thread Callback)} {thread : Thread}
    {number : Nat} {message : Message} {subscription : Subscription Callback}
    {remaining : List (Subscription Callback)} {deliveredCount : Nat}
    (h : FrameInv history thread
      ⟨number, message, subscription :: remaining, none, deliveredCount⟩) :
    FrameInv (history ++ [.called ⟨thread, number⟩ subscription]) thread
      ⟨number, message, remaining, some subscription, deliveredCount⟩ := by
  obtain ⟨hcalls, hfinishes, hdelivered⟩ :=
    record_append_called ⟨thread, number⟩ history subscription
  constructor
  case snapshot =>
    rw [hcalls, List.append_assoc]
    exact h.snapshot.append _
  case finishes =>
    rw [hcalls, hfinishes, List.length_append]
    simpa using h.finishes
  case delivered => rw [hdelivered]; exact h.delivered

/-- The callback of the innermost call ends; it counts if it has not thrown. -/
theorem FrameInv.finished {history : List (BusEvent Thread Callback)} {thread : Thread}
    {number : Nat} {message : Message} {current : Subscription Callback}
    {remaining : List (Subscription Callback)} {deliveredCount : Nat}
    (h : FrameInv history thread ⟨number, message, remaining, some current, deliveredCount⟩)
    (threw : Bool) :
    FrameInv (history ++ [.finished ⟨thread, number⟩ threw]) thread
      ⟨number, message, remaining, none,
        if threw then deliveredCount else deliveredCount + 1⟩ := by
  obtain ⟨hcalls, hfinishes, hdelivered⟩ :=
    record_append_finished ⟨thread, number⟩ history threw
  constructor
  case snapshot => rw [hcalls]; exact h.snapshot.append _
  case finishes => rw [hcalls, hfinishes]; exact h.finishes
  case delivered =>
    rw [hdelivered]
    exact congrArg (fun n => if threw then n else n + 1) h.delivered

/-- Starting a call leaves the record of every call alone. -/
theorem record_append_started (publish publish' : PublishId Thread)
    (history : List (BusEvent Thread Callback)) (message : Message) :
    calls publish (history ++ [BusEvent.started publish' message]) = calls publish history ∧
      finishes publish (history ++ [BusEvent.started publish' message]) = finishes publish history ∧
      delivered publish (history ++ [BusEvent.started publish' message]) =
        delivered publish history := by
  obtain ⟨hcalls, hfinishes, hdelivered⟩ :=
    record_append_singleton publish history (.started publish' message)
  have hcall : BusEvent.callIn publish
      (.started publish' message : BusEvent Thread Callback) = none := rfl
  rw [hcall, Option.toList_none, List.append_nil] at hcalls
  exact ⟨hcalls, hfinishes, hdelivered⟩

/-- The invariant with an event of `thread` added and its frames replaced: the new
    frames satisfy their invariant, and the frames of the other threads do not notice. -/
theorem BusInv.loop_event {σ : BusState Thread Callback} (h : BusInv σ) (thread : Thread)
    (number : Nat) (event : BusEvent Thread Callback) (frames : List (PublishFrame Callback))
    (hpublish : event.publish = some ⟨thread, number⟩)
    (hnumber : number < σ.publishCount thread)
    (hlive : applyEvent (live σ.history) event = live σ.history)
    (hsubscribed : event.subscribedId = none)
    (hframes : ∀ frame ∈ frames, FrameInv (σ.history ++ [event]) thread frame)
    (hnumbers : (frames.map PublishFrame.number).Sublist
      ((σ.frames thread).map PublishFrame.number))
    (hexplained : event.Explained σ.history) :
    BusInv { σ with
      frames := Function.update σ.frames thread frames
      history := σ.history ++ [event] } where
  represents := by simpa [hlive] using h.represents
  nextId := by simpa [subscriptionCount_append_singleton, hsubscribed] using h.nextId
  ids := by
    simpa [subscribedIds_append_singleton, subscriptionCount_append_singleton, hsubscribed]
      using h.ids
  frames := by
    intro thread' frame hframe
    dsimp only at hframe ⊢
    by_cases heq : thread' = thread
    · subst heq
      rw [Function.update_self] at hframe
      exact hframes frame hframe
    · rw [Function.update_of_ne heq] at hframe
      -- the event belongs to a publish call of another thread
      refine (h.frames thread' frame hframe).append_other event ?_
      rw [hpublish]
      intro hsame
      exact heq (PublishId.mk.inj (Option.some.inj hsame)).1.symm
  nodup := by
    intro thread'
    by_cases heq : thread' = thread
    · subst heq
      simpa using (h.nodup thread').sublist hnumbers
    · simpa [Function.update_of_ne heq] using h.nodup thread'
  number_lt := by
    intro thread' frame hframe
    dsimp only at hframe ⊢
    by_cases heq : thread' = thread
    · subst heq
      rw [Function.update_self] at hframe
      obtain ⟨old, hold, hsame⟩ :=
        List.mem_map.mp (hnumbers.subset (List.mem_map_of_mem hframe))
      rw [← hsame]
      exact h.number_lt thread' old hold
    · rw [Function.update_of_ne heq] at hframe
      exact h.number_lt thread' frame hframe
  event_lt := by
    intro e he publish hp
    rcases List.mem_append.mp he with he | he
    · exact h.event_lt e he publish hp
    · rw [List.mem_singleton.mp he, hpublish] at hp
      obtain rfl := Option.some.inj hp
      exact hnumber
  explained := (List.chronicle_append_singleton _ _).mpr ⟨h.explained, hexplained⟩

/-- The outer calls of a thread do not notice an event of its innermost call. -/
theorem BusInv.outer {σ : BusState Thread Callback} (h : BusInv σ) (thread : Thread)
    (innermost : PublishFrame Callback) (outer : List (PublishFrame Callback))
    (hstack : σ.frames thread = innermost :: outer) (event : BusEvent Thread Callback)
    (hpublish : event.publish = some ⟨thread, innermost.number⟩) :
    ∀ frame ∈ outer, FrameInv (σ.history ++ [event]) thread frame := by
  intro frame hframe
  have hinv := h.frames thread frame (hstack ▸ List.mem_cons_of_mem _ hframe)
  -- nested publish calls of one thread have different numbers
  refine hinv.append_other event ?_
  rw [hpublish]
  intro hsame
  have hnodup := h.nodup thread
  rw [hstack, List.map_cons, List.nodup_cons] at hnodup
  exact hnodup.1 ((PublishId.mk.inj (Option.some.inj hsame)).2 ▸ List.mem_map_of_mem hframe)

/-- Starting a callback keeps the invariant. -/
theorem BusInv.call {σ σ' : BusState Thread Callback} (h : BusInv σ) (thread : Thread)
    (hstep : σ.call thread = some σ') : BusInv σ' := by
  unfold BusState.call at hstep
  split at hstep
  · rename_i number message subscription remaining deliveredCount outer hstack
    obtain rfl := Option.some.inj hstep
    have hinner := h.frames thread _ (hstack ▸ List.mem_cons_self)
    refine h.loop_event thread number _ _ rfl
      (h.number_lt thread _ (hstack ▸ List.mem_cons_self)) rfl rfl ?_ ?_ ?_
    · intro frame hframe
      cases List.mem_cons.mp hframe with
      | inl heq =>
        rw [heq]
        exact hinner.called
      | inr hframe => exact h.outer thread _ outer hstack _ rfl frame hframe
    · rw [hstack]
      exact List.Sublist.refl _
    · -- the calls so far and this one are a prefix of the snapshot
      refine ⟨_, hinner.snapshot, ?_⟩
      rw [List.prefix_append_right_inj]
      exact ⟨remaining, rfl⟩
  · exact nomatch hstep

/-- The end of a callback keeps the invariant. -/
theorem BusInv.finish {σ σ' : BusState Thread Callback} (h : BusInv σ) (thread : Thread)
    (threw : Bool) (hstep : σ.finish thread threw = some σ') : BusInv σ' := by
  unfold BusState.finish at hstep
  split at hstep
  · rename_i number message remaining current deliveredCount outer hstack
    obtain rfl := Option.some.inj hstep
    have hinner := h.frames thread _ (hstack ▸ List.mem_cons_self)
    refine h.loop_event thread number _ _ rfl
      (h.number_lt thread _ (hstack ▸ List.mem_cons_self)) rfl rfl ?_ ?_ hinner.finishes
    · intro frame hframe
      cases List.mem_cons.mp hframe with
      | inl heq =>
        rw [heq]
        exact hinner.finished threw
      | inr hframe => exact h.outer thread _ outer hstack _ rfl frame hframe
    · rw [hstack]
      exact List.Sublist.refl _
  · exact nomatch hstep

/-- The return of `publish` from its loop keeps the invariant. -/
theorem BusInv.endPublish {σ σ' : BusState Thread Callback} (h : BusInv σ) (thread : Thread)
    (hstep : σ.endPublish thread = some σ') : BusInv σ' := by
  unfold BusState.endPublish at hstep
  split at hstep
  · rename_i number message deliveredCount outer hstack
    obtain rfl := Option.some.inj hstep
    have hinner := h.frames thread _ (hstack ▸ List.mem_cons_self)
    -- nothing remains, so the calls are the whole snapshot
    refine h.loop_event thread number _ _ rfl
      (h.number_lt thread _ (hstack ▸ List.mem_cons_self)) rfl rfl ?_ ?_ ⟨?_, ?_, ?_⟩
    · exact h.outer thread _ outer hstack _ rfl
    · rw [hstack]
      exact List.sublist_cons_self _ _
    · simpa using hinner.snapshot
    · exact hinner.finishes
    · exact hinner.delivered
  · exact nomatch hstep

/-- The number of the next publish call of a thread is not in the history. -/
theorem BusInv.next_publish_new {σ : BusState Thread Callback} (h : BusInv σ)
    (thread : Thread) :
    ∀ event ∈ σ.history, event.publish ≠ some ⟨thread, σ.publishCount thread⟩ :=
  fun event hevent hp => absurd (h.event_lt event hevent _ hp) (Nat.lt_irrefl _)

/-- Counting a new publish call keeps the invariant. -/
theorem BusInv.started {σ : BusState Thread Callback} (h : BusInv σ) (thread : Thread)
    (message : Message) :
    BusInv { σ with
      publishCount := Function.update σ.publishCount thread (σ.publishCount thread + 1)
      history := σ.history ++ [.started ⟨thread, σ.publishCount thread⟩ message] } := by
  have hgrows (thread' : Thread) : σ.publishCount thread' ≤
      Function.update σ.publishCount thread (σ.publishCount thread + 1) thread' := by
    by_cases heq : thread' = thread
    · subst heq
      simp
    · simp [Function.update_of_ne heq]
  constructor
  case represents => simpa [applyEvent] using h.represents
  case nextId =>
    simpa [subscriptionCount_append_singleton, BusEvent.subscribedId] using h.nextId
  case ids =>
    simpa [subscribedIds_append_singleton, subscriptionCount_append_singleton,
      BusEvent.subscribedId] using h.ids
  case nodup => exact h.nodup
  case frames =>
    intro thread' frame hframe
    -- calls in progress have smaller numbers than the new one
    apply (h.frames thread' frame hframe).append_other
    intro hsame
    obtain ⟨rfl, hnumber⟩ := PublishId.mk.inj (Option.some.inj hsame)
    exact absurd (h.number_lt thread frame hframe) (by omega)
  case number_lt =>
    intro thread' frame hframe
    exact Nat.lt_of_lt_of_le (h.number_lt thread' frame hframe) (hgrows thread')
  case event_lt =>
    intro e he publish hp
    cases List.mem_append.mp he with
    | inl he => exact Nat.lt_of_lt_of_le (h.event_lt e he publish hp) (hgrows publish.thread)
    | inr he =>
      rw [List.mem_singleton.mp he] at hp
      obtain rfl := Option.some.inj hp
      simp
  case explained =>
    refine (List.chronicle_append_singleton _ _).mpr ⟨h.explained, fun message' hmem => ?_⟩
    exact h.next_publish_new thread _ hmem rfl

/-- A publish call that has just been counted has called nothing yet, and its snapshot is
    the list that is live now. -/
theorem BusInv.started_snapshot {σ : BusState Thread Callback} (h : BusInv σ)
    (thread : Thread) (message : Message) :
    let publish : PublishId Thread := ⟨thread, σ.publishCount thread⟩
    let history := σ.history ++ [.started publish message]
    SnapshotOf history publish (subscribersOf (live σ.history) message.topic) ∧
      calls publish history = [] ∧ finishes publish history = 0 ∧
      delivered publish history = 0 := by
  intro publish history
  obtain ⟨hcalls, hfinishes, hdelivered⟩ :=
    record_append_started publish publish σ.history message
  rw [hcalls, hfinishes, hdelivered]
  exact ⟨⟨σ.history, message, [], rfl, rfl⟩,
    record_eq_nil publish σ.history (h.next_publish_new thread)⟩

/-- A publish call that finds no subscription returns 0 and keeps the invariant. -/
theorem BusInv.publish_none {σ : BusState Thread Callback} (h : BusInv σ) (thread : Thread)
    (message : Message) (hnone : subscribersOf (live σ.history) message.topic = []) :
    BusInv { σ with
      publishCount := Function.update σ.publishCount thread (σ.publishCount thread + 1)
      history := σ.history ++ [.started ⟨thread, σ.publishCount thread⟩ message] ++
        [.returned ⟨thread, σ.publishCount thread⟩ 0] } := by
  obtain ⟨hsnapshot, hcalls, hfinishes, hdelivered⟩ := h.started_snapshot thread message
  have hstarted := h.started thread message
  have hreturned := hstarted.loop_event thread (σ.publishCount thread)
    (.returned ⟨thread, σ.publishCount thread⟩ 0) (σ.frames thread) rfl (by simp) rfl rfl
    (fun frame hframe => ?_) (List.Sublist.refl _) ⟨?_, ?_, hdelivered.symm⟩
  · rwa [Function.update_eq_self] at hreturned
  · refine (hstarted.frames thread frame hframe).append_other _ fun hsame => ?_
    have hnumber := (PublishId.mk.inj (Option.some.inj hsame)).2
    exact absurd (h.number_lt thread frame hframe) (by omega)
  · rw [hcalls, ← hnone]
    exact hsnapshot
  · rw [hcalls, hfinishes]
    rfl

/-- A publish call that has just been counted goes on top of its thread's stack. -/
theorem BusInv.push_frame {σ : BusState Thread Callback} (h : BusInv σ) (thread : Thread)
    (frame : PublishFrame Callback) (hframe : FrameInv σ.history thread frame)
    (hlt : frame.number < σ.publishCount thread)
    (hnew : ∀ other ∈ σ.frames thread, other.number ≠ frame.number) :
    BusInv { σ with frames := Function.update σ.frames thread (frame :: σ.frames thread) } where
  represents := h.represents
  nextId := h.nextId
  ids := h.ids
  event_lt := h.event_lt
  explained := h.explained
  frames := by
    intro thread' frame' hframe'
    dsimp only at hframe' ⊢
    by_cases heq : thread' = thread
    · subst heq
      rw [Function.update_self] at hframe'
      cases List.mem_cons.mp hframe' with
      | inl heq =>
        rw [heq]
        exact hframe
      | inr hold => exact h.frames thread' frame' hold
    · rw [Function.update_of_ne heq] at hframe'
      exact h.frames thread' frame' hframe'
  nodup := by
    intro thread'
    dsimp only
    by_cases heq : thread' = thread
    · subst heq
      rw [Function.update_self, List.map_cons, List.nodup_cons]
      -- the number of the new frame is not that of an older one
      refine ⟨fun hmem => ?_, h.nodup thread'⟩
      obtain ⟨other, hother, hnumber⟩ := List.mem_map.mp hmem
      exact hnew other hother hnumber
    · rw [Function.update_of_ne heq]
      exact h.nodup thread'
  number_lt := by
    intro thread' frame' hframe'
    dsimp only at hframe' ⊢
    by_cases heq : thread' = thread
    · subst heq
      rw [Function.update_self] at hframe'
      cases List.mem_cons.mp hframe' with
      | inl heq =>
        rw [heq]
        exact hlt
      | inr hold => exact h.number_lt thread' frame' hold
    · rw [Function.update_of_ne heq] at hframe'
      exact h.number_lt thread' frame' hframe'

/-- `publish` keeps the invariant. -/
theorem BusInv.publish {σ : BusState Thread Callback} (h : BusInv σ) (thread : Thread)
    (message : Message) : BusInv (σ.publish thread message) := by
  have hnil (hempty : message.topic = []) :
      subscribersOf (live σ.history) message.topic = [] := by
    refine List.eq_nil_iff_forall_not_mem.mpr fun s hs => ?_
    obtain ⟨l, hl, htopic, -⟩ := (mem_subscribersOf _ _ _).mp hs
    exact h.represents.topic_ne_nil l hl (htopic.trans hempty)
  unfold BusState.publish
  dsimp only
  split
  · rename_i hempty
    exact h.publish_none thread message (hnil (List.isEmpty_iff.mp hempty))
  · split
    · rename_i hnone
      -- a topic with live subscriptions has an entry
      refine h.publish_none thread message ?_
      by_contra hne
      have hsome := h.represents.subscribers message.topic
      rw [show σ.bus.subscribers message.topic = none from hnone,
        indexEntry_of_ne_nil _ hne] at hsome
      exact nomatch hsome
    · rename_i subscriptions hsome
      have hsubscriptions := h.represents.eq_of_snapshot hsome
      obtain ⟨hstart, hcalls, hfinishes, hdelivered⟩ := h.started_snapshot thread message
      have hframe : FrameInv
          (σ.history ++ [.started ⟨thread, σ.publishCount thread⟩ message]) thread
          ⟨σ.publishCount thread, message, subscriptions, none, 0⟩ := by
        constructor
        case snapshot =>
          rw [hcalls, hsubscriptions]
          exact hstart
        case finishes =>
          rw [hcalls, hfinishes]
          rfl
        case delivered => exact hdelivered.symm
      -- the number of the new call is the largest of the thread
      refine (h.started thread message).push_frame thread _ hframe (by simp) fun other hother => ?_
      exact Nat.ne_of_lt (h.number_lt thread other hother)

/-! ## All runs -/

/-- The events that a step adds to the history. A `subscribe` that is refused adds none, and
    a `publish` without subscribers starts and returns in one step. -/
def BusAction.Records : BusAction Thread Callback → List (BusEvent Thread Callback) → Prop
  | .subscribe _ topic callback, events =>
    match MessageBus.checkedCallback topic callback with
    | none => events = []
    | some callback => ∃ id, events = [.subscribed id topic callback]
  | .unsubscribe _ id, events => ∃ removed, events = [.unsubscribed id removed]
  | .clear _, events => events = [.cleared]
  | .publish thread message, events => ∃ number,
    events = [.started ⟨thread, number⟩ message] ∨
      events = [.started ⟨thread, number⟩ message, .returned ⟨thread, number⟩ 0]
  | .call thread, events => ∃ number subscription,
    events = [.called ⟨thread, number⟩ subscription]
  | .finish thread threw, events => ∃ number, events = [.finished ⟨thread, number⟩ threw]
  | .endPublish thread, events => ∃ number deliveredCount,
    events = [.returned ⟨thread, number⟩ deliveredCount]

/-- What a step can be. -/
theorem BusState.step_cases (σ σ' : BusState Thread Callback)
    (action : BusAction Thread Callback) (h : σ.step action = some σ') :
    (∃ topic callback, σ' = σ.subscribe topic callback) ∨ (∃ id, σ' = σ.unsubscribe id) ∨
    σ' = σ.clear ∨ (∃ thread message, σ' = σ.publish thread message) ∨
    (∃ thread, σ.call thread = some σ') ∨
    (∃ thread threw, σ.finish thread threw = some σ') ∨
    (∃ thread, σ.endPublish thread = some σ') := by
  cases action with
  | subscribe thread topic callback =>
    obtain ⟨-, heq⟩ := Option.ite_none_right_eq_some.mp h
    exact .inl ⟨topic, callback, (Option.some.inj heq).symm⟩
  | unsubscribe thread id =>
    obtain ⟨-, heq⟩ := Option.ite_none_right_eq_some.mp h
    exact .inr (.inl ⟨id, (Option.some.inj heq).symm⟩)
  | clear thread =>
    obtain ⟨-, heq⟩ := Option.ite_none_right_eq_some.mp h
    exact .inr (.inr (.inl (Option.some.inj heq).symm))
  | publish thread message =>
    obtain ⟨-, heq⟩ := Option.ite_none_right_eq_some.mp h
    exact .inr (.inr (.inr (.inl ⟨thread, message, (Option.some.inj heq).symm⟩)))
  | call thread => exact .inr (.inr (.inr (.inr (.inl ⟨thread, h⟩))))
  | finish thread threw => exact .inr (.inr (.inr (.inr (.inr (.inl ⟨thread, threw, h⟩)))))
  | endPublish thread => exact .inr (.inr (.inr (.inr (.inr (.inr ⟨thread, h⟩)))))

/-- Every step adds its own events to the history. -/
theorem BusState.step_records (σ σ' : BusState Thread Callback)
    (action : BusAction Thread Callback) (h : σ.step action = some σ') :
    ∃ events, σ'.history = σ.history ++ events ∧ action.Records events := by
  cases action with
  | subscribe thread topic callback =>
    obtain ⟨-, heq⟩ := Option.ite_none_right_eq_some.mp h
    obtain rfl := Option.some.inj heq
    simp only [BusState.subscribe, BusAction.Records]
    cases MessageBus.checkedCallback topic callback with
    | none => exact ⟨[], (List.append_nil _).symm, rfl⟩
    | some callback => exact ⟨_, rfl, _, rfl⟩
  | unsubscribe thread id =>
    obtain ⟨-, heq⟩ := Option.ite_none_right_eq_some.mp h
    obtain rfl := Option.some.inj heq
    exact ⟨_, rfl, _, rfl⟩
  | clear thread =>
    obtain ⟨-, heq⟩ := Option.ite_none_right_eq_some.mp h
    obtain rfl := Option.some.inj heq
    exact ⟨_, rfl, rfl⟩
  | publish thread message =>
    obtain ⟨-, heq⟩ := Option.ite_none_right_eq_some.mp h
    obtain rfl := Option.some.inj heq
    simp only [BusState.publish, List.append_assoc, List.singleton_append]
    split
    · exact ⟨_, rfl, _, .inr rfl⟩
    · split
      · exact ⟨_, rfl, _, .inr rfl⟩
      · exact ⟨_, rfl, _, .inl rfl⟩
  | call thread =>
    replace h : σ.call thread = some σ' := h
    unfold BusState.call at h
    split at h
    · obtain rfl := Option.some.inj h
      exact ⟨_, rfl, _, _, rfl⟩
    · cases h
  | finish thread threw =>
    replace h : σ.finish thread threw = some σ' := h
    unfold BusState.finish at h
    split at h
    · obtain rfl := Option.some.inj h
      exact ⟨_, rfl, _, rfl⟩
    · cases h
  | endPublish thread =>
    replace h : σ.endPublish thread = some σ' := h
    unfold BusState.endPublish at h
    split at h
    · obtain rfl := Option.some.inj h
      exact ⟨_, rfl, _, _, rfl⟩
    · cases h

/-- Every step adds to the history. -/
theorem BusState.history_prefix (σ σ' : BusState Thread Callback)
    (action : BusAction Thread Callback) (h : σ.step action = some σ') :
    σ.history <+: σ'.history := by
  obtain ⟨events, heq, -⟩ := σ.step_records σ' action h
  exact ⟨events, heq.symm⟩

/-- A step never takes subscriptions out of the history. -/
theorem BusState.subscriptionCount_mono (σ σ' : BusState Thread Callback)
    (action : BusAction Thread Callback) (h : σ.step action = some σ') :
    subscriptionCount σ.history ≤ subscriptionCount σ'.history :=
  ((σ.history_prefix σ' action h).sublist.filterMap _).length_le

/-- Every step keeps the invariant while the id counter has not wrapped. -/
theorem BusInv.step {σ σ' : BusState Thread Callback} (h : BusInv σ)
    (action : BusAction Thread Callback) (hstep : σ.step action = some σ')
    (hcount : subscriptionCount σ.history < 2 ^ 64 - 1) : BusInv σ' := by
  obtain ⟨topic, callback, rfl⟩ | ⟨id, rfl⟩ | rfl | ⟨thread, message, rfl⟩ | ⟨thread, hcall⟩ |
    ⟨thread, threw, hfinish⟩ | ⟨thread, hend⟩ := σ.step_cases σ' action hstep
  · exact h.subscribe topic callback hcount
  · exact h.unsubscribe id
  · exact h.clear
  · exact h.publish thread message
  · exact h.call thread hcall
  · exact h.finish thread threw hfinish
  · exact h.endPublish thread hend

/-- The invariant holds in every reachable state with fewer than `2^64 - 1`
    subscriptions. -/
theorem busInv_of_reachable {σ : BusState Thread Callback}
    (h : (busSystem Thread Callback).Reachable TransitionSystem.anyStep σ)
    (hcount : subscriptionCount σ.history < 2 ^ 64 - 1) : BusInv σ := by
  refine h.invariant (fun σ => subscriptionCount σ.history < 2 ^ 64 - 1 → BusInv σ)
    ?_ ?_ hcount
  · rintro σ rfl _
    exact BusInv.start
  · intro σ action σ' _ hinv _ hstep hcount
    have hcount' : subscriptionCount σ.history < 2 ^ 64 - 1 :=
      Nat.lt_of_le_of_lt (BusState.subscriptionCount_mono σ σ' action hstep) hcount
    exact (hinv hcount').step action hstep hcount'

/-- The bus refines the list of live subscriptions. In every state reached by any
    interleaving, with any nesting of calls in callbacks and any callbacks that throw,
    the indexes represent the list that the history says is live, and every event of the
    history is explained by the events before it. The history is that of the calls: what a
    step adds to it is given by `BusAction.Records`. -/
theorem bus_refines_live_list (σ : BusState Thread Callback)
    (hreach : (busSystem Thread Callback).Reachable TransitionSystem.anyStep σ)
    (hcount : subscriptionCount σ.history < 2 ^ 64 - 1) :
    Represents σ.bus (live σ.history) ∧ IndexesAgree σ.bus ∧
      (subscribedIds σ.history).Nodup ∧ σ.history.Chronicle BusEvent.Explained ∧
      ∀ action σ', (busSystem Thread Callback).step σ action = some σ' →
        ∃ events, σ'.history = σ.history ++ events ∧ action.Records events := by
  have hinv := busInv_of_reachable hreach hcount
  refine ⟨hinv.represents, hinv.represents.indexesAgree, ?_, hinv.explained,
    fun action σ' hstep => σ.step_records σ' action hstep⟩
  rw [hinv.ids]
  refine (List.nodup_map_iff_inj_on (List.nodup_range)).mpr fun m hm n hn heq => ?_
  have hm := List.mem_range.mp hm
  have hn := List.mem_range.mp hn
  have := congrArg UInt64.toNat heq
  rw [nthId_toNat m (by omega), nthId_toNat n (by omega)] at this
  omega

/-- A message on the topic `a`. -/
def topicMessage : Message := ⟨ascii "a", ascii "d", ascii "n", .bool true, .good, 0⟩

/-- Two subscriptions to one topic. The first callback removes the second one, publishes
    again, clears the bus, and throws; the second is called by the outer publish all the
    same. Then there is a third subscription. -/
def nestedPublishSteps : List (BusAction Bool Nat) :=
  [.subscribe false (ascii "a") (some 10), .subscribe true (ascii "a") (some 20),
    .publish false topicMessage, .call false, .unsubscribe false 2,
    .publish false topicMessage, .call false, .finish false false, .endPublish false,
    .clear false, .finish false true, .call false, .finish false false, .endPublish false,
    .subscribe false (ascii "a") (some 30)]

/-- The refinement along `nestedPublishSteps`: the inner publish has called the first
    subscription only, the outer one both, and one of the two calls counts. After `clear` only
    the third subscription is live, with an id of its own. -/
theorem bus_refines_live_list_nested :
    ∃ σ, (busSystem Bool Nat).run TransitionSystem.anyStep .start nestedPublishSteps = some σ ∧
      σ.history.length = 15 ∧ calls ⟨false, 1⟩ σ.history = [⟨1, 10⟩] ∧
      calls ⟨false, 0⟩ σ.history = [⟨1, 10⟩, ⟨2, 20⟩] ∧
      .returned ⟨false, 0⟩ 1 ∈ σ.history ∧ .cleared ∈ σ.history ∧
      (live σ.history).map LiveSubscription.entry = [⟨3, 30⟩] ∧
      Represents σ.bus (live σ.history) ∧ σ.history.Chronicle BusEvent.Explained := by
  obtain ⟨σ, hrun, hreach, hσ⟩ := TransitionSystem.exists_of_run
    (busSystem Bool Nat) TransitionSystem.anyStep nestedPublishSteps
    (fun σ => subscriptionCount σ.history < 2 ^ 64 - 1 ∧ σ.history.length = 15 ∧
      calls ⟨false, 1⟩ σ.history = [⟨1, 10⟩] ∧
      calls ⟨false, 0⟩ σ.history = [⟨1, 10⟩, ⟨2, 20⟩] ∧
      .returned ⟨false, 0⟩ 1 ∈ σ.history ∧ .cleared ∈ σ.history ∧
      (live σ.history).map LiveSubscription.entry = [⟨3, 30⟩])
    rfl (by decide)
  rw [decide_eq_true_eq] at hσ
  obtain ⟨hcount, hlength, hinner, houter, hreturned, hcleared, hlive⟩ := hσ
  obtain ⟨hrepresents, -, -, hexplained, -⟩ := bus_refines_live_list σ hreach hcount
  exact ⟨σ, hrun, hlength, hinner, houter, hreturned, hcleared, hlive, hrepresents,
    hexplained⟩

end EdgeLink
