import EdgeLink.Native.IpcHistory
import EdgeLink.Spec.SharedMemoryMessageBridgeCorrect
import EdgeLink.Spec.StorageServiceCorrect

/-! # What reaches the history

The messages that a sender process sends and the rows of the message history, over every
interleaving of the two processes.

* `PublishedInOrder`: the bridge publishes in the order of the sends.
* `Attached`: others on the bus leave the subscription of the service alone, and a published
  message of its topic is stored once.
* `HistoryInv`: the rows are those of the stored publications, and a publication is stored or
  counted as a failure.
* `history_follows_sends`: the result from end to end. -/

namespace EdgeLink

open StorageService

/-! ## The bridge -/

/-- Publications are in the order of the slot writes, and the last handled notification is the
    last of them where it published at all. -/
structure PublishedInOrder (σ : BridgeState) : Prop where
  sorted : (σ.published.map Prod.fst).Pairwise (· ≤ ·)
  handled : ∀ message, σ.lastHandled = some message →
    ∃ number, σ.published.getLast? = some (number, message)

/-- What a step does to the publications. -/
theorem BridgeState.published_step {σ σ' : BridgeState} {action : BridgeAction}
    (h : σ.step action = some σ') :
    (σ'.published = σ.published ∧ (σ'.lastHandled = σ.lastHandled ∨ σ'.lastHandled = none)) ∨
      ∃ message, σ'.published = σ.published ++ [(σ.written.length, message)] ∧
        σ'.lastHandled = some message := by
  rcases step_cases σ σ' action h with ⟨message, -, rfl⟩ | ⟨message, e, -, rfl⟩ |
    ⟨message, e, -, rfl⟩ | ⟨message, -, rfl⟩ | ⟨-, rfl⟩ | ⟨-, rfl⟩ | ⟨size, -, rfl⟩
  · left
    unfold BridgeState.send
    split
    · exact ⟨rfl, .inl rfl⟩
    · split
      · exact ⟨rfl, .inl rfl⟩
      · exact ⟨rfl, .inl rfl⟩
  · exact .inl ⟨rfl, .inl rfl⟩
  · exact .inl ⟨rfl, .inl rfl⟩
  · left
    unfold BridgeState.notify
    split
    · exact ⟨rfl, .inl rfl⟩
    · exact ⟨rfl, .inl rfl⟩
  · left
    unfold BridgeState.handleRead
    split
    · exact ⟨rfl, .inl rfl⟩
    · exact ⟨rfl, .inl rfl⟩
  · left
    unfold BridgeState.checkHeader
    split
    · exact ⟨rfl, .inl rfl⟩
    · exact ⟨rfl, .inr rfl⟩
  · unfold BridgeState.copyOut
    split
    · exact .inr ⟨_, rfl, rfl⟩
    · exact .inl ⟨rfl, .inr rfl⟩

theorem PublishedInOrder.step {σ σ' : BridgeState} {action : BridgeAction} (h : PublishedInOrder σ)
    (hindex : ∀ p ∈ σ.published, p.1 ≤ σ.written.length) (hstep : σ.step action = some σ') :
    PublishedInOrder σ' := by
  rcases BridgeState.published_step hstep with ⟨hsame, hhandled⟩ | ⟨message, hnew, hhandled⟩
  · refine ⟨by rw [hsame]; exact h.sorted, ?_⟩
    intro message hmessage
    rw [hsame]
    rcases hhandled with hkept | hnone
    · exact h.handled message (hkept.symm.trans hmessage)
    · rw [hnone] at hmessage
      cases hmessage
  · refine ⟨?_, ?_⟩
    · rw [hnew, List.map_append, List.pairwise_append]
      refine ⟨h.sorted, List.pairwise_singleton _ _, ?_⟩
      intro number hnumber last hlast
      obtain ⟨p, hp, rfl⟩ := List.mem_map.mp hnumber
      obtain rfl : last = σ.written.length := by simpa using hlast
      exact hindex p hp
    · intro message' hmessage'
      rw [hhandled] at hmessage'
      obtain rfl := Option.some.inj hmessage'
      exact ⟨σ.written.length, by rw [hnew, List.getLast?_concat]⟩

/-! ## The bus -/

section

variable {Other : Type} {bus : MessageBus (HistorySubscriber Other)} {sourceTopic : Bytes}
  {id : UInt64}

/-- The subscriptions of the service for a topic. -/
def serviceSubscriptions (bus : MessageBus (HistorySubscriber Other)) (topic : Bytes) :
    List (Subscription (HistorySubscriber Other)) :=
  ((bus.subscribers topic).getD []).filter (·.callback.isStorage)

/-- The service has the subscription `id` for `sourceTopic` and no other. -/
def Attached (bus : MessageBus (HistorySubscriber Other)) (sourceTopic : Bytes) (id : UInt64) :
    Prop :=
  ∀ topic, serviceSubscriptions bus topic =
    if topic = sourceTopic then [⟨id, .storage⟩] else []

theorem serviceSubscriptions_eq_nil (h : HistoryState.Unattached bus) (topic : Bytes) :
    serviceSubscriptions bus topic = [] := by
  unfold serviceSubscriptions
  cases hfound : bus.subscribers topic with
  | none => rfl
  | some subscriptions =>
    rw [Option.getD_some, List.filter_eq_nil_iff]
    intro subscription hmem
    simp [h topic subscriptions hfound subscription hmem]

/-- A new subscription is added to its topic. -/
theorem serviceSubscriptions_subscribe (bus : MessageBus (HistorySubscriber Other))
    (added : Bytes) (callback : HistorySubscriber Other) (hadded : added.isEmpty = false)
    (topic : Bytes) :
    serviceSubscriptions (bus.subscribe added (some callback)).1 topic =
      serviceSubscriptions bus topic ++
        (if topic = added ∧ callback.isStorage then [⟨bus.nextSubscriptionId, callback⟩]
          else []) := by
  simp only [MessageBus.subscribe, MessageBus.checkedCallback, hadded, Bool.false_eq_true,
    if_false, serviceSubscriptions]
  by_cases htopic : topic = added
  · subst htopic
    simp only [Function.update_self, Option.getD_some, List.filter_append, true_and]
    cases hkind : callback.isStorage with
    | false => simp [hkind]
    | true => simp [hkind]
  · simp [htopic]

/-- `attachMessageBus` of a service that was not attached. -/
theorem attached_of_subscribe {before : MessageBus (HistorySubscriber Other)}
    (hbefore : HistoryState.Unattached before)
    (hsubscribe : before.subscribe sourceTopic (some .storage) = (bus, id))
    (haccepted : id ≠ InvalidSubscriptionId) : Attached bus sourceTopic id := by
  cases htopic : sourceTopic.isEmpty with
  | true =>
    rw [MessageBus.subscribe, MessageBus.checkedCallback, if_pos htopic] at hsubscribe
    exact absurd (Prod.mk.inj hsubscribe).2.symm haccepted
  | false =>
    have hid : before.nextSubscriptionId = id := by
      have hsecond := congrArg Prod.snd hsubscribe
      simpa [MessageBus.subscribe, MessageBus.checkedCallback, htopic] using hsecond
    intro topic
    have hadded := serviceSubscriptions_subscribe before sourceTopic .storage htopic topic
    rw [hsubscribe, serviceSubscriptions_eq_nil hbefore, hid] at hadded
    simpa [HistorySubscriber.isStorage] using hadded

/-- Another subscriber is added. -/
theorem Attached.subscribe (h : Attached bus sourceTopic id) (added : Bytes)
    (callback : Option Other) :
    Attached (bus.subscribe added (callback.map .other)).1 sourceTopic id := by
  intro topic
  rw [← h topic]
  cases hadded : added.isEmpty with
  | true => simp [MessageBus.subscribe, MessageBus.checkedCallback, hadded]
  | false =>
    cases callback with
    | none => simp [MessageBus.subscribe, MessageBus.checkedCallback, hadded]
    | some callback =>
      rw [Option.map_some, serviceSubscriptions_subscribe bus added _ hadded]
      simp [HistorySubscriber.isStorage]

/-- Removing a subscription removes at most what has its id. -/
theorem serviceSubscriptions_unsubscribe (bus : MessageBus (HistorySubscriber Other))
    (other : UInt64) (topic : Bytes) :
    serviceSubscriptions (bus.unsubscribe other).1 topic = serviceSubscriptions bus topic ∨
      serviceSubscriptions (bus.unsubscribe other).1 topic =
        (serviceSubscriptions bus topic).filter (·.id ≠ other) := by
  unfold MessageBus.unsubscribe
  cases bus.subscriptionTopics other with
  | none => exact .inl rfl
  | some recorded =>
    dsimp only
    cases hlist : bus.subscribers recorded with
    | none => exact .inl rfl
    | some listed =>
      by_cases htopic : topic = recorded
      · subst htopic
        right
        have hremaining : (listed.filter fun subscription => subscription.id ≠ other).filter
              (·.callback.isStorage) =
            (listed.filter (·.callback.isStorage)).filter (·.id ≠ other) :=
          List.filter_comm _ _ _
        simp only [serviceSubscriptions, hlist, Option.getD_some, ← hremaining]
        split
        · rename_i hempty
          rw [Function.update_self, Option.getD_none, List.isEmpty_iff.mp hempty]
        · rw [Function.update_self, Option.getD_some]
      · left
        simp only [serviceSubscriptions]
        split
        · rw [Function.update_of_ne htopic]
        · rw [Function.update_of_ne htopic]

/-- Another subscriber is removed. -/
theorem Attached.unsubscribe (h : Attached bus sourceTopic id) {other : UInt64}
    (hne : other ≠ id) : Attached (bus.unsubscribe other).1 sourceTopic id := by
  intro topic
  rw [← h topic]
  rcases serviceSubscriptions_unsubscribe bus other topic with hsame | hfiltered
  · exact hsame
  · rw [hfiltered, h topic]
    split
    · simp [Ne.symm hne]
    · rfl

end

/-! ## Storing what is published -/

section

variable {Other : Type} {format : FloatFormat} {sourceTopic : Bytes} {σ : HistoryState Other}

/-- What the database holds of the publications that were delivered. -/
structure HistoryInv (format : FloatFormat) (sourceTopic : Bytes)
    (published : List (Nat × Message)) (σ : HistoryState Other) : Prop where
  attached : Attached σ.bus sourceTopic σ.subscriptionId
  topic : sourceTopic ≠ []
  database : σ.storage.database = true
  rows : σ.storage.tagMessages.rows.map Prod.snd =
    σ.stored.map fun p => messageRow format p.2
  /-- Only publications of the topic are stored, in their order. -/
  sublist : List.Sublist σ.stored (published.filter fun p => p.2.topic = sourceTopic)
  /-- A publication of the topic is stored or counted as a failure. -/
  counted : σ.stored.length + σ.storeFailures =
    (published.filter fun p => p.2.topic = sourceTopic).length

/-- Callbacks of others change nothing. -/
theorem foldl_deliver (p : Nat × Message) (sqlite : Bool)
    (subscriptions : List (Subscription (HistorySubscriber Other))) (σ : HistoryState Other) :
    subscriptions.foldl (HistoryState.deliver format p sqlite) σ =
      (subscriptions.filter (·.callback.isStorage)).foldl
        (HistoryState.deliver format p sqlite) σ := by
  induction subscriptions generalizing σ with
  | nil => rfl
  | cons subscription rest ih =>
    cases hkind : subscription.callback.isStorage with
    | false => simpa [hkind, HistoryState.deliver] using ih σ
    | true => simpa [hkind] using ih _

/-- A store that returns false changes nothing. -/
theorem storeMessage_refused {storage storage' : StorageService} {message : Message}
    {sqlite : Bool} (h : storage.storeMessage format message sqlite = (storage', false)) :
    storage' = storage := by
  unfold storeMessage at h
  split at h
  · exact (Prod.mk.inj h).1.symm
  · split at h
    · exact (Prod.mk.inj h).1.symm
    · split at h
      · exact (Prod.mk.inj h).1.symm
      · exact absurd (Prod.mk.inj h).2 (by simp)

/-- A publication of another topic does not reach the service. -/
theorem publish_elsewhere (h : Attached σ.bus sourceTopic σ.subscriptionId) {p : Nat × Message}
    (htopic : p.2.topic ≠ sourceTopic) (sqlite : Bool) : σ.publish format p sqlite = σ := by
  have hnone := h p.2.topic
  rw [if_neg htopic] at hnone
  unfold HistoryState.publish MessageBus.snapshot
  split
  · rfl
  · cases hlist : σ.bus.subscribers p.2.topic with
    | none => rfl
    | some subscriptions =>
      rw [serviceSubscriptions, hlist, Option.getD_some] at hnone
      simp only [foldl_deliver, hnone, List.foldl_nil]

/-- A publication of the topic is stored once. -/
theorem publish_source (h : Attached σ.bus sourceTopic σ.subscriptionId)
    (hnonempty : sourceTopic ≠ []) {p : Nat × Message} (htopic : p.2.topic = sourceTopic)
    (sqlite : Bool) :
    σ.publish format p sqlite =
      HistoryState.deliver format p sqlite σ ⟨σ.subscriptionId, .storage⟩ := by
  have hone := h p.2.topic
  rw [if_pos htopic] at hone
  unfold HistoryState.publish MessageBus.snapshot
  rw [if_neg (by simpa [htopic] using hnonempty)]
  cases hlist : σ.bus.subscribers p.2.topic with
  | none =>
    rw [serviceSubscriptions, hlist] at hone
    cases hone
  | some subscriptions =>
    rw [serviceSubscriptions, hlist, Option.getD_some] at hone
    simp only [foldl_deliver, hone, List.foldl_cons, List.foldl_nil]

theorem HistoryInv.publish {published : List (Nat × Message)}
    (h : HistoryInv format sourceTopic published σ) (p : Nat × Message) (sqlite : Bool) :
    HistoryInv format sourceTopic (published ++ [p]) (σ.publish format p sqlite) := by
  obtain ⟨hattached, hnonempty, hdatabase, hrows, hsublist, hcounted⟩ := h
  by_cases htopic : p.2.topic = sourceTopic
  · rw [publish_source hattached hnonempty htopic]
    simp only [HistoryState.deliver, HistorySubscriber.isStorage, if_true]
    cases hstore : σ.storage.storeMessage format p.2 sqlite with
    | mk storage result =>
      cases result with
      | true =>
        obtain ⟨-, hdatabase', hrows'⟩ := storeMessage_rows format _ _ _ _ hstore
        refine ⟨hattached, hnonempty, hdatabase', ?_, ?_, ?_⟩
        · simp only [hrows', hrows, List.map_append, List.map_cons, List.map_nil]
        · rw [List.filter_append]
          simpa [htopic] using hsublist.append (List.Sublist.refl [p])
        · simp [List.filter_append, htopic]
          omega
      | false =>
        obtain rfl := storeMessage_refused hstore
        refine ⟨hattached, hnonempty, hdatabase, hrows, ?_, ?_⟩
        · rw [List.filter_append]
          exact hsublist.trans (List.sublist_append_left _ _)
        · simp [List.filter_append, htopic]
          omega
  · rw [publish_elsewhere hattached htopic]
    have hsame : (published ++ [p]).filter (fun p => p.2.topic = sourceTopic) =
        published.filter fun p => p.2.topic = sourceTopic := by
      simp [List.filter_append, htopic]
    exact ⟨hattached, hnonempty, hdatabase, hrows, by rwa [hsame], by rwa [hsame]⟩

/-- All publications of a step. -/
theorem HistoryInv.foldl_publish {published : List (Nat × Message)}
    (h : HistoryInv format sourceTopic published σ) (new : List (Nat × Message))
    (sqlite : Bool) :
    HistoryInv format sourceTopic (published ++ new)
      (new.foldl (fun σ p => σ.publish format p sqlite) σ) := by
  induction new generalizing published σ with
  | nil => simpa using h
  | cons p new ih => simpa using ih (h.publish p sqlite)

theorem deliver_bridge (p : Nat × Message) (sqlite : Bool)
    (subscription : Subscription (HistorySubscriber Other)) :
    (HistoryState.deliver format p sqlite σ subscription).bridge = σ.bridge := by
  unfold HistoryState.deliver
  split
  · split
    · rfl
    · rfl
  · rfl

theorem foldl_deliver_bridge (p : Nat × Message) (sqlite : Bool)
    (subscriptions : List (Subscription (HistorySubscriber Other))) (σ : HistoryState Other) :
    (subscriptions.foldl (HistoryState.deliver format p sqlite) σ).bridge = σ.bridge := by
  induction subscriptions generalizing σ with
  | nil => rfl
  | cons subscription rest ih => exact (ih _).trans (deliver_bridge p sqlite subscription)

theorem publish_bridge (p : Nat × Message) (sqlite : Bool) :
    (σ.publish format p sqlite).bridge = σ.bridge := by
  unfold HistoryState.publish
  split
  · rfl
  · split
    · rfl
    · exact foldl_deliver_bridge p sqlite _ σ

theorem foldl_publish_bridge (new : List (Nat × Message)) (sqlite : Bool)
    (σ : HistoryState Other) :
    (new.foldl (fun σ p => σ.publish format p sqlite) σ).bridge = σ.bridge := by
  induction new generalizing σ with
  | nil => rfl
  | cons p new ih => exact (ih _).trans (publish_bridge p sqlite)

/-! ## Runs -/

/-- What ties the sender, the bridge and the database together. -/
structure PipelineInv (format : FloatFormat) (sourceTopic : Bytes) (σ : HistoryState Other) :
    Prop where
  reachable : bridgeSystem.Reachable TransitionSystem.anyStep σ.bridge
  order : PublishedInOrder σ.bridge
  history : HistoryInv format sourceTopic σ.bridge.published σ

theorem PipelineInv.initial (h : HistoryState.Initial sourceTopic σ) :
    PipelineInv format sourceTopic σ := by
  have hpublished := h.bridge.published
  obtain ⟨bus, hunattached, hsubscribe⟩ := h.attached
  refine ⟨.init h.bridge, ⟨by rw [hpublished]; exact List.Pairwise.nil, ?_⟩, ?_⟩
  · intro message hmessage
    rw [h.lastHandled] at hmessage
    cases hmessage
  · refine ⟨attached_of_subscribe hunattached hsubscribe h.accepted, ?_, h.database, ?_, ?_, ?_⟩
    · rintro rfl
      exact h.accepted (Prod.mk.inj hsubscribe).2.symm
    · simp [h.rows, h.stored]
    · simp [h.stored, hpublished]
    · simp [h.stored, h.storeFailures, hpublished]

theorem PipelineInv.bridgeStep (h : PipelineInv format sourceTopic σ) {action : BridgeAction}
    {sqlite : Bool} {σ' : HistoryState Other}
    (hstep : σ.bridgeStep format action sqlite = some σ') : PipelineInv format sourceTopic σ' := by
  obtain ⟨bridge, hbridge, rfl⟩ := Option.map_eq_some_iff.mp hstep
  obtain ⟨new, hnew⟩ : ∃ new, bridge.published = σ.bridge.published ++ new := by
    rcases BridgeState.published_step hbridge with ⟨hsame, -⟩ | ⟨message, hadded, -⟩
    · exact ⟨[], by rw [hsame, List.append_nil]⟩
    · exact ⟨_, hadded⟩
  have hdrop : bridge.published.drop σ.bridge.published.length = new := by
    rw [hnew, List.drop_left]
  rw [hdrop]
  have hhistory : HistoryInv format sourceTopic σ.bridge.published { σ with bridge } :=
    ⟨h.history.attached, h.history.topic, h.history.database, h.history.rows,
      h.history.sublist, h.history.counted⟩
  have hsame : (new.foldl (fun (σ : HistoryState Other) p => σ.publish format p sqlite)
      { σ with bridge }).bridge = bridge := foldl_publish_bridge new sqlite _
  refine ⟨?_, ?_, ?_⟩
  · rw [hsame]
    exact h.reachable.step trivial hbridge
  · rw [hsame]
    exact h.order.step (duplicate_inv σ.bridge h.reachable).index_le hbridge
  · rw [hsame, hnew]
    exact hhistory.foldl_publish new sqlite

/-- Others use the bus. -/
theorem PipelineInv.setBus (h : PipelineInv format sourceTopic σ)
    {bus : MessageBus (HistorySubscriber Other)}
    (hattached : Attached bus sourceTopic σ.subscriptionId) :
    PipelineInv format sourceTopic { σ with bus } where
  reachable := h.reachable
  order := h.order
  history := ⟨hattached, h.history.topic, h.history.database, h.history.rows, h.history.sublist,
    h.history.counted⟩

theorem pipeline_inv
    (h : (historySystem format sourceTopic).Reachable TransitionSystem.anyStep σ) :
    PipelineInv format sourceTopic σ := by
  induction h with
  | init hinit => exact .initial hinit
  | @step σ σ' action _ _ hstep ih =>
    cases action with
    | bridge action sqlite => exact ih.bridgeStep hstep
    | subscribe topic callback =>
      obtain rfl := Option.some.inj hstep
      exact ih.setBus (ih.history.attached.subscribe topic callback)
    | unsubscribe other =>
      simp only [historySystem, HistoryState.step] at hstep
      split at hstep
      · cases hstep
      · rename_i hother
        obtain rfl := Option.some.inj hstep
        exact ih.setBus (ih.history.attached.unsubscribe hother)

/-- Rows that all load give back what was stored, in order. -/
theorem forall₂_loaded {R : Nat × Message → Message → Prop} (stored : List (Nat × Message))
    (h : ∀ p ∈ stored, ∃ loaded, loadRow format (messageRow format p.2) = some loaded ∧
      R p loaded) :
    List.Forall₂ R stored
      ((stored.map fun p => messageRow format p.2).filterMap (loadRow format)) := by
  induction stored with
  | nil => exact .nil
  | cons p stored ih =>
    obtain ⟨loaded, hload, hrelated⟩ := h p List.mem_cons_self
    rw [List.map_cons, List.filterMap_cons_some hload]
    exact .cons hrelated (ih fun q hq => h q (List.mem_cons_of_mem _ hq))

/-- From end to end, over every interleaving of the sender, the bridge and the other users of
    the bus, who do not unsubscribe the id of the service, and with any failures of SQLite: the
    history is a walk through the sent messages of the topic that never goes back and stays at
    each for at most three rows, and where the texts have no NUL and the numbers can be read,
    loading gives back these messages. Once both processes are idle, no notification is pending
    and no store has failed, the last row is the last message sent, if that is one of the
    topic. -/
theorem history_follows_sends (format : FloatFormat) (sourceTopic : Bytes)
    {σ : HistoryState Other}
    (h : (historySystem format sourceTopic).Reachable TransitionSystem.anyStep σ) :
    (∃ numbers : List Nat, numbers.Pairwise (· ≤ ·) ∧ (∀ number, numbers.count number ≤ 3) ∧
      List.Forall₂ (fun number row => ∃ message, 0 < number ∧
          σ.bridge.written[number - 1]? = some message ∧ message.topic = sourceTopic ∧
          row = messageRow format message)
        numbers (σ.storage.tagMessages.rows.map Prod.snd) ∧
      ((∀ message ∈ σ.bridge.written, message.topic = sourceTopic →
          Recoverable format message) →
        List.Forall₂ (fun number loaded => ∃ message,
            σ.bridge.written[number - 1]? = some message ∧ SameMessage message loaded)
          numbers ((σ.storage.loadMessages format 0 true).map StoredMessage.message))) ∧
    (σ.bridge.counter = 0 → σ.bridge.sender = .idle → σ.bridge.receiver = .idle →
      σ.storeFailures = 0 →
      ∀ message, σ.bridge.written.getLast? = some message → message.topic = sourceTopic →
        (σ.storage.tagMessages.rows.map Prod.snd).getLast? =
          some (messageRow format message)) := by
  obtain ⟨hreachable, horder, hhistory⟩ := pipeline_inv h
  have hinv := bridge_inv σ.bridge hreachable
  have hduplicate := duplicate_inv σ.bridge hreachable
  have hpublished : List.Sublist σ.stored σ.bridge.published :=
    hhistory.sublist.trans List.filter_sublist
  have hsent : ∀ p ∈ σ.stored, 0 < p.1 ∧ σ.bridge.written[p.1 - 1]? = some p.2 ∧
      p.2.topic = sourceTopic := by
    intro p hp
    obtain ⟨hpos, hget⟩ := hinv.published p (hpublished.subset hp)
    have htopic := (List.mem_filter.mp (hhistory.sublist.subset hp)).2
    exact ⟨hpos, hget, by simpa using htopic⟩
  refine ⟨⟨σ.stored.map Prod.fst, ?_, ?_, ?_, ?_⟩, ?_⟩
  · exact horder.sorted.sublist (hpublished.map _)
  · intro number
    have hcount : (σ.bridge.published.map Prod.fst).count number =
        σ.bridge.publications number := by
      rw [List.count_eq_countP, List.countP_map]
      rfl
    have hle := (hpublished.map Prod.fst).count_le number
    have hthree := hduplicate.every number
    omega
  · rw [hhistory.rows, List.forall₂_map_left_iff, List.forall₂_map_right_iff,
      List.forall₂_same]
    intro p hp
    obtain ⟨hpos, hget, htopic⟩ := hsent p hp
    exact ⟨p.2, hpos, hget, htopic, rfl⟩
  · intro hrecoverable
    rw [loadMessages_messages format _ hhistory.database, hhistory.rows,
      List.forall₂_map_left_iff]
    refine forall₂_loaded σ.stored fun p hp => ?_
    obtain ⟨-, hget, htopic⟩ := hsent p hp
    obtain ⟨loaded, hload, hsame⟩ := (loadRow_same_iff format p.2).mpr
      (hrecoverable p.2 (List.mem_of_getElem? hget) htopic)
    exact ⟨loaded, hload, p.2, hget, hsame⟩
  · intro hcounter hsender hreceiver hfailures message hlast htopic
    have hwritten : σ.bridge.written ≠ [] := by
      intro hnil
      rw [hnil] at hlast
      cases hlast
    have hhandled : σ.bridge.lastHandled = some message := by
      rw [← hlast]
      rcases hinv.settled hsender hwritten with hpos | hcheck | hcopy | ⟨-, heq⟩
      · omega
      · rw [hcheck] at hreceiver
        cases hreceiver
      · rw [hcopy] at hreceiver
        cases hreceiver
      · exact heq
    obtain ⟨number, hfinal⟩ := horder.handled message hhandled
    -- no publication of the topic is missing
    have hall : σ.stored = σ.bridge.published.filter fun p => p.2.topic = sourceTopic := by
      refine hhistory.sublist.eq_of_length ?_
      have hcounted := hhistory.counted
      omega
    obtain ⟨earlier, hsplit⟩ := List.getLast?_eq_some_iff.mp hfinal
    rw [hhistory.rows, hall, hsplit, List.filter_append]
    simp [htopic]

/-- A service on a new database, attached for the topic of the sample messages. -/
def sampleHistory : HistoryState Unit where
  bridge := BridgeState.start 64
  bus := (MessageBus.empty.subscribe (ascii "t") (some .storage)).1
  subscriptionId := 1
  storage := newStorage
  stored := []
  storeFailures := 0

theorem sampleHistory_initial : HistoryState.Initial (ascii "t") sampleHistory where
  bridge := BridgeState.initial_start 64
  lastHandled := rfl
  attached := ⟨.empty, ⟨fun _ _ hfound => absurd hfound (Option.some_ne_none _).symm, rfl⟩⟩
  accepted := by decide
  database := rfl
  rows := rfl
  stored := rfl
  storeFailures := rfl

/-- Three messages; the second overwrites the first before the bridge reads the slot. -/
theorem history_follows_sends_sample :
    ∃ σ : HistoryState Unit, σ.bridge.written.length = 3 ∧
      σ.storage.tagMessages.rows.length = 2 ∧
      (σ.storage.tagMessages.rows.map Prod.snd).getLast? =
        some (messageRow oneFormat (sampleMessage .timeout)) := by
  obtain ⟨σ, -, hreach, hσ⟩ := TransitionSystem.exists_of_run
    (historySystem oneFormat (ascii "t")) TransitionSystem.anyStep
    ((sendSteps (sampleMessage .good) ++ sendSteps (sampleMessage .stale) ++ handleSteps ++
      sendSteps (sampleMessage .timeout) ++ handleSteps).map (HistoryAction.bridge · true))
    (fun σ => σ.bridge.counter = 0 ∧ σ.bridge.sender = .idle ∧ σ.bridge.receiver = .idle ∧
      σ.storeFailures = 0 ∧ σ.bridge.written.getLast? = some (sampleMessage .timeout) ∧
      σ.bridge.written.length = 3 ∧ σ.storage.tagMessages.rows.length = 2)
    sampleHistory_initial (by decide +kernel)
  rw [decide_eq_true_eq] at hσ
  obtain ⟨hcounter, hsender, hreceiver, hfailures, hlast, hwritten, hrows⟩ := hσ
  exact ⟨σ, hwritten, hrows, (history_follows_sends oneFormat (ascii "t") hreach).2 hcounter
    hsender hreceiver hfailures _ hlast rfl⟩

end

end EdgeLink
