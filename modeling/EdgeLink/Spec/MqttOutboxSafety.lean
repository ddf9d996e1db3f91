import EdgeLink.Spec.MqttReplayThread

/-!
# Outbox safety

A message leaves the outbox only after the broker has acknowledged it.

The replay thread ties a row to its acknowledgement through `replayMessageId_` and
`replayPublishAcknowledged_`, which are reset for each attempt while acknowledgements of
earlier attempts may still come in. The invariant `OutboxInv` says what the pair means
while the thread waits: the id is that of a publication of this very row, which is still
outstanding as long as the flag is not set. It needs that libmosquitto does not reuse an
id that is outstanding (`FreshMessageIds`).

## Key results

- `outbox_safety`: every message that was enqueued is in the outbox or was acknowledged,
  and messages leave the outbox in the order of their ids
- `enqueued_eq`: what was enqueued is what has left the outbox followed by the outbox
-/

namespace EdgeLink

open CText StorageService

variable {Thread : Type}

/-! ## The assumption on message ids -/

/-- The message id that a step makes libmosquitto use. -/
def MqttAction.messageId : MqttAction Thread → Option Nat
  | .publish _ _ _ result => result.messageId
  | .forwardPublish _ result => result.messageId
  | .replayPublish result => result.messageId
  | _ => none

/-- libmosquitto gives a message an id that no outstanding message of the client has. -/
def FreshMessageIds (σ : MqttState Thread) (action : MqttAction Thread) : Prop :=
  ∀ publication ∈ σ.outstanding, σ.client = some publication.client →
    action.messageId ≠ some publication.messageId

/-! ## The invariant -/

/-- The publication is one of the outbox message, at QoS 1. -/
structure IsPublicationOf (storage : StorageId) (message : PendingMqttMessage)
    (publication : Publication Thread) : Prop where
  qos : publication.qos = 1
  source : publication.source = .outboxRow storage message.id
  topic : publication.topic = message.topic
  payload : publication.payload = message.payload
  retain : publication.retain = message.retain

/-- Two publications that libmosquitto can tell apart. -/
def Publication.Distinct (p q : Publication Thread) : Prop :=
  ¬ (p.client = q.client ∧ p.messageId = q.messageId)

/-- What the shared id and flag mean while the replay thread waits for `message`. -/
def AwaitsAck (σ : MqttState Thread) (storage : StorageId) (message : PendingMqttMessage) :
    Prop :=
  ∃ publication, IsPublicationOf storage message publication ∧
    publication.messageId = σ.replayMessageId ∧
    (σ.replayPublishAcknowledged = true → publication ∈ σ.completed) ∧
    (σ.client = none ∨ σ.client = some publication.client ∧
      (σ.replayPublishAcknowledged = false → publication ∈ σ.outstanding))

/-- The messages of a storage that were enqueued: those that have left the outbox, all of
    them acknowledged, and then the outbox. -/
def Accounted (σ : MqttState Thread) (storage : StorageId) : Prop :=
  ∃ gone, σ.enqueued storage = gone ++ (σ.storages storage).outbox ∧
    gone.map PendingMqttMessage.id = σ.removed storage ∧
    ∀ message ∈ gone, ∃ publication ∈ σ.completed,
      IsPublicationOf storage message publication

/-- The invariant behind outbox safety. -/
structure OutboxInv (σ : MqttState Thread) : Prop where
  distinct : σ.outstanding.Pairwise Publication.Distinct
  awaits : ∀ storage message, σ.replay = .awaitAck storage message →
    AwaitsAck σ storage message
  acknowledged : ∀ storage message, σ.replay = .remove storage message →
    ∃ publication ∈ σ.completed, IsPublicationOf storage message publication
  accounted : ∀ storage, Accounted σ storage
  ids : ∀ storage, ((σ.enqueued storage).map PendingMqttMessage.id).Pairwise (· < ·) ∧
    ∀ message ∈ σ.enqueued storage, message.id ≤ (σ.storages storage).mqttOutbox.sequence

/-- The initial states satisfy the invariant. -/
theorem OutboxInv.initial {σ : MqttState Thread} (h : σ.Initial) : OutboxInv σ where
  distinct := by simp [h.outstanding]
  awaits := by simp [h.replay]
  acknowledged := by simp [h.replay]
  accounted := fun storage => ⟨[], h.enqueued storage, (h.removed storage).symm, by simp⟩
  ids := by
    intro storage
    have hids : (σ.enqueued storage).map PendingMqttMessage.id =
        (σ.storages storage).mqttOutbox.ids := by
      rw [h.enqueued]
      exact outbox_ids _
    refine ⟨hids ▸ (σ.storages storage).mqttOutbox.sorted, fun message hmem => ?_⟩
    have hmem : message.id ∈ (σ.storages storage).mqttOutbox.ids :=
      hids ▸ List.mem_map_of_mem hmem
    exact ((σ.storages storage).mqttOutbox.bounded _ hmem).2

/-! ## What a step can leave alone -/

/-- The invariant does not depend on the members that are tested by the waits, nor on the
    controller, the publishers and their record. -/
theorem OutboxInv.frame {σ : MqttState Thread} (h : OutboxInv σ)
    {loopRunning connected initialConnectionCompleted stopping replayRequested : Bool}
    {replaying : Bool} {offlineStorage : Option StorageId} {controller : ControllerPc}
    {forwards : Thread → ForwardPc} {nextClient : ClientId} {puts : Thread → List Message}
    {rowCall : StorageId → Nat → Option (CallId Thread)} {handed : List (CallId Thread)}
    {clientEvents : List ClientEvent} :
    OutboxInv { σ with
      loopRunning, connected, initialConnectionCompleted, stopping, replayRequested, replaying
      offlineStorage, controller, forwards, nextClient, puts, rowCall, handed
      clientEvents } :=
  ⟨h.distinct, h.awaits, h.acknowledged, h.accounted, h.ids⟩

/-- The replay thread moves to a point where it works on no message; client, shared id and
    flag, and what libmosquitto drops, do not matter then. -/
theorem OutboxInv.move {σ : MqttState Thread} (h : OutboxInv σ) (client : Option ClientId)
    (replayMessageId : Nat) (replayPublishAcknowledged : Bool) (replay : ReplayPc)
    (outstanding : List (Publication Thread)) (hcurrent : replay.current = none)
    (houtstanding : outstanding.Sublist σ.outstanding) :
    OutboxInv { σ with
      client, replayMessageId, replayPublishAcknowledged, replay, outstanding } where
  distinct := h.distinct.sublist houtstanding
  awaits := by
    rintro storage message rfl
    exact nomatch hcurrent
  acknowledged := by
    rintro storage message rfl
    exact nomatch hcurrent
  accounted := h.accounted
  ids := h.ids

/-- New messages of libmosquitto with fresh ids. -/
theorem OutboxInv.publish {σ : MqttState Thread} (h : OutboxInv σ)
    (new : List (Publication Thread)) (hlength : new.length ≤ 1)
    (hfresh : ∀ p ∈ σ.outstanding, ∀ q ∈ new, Publication.Distinct p q) :
    OutboxInv { σ with outstanding := σ.outstanding ++ new } where
  distinct := by
    refine List.pairwise_append.mpr ⟨h.distinct, ?_, hfresh⟩
    match new, hlength with
    | [], _ => exact List.Pairwise.nil
    | [_], _ => exact List.pairwise_singleton _ _
  awaits := by
    intro storage message hreplay
    obtain ⟨publication, hof, hid, hcompleted, hclient⟩ := h.awaits storage message hreplay
    refine ⟨publication, hof, hid, hcompleted, hclient.imp_right fun ⟨hsome, hout⟩ => ?_⟩
    exact ⟨hsome, fun hflag => List.mem_append_left _ (hout hflag)⟩
  acknowledged := h.acknowledged
  accounted := h.accounted
  ids := h.ids

/-- A publication under a fresh id can be told apart from the outstanding ones. -/
theorem distinct_of_fresh {σ : MqttState Thread} {action : MqttAction Thread}
    (hfresh : FreshMessageIds σ action) (p q : Publication Thread) (hp : p ∈ σ.outstanding)
    (hclient : σ.client = some q.client) (hid : action.messageId = some q.messageId) :
    Publication.Distinct p q := by
  rintro ⟨hsame, hsameId⟩
  exact hfresh p hp (hsame ▸ hclient) (hsameId ▸ hid)

/-! ## Callbacks -/

/-- A callback keeps the invariant: if it sets the flag while the replay thread waits, then
    the publication that the thread waits for is the one that is finished. -/
theorem OutboxInv.handlePublish {σ : MqttState Thread} (h : OutboxInv σ) (client : ClientId)
    (messageId : Nat) : OutboxInv (σ.handlePublish client messageId) where
  distinct := h.distinct.sublist List.filter_sublist
  awaits := by
    intro storage message hreplay
    obtain ⟨publication, hof, hid, hcompleted, hclient⟩ := h.awaits storage message hreplay
    refine ⟨publication, hof, hid, fun hflag => ?_, hclient.imp_right fun ⟨hsome, hout⟩ =>
      ⟨hsome, fun hflag => ?_⟩⟩
    · -- the flag is set: now, or it was before
      simp only [MqttState.handlePublish, Bool.or_eq_true, Bool.and_eq_true,
        decide_eq_true_eq] at hflag
      refine List.mem_append.mpr ?_
      cases hold : σ.replayPublishAcknowledged with
      | true => exact .inl (hcompleted hold)
      | false =>
        -- the callback is for the current client and the current id
        obtain ⟨hthis, hthisId⟩ := hflag.resolve_left (by simp [hold])
        rcases hclient with hnone | ⟨hsome, hout⟩
        · rw [hnone] at hthis
          exact nomatch hthis
        · rw [hthis] at hsome
          obtain rfl := Option.some.inj hsome
          exact .inr (List.mem_filter.mpr
            ⟨hout hold, by simp [hid, hthisId]⟩)
    · -- the flag is not set, so the callback is for another message
      simp only [MqttState.handlePublish, Bool.or_eq_false_iff, Bool.and_eq_false_iff,
        decide_eq_false_iff_not] at hflag
      refine List.mem_filter.mpr ⟨hout hflag.1, decide_eq_true ?_⟩
      rintro ⟨rfl, rfl⟩
      rcases hflag.2 with hother | hother
      · exact hother hsome
      · exact hother hid.symm
  acknowledged := by
    intro storage message hreplay
    obtain ⟨publication, hmem, hof⟩ := h.acknowledged storage message hreplay
    exact ⟨publication, List.mem_append_left _ hmem, hof⟩
  accounted := by
    intro storage
    obtain ⟨gone, henqueued, hremoved, hgone⟩ := h.accounted storage
    refine ⟨gone, henqueued, hremoved, fun message hmem => ?_⟩
    obtain ⟨publication, hmem, hof⟩ := hgone message hmem
    exact ⟨publication, List.mem_append_left _ hmem, hof⟩
  ids := h.ids

/-! ## The controller -/

/-- `connect` keeps the invariant: it goes on only while no replay thread is running. -/
theorem OutboxInv.connect {σ : MqttState Thread} (h : OutboxInv σ) (hthread : ReplayInv σ)
    (config : MqttConfig) (outcome : ConnectOutcome) (hcontroller : σ.controller = .idle) :
    OutboxInv (σ.connect config outcome) := by
  unfold MqttState.connect
  split
  · exact h
  · rename_i hguard
    have hidle := hthread.not_running_of_idle (loopRunning_of_connect_guard hguard).2 hcontroller
    have hcurrent := ReplayPc.current_of_not_running _ hidle
    have hfailed : OutboxInv { σ with client := none } :=
      h.move none σ.replayMessageId σ.replayPublishAcknowledged σ.replay σ.outstanding hcurrent
        (List.Sublist.refl _)
    cases outcome with
    | libraryNotReady => exact h
    | clientNotCreated => exact hfailed
    | connectFailed => exact hfailed.frame
    | loopFailed => exact hfailed.frame
    | started =>
      have hmoved := h.move (some σ.nextClient) σ.replayMessageId σ.replayPublishAcknowledged
        .wait σ.outstanding rfl (List.Sublist.refl _)
      exact hmoved.frame

/-- `disconnect` keeps the invariant: nothing can be published without a client. -/
theorem OutboxInv.disconnect {σ : MqttState Thread} (h : OutboxInv σ) :
    OutboxInv σ.disconnect where
  distinct := h.distinct
  awaits := by
    intro storage message hreplay
    obtain ⟨publication, hof, hid, hcompleted, -⟩ := h.awaits storage message hreplay
    exact ⟨publication, hof, hid, hcompleted, .inl rfl⟩
  acknowledged := h.acknowledged
  accounted := h.accounted
  ids := h.ids

/-- Destroying the client keeps the invariant: the replay thread is not running. -/
theorem OutboxInv.destroy {σ : MqttState Thread} (h : OutboxInv σ) (hthread : ReplayInv σ)
    (client : ClientId) (hcontroller : σ.controller = .destroying client) :
    OutboxInv (σ.destroy client) := by
  have hidle := hthread.not_running_of_destroying hcontroller
  have hmoved := h.move σ.client σ.replayMessageId σ.replayPublishAcknowledged σ.replay
    (σ.outstanding.filter fun publication => publication.client ≠ client)
    (ReplayPc.current_of_not_running _ hidle) List.filter_sublist
  exact hmoved.frame

/-! ## The replay thread -/

/-- The thread moves to a point where it works on no message. -/
theorem OutboxInv.moveReplay {σ : MqttState Thread} (h : OutboxInv σ) (replay : ReplayPc)
    (hcurrent : replay.current = none) : OutboxInv { σ with replay } :=
  h.move σ.client σ.replayMessageId σ.replayPublishAcknowledged replay σ.outstanding hcurrent
    (List.Sublist.refl _)

/-- The start of the loop keeps the invariant. -/
theorem OutboxInv.replayWait {σ : MqttState Thread} (h : OutboxInv σ) :
    OutboxInv σ.replayWait := by
  unfold MqttState.replayWait
  split
  · exact (h.moveReplay .finished rfl).frame
  · split
    · exact h.moveReplay .blocked rfl
    · split
      · exact (h.moveReplay (.checkConnected _) rfl).frame
      · exact h.moveReplay .blocked rfl

/-- Loading a message keeps the invariant. -/
theorem OutboxInv.replayLoad {σ : MqttState Thread} (h : OutboxInv σ) (storage : StorageId)
    (sqlite : Bool) : OutboxInv (σ.replayLoad storage sqlite) := by
  unfold MqttState.replayLoad
  split
  · exact h.moveReplay .endPass rfl
  · exact ⟨h.distinct, fun _ _ heq => (nomatch heq), fun _ _ heq => (nomatch heq),
      h.accounted, h.ids⟩

/-- Publishing a row keeps the invariant: the thread waits for the publication that
    libmosquitto has just taken. -/
theorem OutboxInv.replayPublish {σ : MqttState Thread} (h : OutboxInv σ)
    (hthread : ReplayInv σ) (storage : StorageId) (message : PendingMqttMessage)
    (result : PublishResult) (hreplay : σ.replay = .publish storage message)
    (hfresh : FreshMessageIds σ (.replayPublish result)) :
    OutboxInv (σ.replayPublish storage message result) := by
  have hgiveUp := h.moveReplay .endPass rfl
  unfold MqttState.replayPublish
  split
  · exact hgiveUp
  · rename_i client hclient
    split
    · exact hgiveUp
    · cases result with
      | success messageId =>
        obtain ⟨tail, hhead⟩ := hthread.head storage message (by rw [hreplay]; rfl)
        have htopic := cString_topic_of_mem_outbox _ message (hhead ▸ List.mem_cons_self)
        let publication : Publication Thread :=
          { client, messageId, qos := 1, topic := cString message.topic
            payload := message.payload, retain := message.retain
            source := .outboxRow storage message.id }
        -- its id is fresh, so an acknowledgement of this id can only be for it
        have hpublished := h.publish [publication] (Nat.le_refl 1) fun p hp q hq => by
          rw [List.mem_singleton.mp hq]
          exact distinct_of_fresh hfresh p publication hp hclient rfl
        constructor
        case distinct => exact hpublished.distinct
        case accounted => exact h.accounted
        case ids => exact h.ids
        case acknowledged => exact fun _ _ heq => nomatch heq
        case awaits =>
          intro storage' message' heq
          obtain ⟨rfl, rfl⟩ := ReplayPc.awaitAck.inj heq
          exact ⟨publication, ⟨rfl, rfl, htopic, rfl, rfl⟩, rfl, fun hflag => (nomatch hflag),
            .inr ⟨hclient, fun _ => List.mem_append_right _ (List.mem_singleton.mpr rfl)⟩⟩
      | failure connectionLost queued =>
        obtain ⟨new, handed, hstate, hnew, hlength, -⟩ :=
          σ.mosquittoPublish_spec client 1 message.topic message.payload message.retain
            (.outboxRow storage message.id) (.failure connectionLost queued)
        have hpublished := h.publish new hlength fun p hp q hq => by
          obtain ⟨rfl, hid⟩ := hnew q hq
          exact distinct_of_fresh hfresh p q hp hclient hid
        dsimp only
        rw [hstate]
        have hmoved := hpublished.move σ.client 0 false .endPass (σ.outstanding ++ new) rfl
          (List.Sublist.refl _)
        exact hmoved.frame

/-- The end of the wait keeps the invariant: a row that is to be removed next was
    acknowledged. -/
theorem OutboxInv.replayAwake {σ : MqttState Thread} (h : OutboxInv σ) (storage : StorageId)
    (message : PendingMqttMessage) (hreplay : σ.replay = .awaitAck storage message) :
    OutboxInv { σ with
      replayMessageId := 0
      replayPublishAcknowledged := false
      replay := if σ.replayPublishAcknowledged then .remove storage message else .endPass } := by
  obtain ⟨publication, hof, -, hcompleted, -⟩ := h.awaits storage message hreplay
  constructor
  case distinct => exact h.distinct
  case accounted => exact h.accounted
  case ids => exact h.ids
  case awaits =>
    intro storage' message' heq
    dsimp only at heq
    split at heq <;> exact nomatch heq
  case acknowledged =>
    -- the thread goes on to `remove` only with the flag set
    intro storage' message' heq
    dsimp only at heq
    split at heq
    · rename_i hflag
      obtain ⟨rfl, rfl⟩ := ReplayPc.remove.inj heq
      exact ⟨publication, hcompleted hflag, hof⟩
    · exact nomatch heq

/-- The oldest message of an outbox leaves it, acknowledged. -/
theorem Accounted.leave {σ : MqttState Thread} {storage : StorageId}
    (h : Accounted σ storage) (service : StorageService) (message : PendingMqttMessage)
    (tail : List PendingMqttMessage) (hhead : (σ.storages storage).outbox = message :: tail)
    (htail : service.outbox = tail)
    (hacknowledged : ∃ publication ∈ σ.completed,
      IsPublicationOf storage message publication) (replay : ReplayPc) :
    Accounted { σ with
      storages := Function.update σ.storages storage service
      removed := Function.update σ.removed storage (σ.removed storage ++ [message.id])
      replay } storage := by
  obtain ⟨gone, henqueued, hremoved, hgone⟩ := h
  refine ⟨gone ++ [message], ?_, ?_, fun m hm => ?_⟩
  · dsimp only
    rw [Function.update_self, htail, henqueued, hhead, List.append_assoc]
    rfl
  · dsimp only
    rw [Function.update_self, List.map_append, hremoved]
    rfl
  · cases List.mem_append.mp hm with
    | inl hm => exact hgone m hm
    | inr hm =>
      rw [List.mem_singleton.mp hm]
      exact hacknowledged

/-- The other outboxes do not change. -/
theorem Accounted.other {σ : MqttState Thread} {storage storage' : StorageId}
    (h : Accounted σ storage') (hne : storage' ≠ storage) (service : StorageService)
    (ids : List Nat) (replay : ReplayPc) :
    Accounted { σ with
      storages := Function.update σ.storages storage service
      removed := Function.update σ.removed storage ids
      replay } storage' := by
  obtain ⟨gone, henqueued, hremoved, hgone⟩ := h
  refine ⟨gone, ?_, ?_, hgone⟩
  · dsimp only
    rw [Function.update_of_ne hne, henqueued]
  · dsimp only
    rw [Function.update_of_ne hne, hremoved]

/-- Removing a row keeps the invariant: the row was the oldest and was acknowledged. -/
theorem OutboxInv.replayRemove {σ : MqttState Thread} (h : OutboxInv σ)
    (hthread : ReplayInv σ) (storage : StorageId) (message : PendingMqttMessage)
    (sqlite : Bool) (hreplay : σ.replay = .remove storage message) :
    OutboxInv (σ.replayRemove storage message sqlite) := by
  obtain ⟨tail, hhead⟩ := hthread.head storage message (by rw [hreplay]; rfl)
  unfold MqttState.replayRemove
  split
  · rename_i service hremove
    obtain ⟨hsequence, ⟨-, htail⟩ | ⟨hfalse, -⟩⟩ :=
      remove_outbox _ service message tail sqlite true hhead hremove
    · constructor
      case distinct => exact h.distinct
      case awaits => exact fun _ _ heq => nomatch heq
      case acknowledged => exact fun _ _ heq => nomatch heq
      case accounted =>
        intro storage'
        by_cases heq : storage' = storage
        · -- the row moves from the outbox to those that are acknowledged and removed
          rw [heq]
          exact (h.accounted storage).leave service message tail hhead htail
            (h.acknowledged storage message hreplay) _
        · exact (h.accounted storage').other heq service _ _
      case ids =>
        intro storage'
        refine ⟨(h.ids storage').1, fun m hm => ?_⟩
        dsimp only at hm ⊢
        by_cases heq : storage' = storage
        · subst heq
          rw [Function.update_self, hsequence]
          exact (h.ids storage').2 m hm
        · rw [Function.update_of_ne heq]
          exact (h.ids storage').2 m hm
    · exact nomatch hfalse
  · rename_i service hremove
    obtain ⟨-, ⟨htrue, -⟩ | ⟨-, rfl⟩⟩ :=
      remove_outbox _ service message tail sqlite false hhead hremove
    · exact nomatch htrue
    · rw [Function.update_eq_self]
      exact h.moveReplay .endPass rfl

/-! ## The publishers -/

/-- `publish` keeps the invariant. -/
theorem OutboxInv.servicePublish {σ : MqttState Thread} (h : OutboxInv σ)
    (action : MqttAction Thread) (topic payload : Bytes) (retain : Bool)
    (source : PublicationSource Thread) (result : PublishResult)
    (hfresh : FreshMessageIds σ action) (hid : action.messageId = result.messageId) :
    OutboxInv (σ.publish topic payload retain source result).1 := by
  obtain ⟨connected, new, handed, events, hstate, -, hnew, hlength, -⟩ :=
    σ.publish_spec topic payload retain source result
  rw [hstate]
  refine (h.publish new hlength fun p hp q hq => ?_).frame
  obtain ⟨hclient, hqid⟩ := hnew q hq
  exact distinct_of_fresh hfresh p q hp hclient (hid.trans hqid)

variable [DecidableEq Thread]

/-- Enqueueing keeps the invariant: the new message goes to the end of the outbox. -/
theorem OutboxInv.forwardEnqueue {σ : MqttState Thread} (h : OutboxInv σ)
    (config : MqttConfig) (format : FloatFormat) (thread : Thread) (message : Message)
    (offlineStorage : Option StorageId) (now : Int64) (sqlite : Bool) :
    OutboxInv (σ.forwardEnqueue config format thread message offlineStorage now sqlite) := by
  unfold MqttState.forwardEnqueue
  split
  · exact h.frame
  · rename_i storage
    split
    · exact h.frame
    · rename_i service henqueue
      obtain ⟨hsequence, houtbox⟩ := enqueue_outbox _ service _ _ _ _ _ henqueue
      generalize hpending : enqueuedMessage _ _ _ _ _ = pending at houtbox ⊢
      have hid : pending.id = (σ.storages storage).mqttOutbox.sequence + 1 := by
        rw [← hpending, ← hsequence]
        rfl
      -- the record of the calls and the program counter do not matter
      suffices hinv : OutboxInv { σ with
          storages := Function.update σ.storages storage service
          enqueued := Function.update σ.enqueued storage (σ.enqueued storage ++ [pending]) } from
        hinv.frame
      constructor
      case distinct => exact h.distinct
      case awaits => exact h.awaits
      case acknowledged => exact h.acknowledged
      case accounted =>
        intro storage'
        obtain ⟨gone, henqueued, hremoved, hgone⟩ := h.accounted storage'
        refine ⟨gone, ?_, hremoved, hgone⟩
        dsimp only
        by_cases heq : storage' = storage
        · subst heq
          rw [Function.update_self, Function.update_self, houtbox, henqueued, List.append_assoc]
        · rw [Function.update_of_ne heq, Function.update_of_ne heq, henqueued]
      case ids =>
        intro storage'
        obtain ⟨hsorted, hbounded⟩ := h.ids storage'
        dsimp only
        by_cases heq : storage' = storage
        · -- the new id is the next number of the sequence
          subst heq
          rw [Function.update_self, Function.update_self, hsequence, List.map_append,
            List.pairwise_append]
          refine ⟨⟨hsorted, List.pairwise_singleton _ _, fun id hmem id' hmem' => ?_⟩,
            fun m hm => ?_⟩
          · obtain ⟨m, hm, rfl⟩ := List.mem_map.mp hmem
            rw [List.mem_singleton.mp hmem']
            exact hid ▸ Nat.lt_succ_of_le (hbounded m hm)
          · cases List.mem_append.mp hm with
            | inl hm => exact Nat.le_succ_of_le (hbounded m hm)
            | inr hm =>
              rw [List.mem_singleton.mp hm]
              exact Nat.le_of_eq hid
        · rw [Function.update_of_ne heq, Function.update_of_ne heq]
          exact ⟨hsorted, hbounded⟩

/-- Every step under fresh message ids keeps the invariant. -/
theorem OutboxInv.step {config : MqttConfig} {format : FloatFormat} {σ σ' : MqttState Thread}
    {action : MqttAction Thread} (h : OutboxInv σ) (hthread : ReplayInv σ)
    (hfresh : FreshMessageIds σ action) (hstep : σ.step config format action = some σ') :
    OutboxInv σ' := by
  cases MqttState.step_cases hstep with
  | setOfflineStorage storage => exact h.frame
  | connect outcome hcontroller => exact h.connect hthread config outcome hcontroller
  | connectReturn timedOut hcontroller => exact h.frame
  | disconnect hcontroller => exact h.disconnect
  | join client hcontroller hreplay => exact (h.moveReplay .none rfl).frame
  | destroy client hcontroller => exact h.destroy hthread client hcontroller
  | handleConnect client accepted =>
    unfold MqttState.handleConnect
    split
    · exact h
    · exact h.frame
  | handleDisconnect client =>
    unfold MqttState.handleDisconnect
    split
    · exact h
    · exact h.frame
  | handlePublish client messageId => exact h.handlePublish client messageId
  | publish topic payload retain result =>
    exact h.servicePublish _ topic payload retain .other result hfresh rfl
  | forward thread message hforward =>
    unfold MqttState.forward
    split
    · exact h
    · exact h.frame
  | forwardDecide thread message hforward => exact h.frame
  | forwardPublish thread message offlineStorage result hforward =>
    have hpublish := h.servicePublish _ (forwardTopic config.topicPrefix message)
      (messageToJson format message) false (.forwarded (σ.currentCall thread)) result hfresh rfl
    unfold MqttState.forwardPublish
    split <;> rename_i hresult <;> rw [hresult] at hpublish <;> exact hpublish.frame
  | forwardEnqueue thread message offlineStorage now sqlite hforward =>
    exact h.forwardEnqueue config format thread message offlineStorage now sqlite
  | forwardRequest thread message hforward => exact h.frame
  | replayWait hreplay => exact h.replayWait
  | replayWake hreplay => exact h.moveReplay .wait rfl
  | replayCheck storage hreplay =>
    refine h.moveReplay _ ?_
    split <;> rfl
  | replayLoad storage sqlite hreplay => exact h.replayLoad storage sqlite
  | replayPublish storage message result hreplay =>
    exact h.replayPublish hthread storage message result hreplay hfresh
  | replayAwake storage message timedOut hreplay hawake =>
    exact h.replayAwake storage message hreplay
  | replayRemove storage message sqlite hreplay =>
    exact h.replayRemove hthread storage message sqlite hreplay
  | replayEndPass hreplay => exact (h.moveReplay .wait rfl).frame

/-! ## All runs -/

/-- The invariant holds in every state that is reached with fresh message ids. -/
theorem outboxInv_of_reachable {config : MqttConfig} {format : FloatFormat}
    {σ : MqttState Thread}
    (h : (mqttSystem config format Thread).Reachable FreshMessageIds σ) : OutboxInv σ :=
  h.invariant OutboxInv (fun _ hinit => OutboxInv.initial hinit)
    fun _ _ _ hreach hinv hfresh hstep =>
      hinv.step (replayInv_of_reachable hreach) hfresh hstep

/-- What was enqueued is what has left the outbox followed by what is in it. -/
theorem enqueued_eq {config : MqttConfig} {format : FloatFormat} {σ : MqttState Thread}
    (h : (mqttSystem config format Thread).Reachable FreshMessageIds σ) (storage : StorageId) :
    (σ.enqueued storage).map PendingMqttMessage.id =
      σ.removed storage ++ (σ.storages storage).mqttOutbox.ids := by
  obtain ⟨gone, henqueued, hremoved, -⟩ := (outboxInv_of_reachable h).accounted storage
  rw [henqueued, List.map_append, hremoved, outbox_ids]

/-- Outbox safety. In every run in which libmosquitto does not reuse outstanding message
    ids, every message that was ever enqueued is in its outbox or a publication of it at
    QoS 1, with its topic and payload, has been acknowledged; and the messages of an outbox
    leave it in strictly increasing order of their ids. -/
theorem outbox_safety (config : MqttConfig) (format : FloatFormat) (σ : MqttState Thread)
    (hreach : (mqttSystem config format Thread).Reachable FreshMessageIds σ) :
    (∀ storage, ∀ message ∈ σ.enqueued storage,
      message ∈ (σ.storages storage).outbox ∨
      ∃ publication ∈ σ.completed, IsPublicationOf storage message publication) ∧
    ∀ storage, (σ.removed storage).Pairwise (· < ·) := by
  have hinv := outboxInv_of_reachable hreach
  refine ⟨fun storage message hmem => ?_, fun storage => ?_⟩
  · obtain ⟨gone, henqueued, -, hgone⟩ := hinv.accounted storage
    rw [henqueued] at hmem
    cases List.mem_append.mp hmem with
    | inl hmem => exact .inr (hgone message hmem)
    | inr hmem => exact .inl hmem
  · have hids := (hinv.ids storage).1
    rw [enqueued_eq hreach storage] at hids
    exact (List.pairwise_append.mp hids).1

omit [DecidableEq Thread] in
instance (σ : MqttState Thread) (action : MqttAction Thread) :
    Decidable (FreshMessageIds σ action) :=
  inferInstanceAs (Decidable (∀ publication ∈ σ.outstanding,
    σ.client = some publication.client → action.messageId ≠ some publication.messageId))

/-- A message is buffered, its first publication times out, and the acknowledgement of that
    one arrives while the second is waited for. -/
def lateAckSteps : List (MqttAction Bool) :=
  [backlogSteps, replaySteps 1,
    [.replayAwake true, .replayEndPass, .handleDisconnect 0, .handleConnect 0 true],
    replaySteps 2,
    [.handlePublish 0 1, .handlePublish 0 2, .replayAwake false, .replayRemove true]].flatten

/-- Outbox safety along `lateAckSteps`: the row has left the outbox, and was acknowledged. -/
theorem outbox_safety_late_ack :
    ∃ σ, (mqttSystem {} oneFormat Bool).run FreshMessageIds .fresh lateAckSteps = some σ ∧
      σ.removed 0 = [1] ∧ (σ.storages 0).outbox = [] ∧ σ.completed.length = 2 ∧
      ∀ message ∈ σ.enqueued 0, ∃ publication ∈ σ.completed,
        IsPublicationOf 0 message publication := by
  obtain ⟨σ, hrun, hreach, hσ⟩ := TransitionSystem.exists_of_run
    (mqttSystem {} oneFormat Bool) FreshMessageIds lateAckSteps
    (fun σ => σ.removed 0 = [1] ∧ (σ.storages 0).outbox = [] ∧ σ.completed.length = 2)
    MqttState.fresh_initial (by decide)
  rw [decide_eq_true_eq] at hσ
  obtain ⟨hremoved, houtbox, hcompleted⟩ := hσ
  refine ⟨σ, hrun, hremoved, houtbox, hcompleted, fun message hmem => ?_⟩
  refine ((outbox_safety {} oneFormat σ hreach).1 0 message hmem).resolve_left fun hpending => ?_
  rw [houtbox] at hpending
  exact List.not_mem_nil hpending

end EdgeLink
