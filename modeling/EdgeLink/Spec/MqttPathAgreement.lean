import EdgeLink.Spec.MqttPayloadCorrect
import EdgeLink.Spec.MqttReplayThread
import EdgeLink.Spec.MqttTopics

/-!
# The direct and the buffered path

A message of `forwardMessage` reaches `mosquitto_publish` directly, or out of an outbox row
after two trips through C strings. Both ways give libmosquitto the same: the topic is cut
at the same byte, and the JSON text never has a NUL (`zero_not_mem_messageToJson`).
`AgreementInv` is what holds on the way in every run.
-/

namespace EdgeLink

open CText TransitionSystem StorageService

/-! ## No NUL in a payload -/

/-- The payload of a message whose value is not floating point has no NUL, since it is a JSON
    text. -/
theorem zero_not_mem_messageToJson (format : FloatFormat) (message : Message)
    (hvalue : message.value.isFloating = false) : 0 ∉ messageToJson format message := by
  obtain ⟨value, -, hscalar⟩ := scalar_tagValueToJson format message.value hvalue
  exact (denotes_messageToJson format message value hscalar).zero_not_mem

/-! ## What is on its way -/

variable {Thread : Type}

/-- The message of a `forwardMessage` call. -/
def MqttState.messageOf (σ : MqttState Thread) (call : CallId Thread) : Option Message :=
  (σ.puts call.thread)[call.number]?

/-- The message that a publisher works on. -/
def ForwardPc.message : ForwardPc → Option Message
  | .idle => none
  | .decide message | .publish message _ | .enqueue message _ | .request message => some message

/-- What the arguments of `mosquitto_publish` are for this message. -/
structure Arguments (config : MqttConfig) (message : Message) (json : Bytes)
    (topic payload : Bytes) (retain : Bool) : Prop where
  named : message.Named
  topic : topic = cString (forwardTopic config.topicPrefix message)
  payload : payload = json
  retain : retain = false

/-- What the replay thread reads of a row, or has given to libmosquitto, has the arguments
    of the message of the row's call, with the C string of its JSON text. -/
def Buffered (config : MqttConfig) (format : FloatFormat) (σ : MqttState Thread)
    (storage : StorageId) (id : Nat) (topic payload : Bytes) (retain : Bool) : Prop :=
  ∀ call, σ.rowCall storage id = some call → ∃ message, σ.messageOf call = some message ∧
    Arguments config message (cString (messageToJson format message)) topic payload retain

/-- A publication has the arguments of the message of its call. -/
def Carried (config : MqttConfig) (format : FloatFormat) (σ : MqttState Thread)
    (publication : Publication Thread) : Prop :=
  match publication.source with
  | .forwarded call => ∃ message, σ.messageOf call = some message ∧
    Arguments config message (messageToJson format message) publication.topic
      publication.payload publication.retain
  | .outboxRow storage id => id ≤ (σ.storages storage).mqttOutbox.sequence ∧
    Buffered config format σ storage id publication.topic publication.payload
      publication.retain
  | .other => True

/-- Publishers work on the message of their call, and rows and publications have the
    arguments of theirs. -/
structure AgreementInv (config : MqttConfig) (format : FloatFormat) (σ : MqttState Thread) :
    Prop where
  current : ∀ thread message, (σ.forwards thread).message = some message →
    message.Named ∧ σ.messageOf (σ.currentCall thread) = some message
  rows : ∀ storage, ∀ pending ∈ (σ.storages storage).outbox,
    Buffered config format σ storage pending.id pending.topic pending.payload pending.retain
  published : ∀ publication, publication ∈ σ.outstanding ∨ publication ∈ σ.completed →
    Carried config format σ publication

variable {config : MqttConfig} {format : FloatFormat}

/-- The initial states satisfy the invariant. -/
theorem AgreementInv.initial {σ : MqttState Thread} (h : σ.Initial) :
    AgreementInv config format σ where
  current := by simp [h.forwards, ForwardPc.message]
  rows := by simp [Buffered, h.rowCall]
  published := by simp [h.outstanding, h.completed]

/-- The invariant depends on the publishers, the outboxes and the publications only. -/
theorem AgreementInv.frame {σ : MqttState Thread} (h : AgreementInv config format σ)
    {client : Option ClientId}
    {loopRunning connected initialConnectionCompleted stopping replayRequested : Bool}
    {replaying : Bool} {replayMessageId : Nat} {replayPublishAcknowledged : Bool}
    {offlineStorage : Option StorageId} {replay : ReplayPc} {controller : ControllerPc}
    {nextClient : ClientId} {handed : List (CallId Thread)}
    {enqueued : StorageId → List PendingMqttMessage} {removed : StorageId → List Nat}
    {clientEvents : List ClientEvent} :
    AgreementInv config format { σ with
      client, loopRunning, connected, initialConnectionCompleted, stopping, replayRequested
      replaying, replayMessageId, replayPublishAcknowledged, offlineStorage, replay, controller
      nextClient, handed, enqueued, removed, clientEvents } :=
  ⟨h.current, h.rows, h.published⟩

/-- Publications come and go. -/
theorem AgreementInv.setPublications {σ : MqttState Thread} (h : AgreementInv config format σ)
    (outstanding completed : List (Publication Thread))
    (hnew : ∀ publication, publication ∈ outstanding ∨ publication ∈ completed →
      (publication ∈ σ.outstanding ∨ publication ∈ σ.completed) ∨
        Carried config format σ publication) :
    AgreementInv config format { σ with outstanding, completed } where
  current := h.current
  rows := h.rows
  published := fun publication hmem => (hnew publication hmem).elim (h.published publication) id

/-- What `mosquitto_publish` records of its arguments. -/
theorem MqttState.mem_mosquittoPublish {σ : MqttState Thread} {client : ClientId} {qos : Nat}
    {topic payload : Bytes} {retain : Bool} {source : PublicationSource Thread}
    {result : PublishResult} {publication : Publication Thread}
    (h : publication ∈
      (σ.mosquittoPublish client qos topic payload retain source result).outstanding) :
    publication ∈ σ.outstanding ∨ publication.topic = cString topic ∧
      publication.payload = payload ∧ publication.retain = retain ∧
      publication.source = source := by
  unfold MqttState.mosquittoPublish at h
  cases result with
  | success messageId =>
    rcases List.mem_append.mp h with hold | hnew
    · exact .inl hold
    · obtain rfl := List.mem_singleton.mp hnew
      exact .inr ⟨rfl, rfl, rfl, rfl⟩
  | failure connectionLost queued =>
    cases queued with
    | none => exact .inl h
    | some messageId =>
      rcases List.mem_append.mp h with hold | hnew
      · exact .inl hold
      · obtain rfl := List.mem_singleton.mp hnew
        exact .inr ⟨rfl, rfl, rfl, rfl⟩

/-- `mosquitto_publish` with the arguments of a message. -/
theorem AgreementInv.mosquittoPublish {σ : MqttState Thread} (h : AgreementInv config format σ)
    (client : ClientId) (qos : Nat) (topic payload : Bytes) (retain : Bool)
    (source : PublicationSource Thread) (result : PublishResult)
    (hcarried : ∀ publication : Publication Thread, publication.topic = cString topic →
      publication.payload = payload → publication.retain = retain →
      publication.source = source → Carried config format σ publication) :
    AgreementInv config format
      (σ.mosquittoPublish client qos topic payload retain source result) := by
  obtain ⟨new, handed, hstate, -⟩ :=
    σ.mosquittoPublish_spec client qos topic payload retain source result
  have hmem : ∀ publication ∈ σ.outstanding ++ new,
      publication ∈ σ.outstanding ∨ Carried config format σ publication := by
    intro publication hpublication
    have hpublication' : publication ∈
        (σ.mosquittoPublish client qos topic payload retain source result).outstanding := by
      rw [hstate]
      exact hpublication
    refine (MqttState.mem_mosquittoPublish hpublication').imp_right ?_
    rintro ⟨htopic, hpayload, hretain, hsource⟩
    exact hcarried publication htopic hpayload hretain hsource
  rw [hstate]
  refine (h.setPublications (σ.outstanding ++ new) σ.completed ?_).frame
  rintro publication (hout | hcompleted)
  · exact (hmem publication hout).imp_left .inl
  · exact .inl (.inr hcompleted)

/-- `publish` with the arguments of a message. -/
theorem AgreementInv.publish {σ : MqttState Thread} (h : AgreementInv config format σ)
    (topic payload : Bytes) (retain : Bool) (source : PublicationSource Thread)
    (result : PublishResult)
    (hcarried : ∀ publication : Publication Thread, publication.topic = cString topic →
      publication.payload = payload → publication.retain = retain →
      publication.source = source → Carried config format σ publication) :
    AgreementInv config format (σ.publish topic payload retain source result).1 := by
  unfold MqttState.publish
  split
  · exact h
  · rename_i client hclient
    split
    · exact h
    · have hpublished :=
        h.mosquittoPublish client 0 topic payload retain source result hcarried
      cases result with
      | success messageId => exact hpublished
      | failure connectionLost queued => exact hpublished.frame

/-! ## Steps that write the record -/

/-- Calls keep their messages, and rows that were given out keep their calls. -/
structure Extends (σ σ' : MqttState Thread) : Prop where
  messages : ∀ call message, σ.messageOf call = some message →
    σ'.messageOf call = some message
  sequence : ∀ storage, (σ.storages storage).mqttOutbox.sequence ≤
    (σ'.storages storage).mqttOutbox.sequence
  rowCall : ∀ storage, ∀ id ≤ (σ.storages storage).mqttOutbox.sequence,
    σ'.rowCall storage id = σ.rowCall storage id

theorem Buffered.extends {σ σ' : MqttState Thread} {storage : StorageId} {id : Nat}
    {topic payload : Bytes} {retain : Bool}
    (h : Buffered config format σ storage id topic payload retain) (hextends : Extends σ σ')
    (hid : id ≤ (σ.storages storage).mqttOutbox.sequence) :
    Buffered config format σ' storage id topic payload retain := by
  intro call hcall
  rw [hextends.rowCall storage id hid] at hcall
  obtain ⟨message, hmessage, harguments⟩ := h call hcall
  exact ⟨message, hextends.messages call message hmessage, harguments⟩

theorem Carried.extends {σ σ' : MqttState Thread} {publication : Publication Thread}
    (h : Carried config format σ publication) (hextends : Extends σ σ') :
    Carried config format σ' publication := by
  unfold Carried at h ⊢
  split
  · rename_i call hsource
    rw [hsource] at h
    obtain ⟨message, hmessage, harguments⟩ := h
    exact ⟨message, hextends.messages call message hmessage, harguments⟩
  · rename_i storage id hsource
    rw [hsource] at h
    exact ⟨Nat.le_trans h.1 (hextends.sequence storage), h.2.extends hextends h.1⟩
  · trivial

/-- The ids of an outbox have been given out. -/
theorem id_le_sequence (storage : StorageService) (pending : PendingMqttMessage)
    (h : pending ∈ storage.outbox) : pending.id ≤ storage.mqttOutbox.sequence := by
  have hid : pending.id ∈ storage.mqttOutbox.ids :=
    outbox_ids storage ▸ List.mem_map_of_mem h
  exact (storage.mqttOutbox.bounded pending.id hid).2

/-- A step that extends the record, where the publishers and the new rows are in order. -/
theorem AgreementInv.extend {σ σ' : MqttState Thread} (h : AgreementInv config format σ)
    (hextends : Extends σ σ')
    (hcurrent : ∀ thread message, (σ'.forwards thread).message = some message →
      message.Named ∧ σ'.messageOf (σ'.currentCall thread) = some message)
    (hrows : ∀ storage, ∀ pending ∈ (σ'.storages storage).outbox,
      pending ∈ (σ.storages storage).outbox ∨ Buffered config format σ' storage pending.id
        pending.topic pending.payload pending.retain)
    (houtstanding : σ'.outstanding = σ.outstanding)
    (hcompleted : σ'.completed = σ.completed) : AgreementInv config format σ' where
  current := hcurrent
  rows := by
    intro storage pending hpending
    rcases hrows storage pending hpending with hold | hnew
    · exact (h.rows storage pending hold).extends hextends (id_le_sequence _ _ hold)
    · exact hnew
  published := by
    rw [houtstanding, hcompleted]
    intro publication hpublication
    exact (h.published publication hpublication).extends hextends

/-! ## The replay thread -/

/-- The replay thread gives libmosquitto what it has read of the oldest row. -/
theorem AgreementInv.replayPublish {σ : MqttState Thread} (h : AgreementInv config format σ)
    (hthread : ReplayInv σ) (storage : StorageId) (pending : PendingMqttMessage)
    (result : PublishResult) (hreplay : σ.replay = .publish storage pending) :
    AgreementInv config format (σ.replayPublish storage pending result) := by
  obtain ⟨tail, hhead⟩ := hthread.head storage pending (by rw [hreplay]; rfl)
  have hmem : pending ∈ (σ.storages storage).outbox := hhead ▸ List.mem_cons_self
  have hrow := h.rows storage pending hmem
  unfold MqttState.replayPublish
  split
  · exact h.frame
  · rename_i client hclient
    split
    · exact h.frame
    · have hpublished := h.mosquittoPublish client 1 pending.topic pending.payload
        pending.retain (.outboxRow storage pending.id) result
        fun publication htopic hpayload hretain hsource => by
          unfold Carried
          rw [hsource]
          refine ⟨id_le_sequence _ _ hmem, ?_⟩
          -- the topic is cut once more, and does not change
          rw [htopic, hpayload, hretain, cString_topic_of_mem_outbox _ pending hmem]
          exact hrow
      cases result with
      | success messageId => exact hpublished.frame
      | failure connectionLost queued => exact hpublished.frame

/-- Removing a row leaves a part of the outbox. -/
theorem AgreementInv.replayRemove {σ : MqttState Thread} (h : AgreementInv config format σ)
    (hthread : ReplayInv σ) (storage : StorageId) (pending : PendingMqttMessage)
    (sqlite : Bool) (hreplay : σ.replay = .remove storage pending) :
    AgreementInv config format (σ.replayRemove storage pending sqlite) := by
  obtain ⟨tail, hhead⟩ := hthread.head storage pending (by rw [hreplay]; rfl)
  have hshrink : ∀ service removed, (σ.storages storage).removePendingMqttMessage pending.id
      sqlite = (service, removed) →
      AgreementInv config format
        { σ with storages := Function.update σ.storages storage service } := by
    intro service removed hremove
    obtain ⟨hsequence, hservice⟩ :=
      remove_outbox _ service pending tail sqlite removed hhead hremove
    -- whether SQLite removes the row or not
    have hsubset : ∀ other ∈ service.outbox, other ∈ (σ.storages storage).outbox := by
      rcases hservice with ⟨-, htail⟩ | ⟨-, rfl⟩
      · rw [htail, hhead]
        exact fun other => List.mem_cons_of_mem pending
      · exact fun _ => id
    apply h.extend
    · refine ⟨fun _ _ hold => hold, fun storage' => ?_, fun _ _ _ => rfl⟩
      dsimp only
      by_cases heq : storage' = storage
      · subst heq
        rw [Function.update_self, hsequence]
      · rw [Function.update_of_ne heq]
    · exact h.current
    · intro storage' other hother
      dsimp only at hother
      by_cases heq : storage' = storage
      · subst heq
        rw [Function.update_self] at hother
        exact .inl (hsubset other hother)
      · rw [Function.update_of_ne heq] at hother
        exact .inl hother
    · rfl
    · rfl
  unfold MqttState.replayRemove
  split
  · rename_i service hremove
    exact (hshrink service true hremove).frame
  · rename_i service hremove
    exact (hshrink service false hremove).frame

/-! ## Publishers -/

variable [DecidableEq Thread]

/-- A publisher goes on with the same message, or ends its call. -/
theorem AgreementInv.setForward {σ : MqttState Thread} (h : AgreementInv config format σ)
    (thread : Thread) (pc : ForwardPc)
    (hpc : ∀ message, pc.message = some message →
      (σ.forwards thread).message = some message) :
    AgreementInv config format (σ.setForward thread pc) where
  current := by
    intro thread' message hmessage
    simp only [MqttState.setForward] at hmessage
    by_cases heq : thread' = thread
    · subst heq
      rw [Function.update_self] at hmessage
      exact h.current thread' message (hpc message hmessage)
    · rw [Function.update_of_ne heq] at hmessage
      exact h.current thread' message hmessage
  rows := h.rows
  published := h.published

/-- The start of a call: the thread has one more message, and works on it. -/
theorem AgreementInv.forward {σ : MqttState Thread} (h : AgreementInv config format σ)
    (thread : Thread) (message : Message) :
    AgreementInv config format (σ.forward thread message) := by
  unfold MqttState.forward
  split
  · exact h
  · rename_i hnamed
    simp only [Bool.or_eq_true, List.isEmpty_iff, not_or] at hnamed
    have hmessages : ∀ call message', σ.messageOf call = some message' →
        (Function.update σ.puts thread (σ.puts thread ++ [message]) call.thread)[call.number]? =
          some message' := by
      intro call message' hcall
      simp only [MqttState.messageOf] at hcall
      by_cases heq : call.thread = thread
      · rw [heq] at hcall ⊢
        -- the older calls of the thread keep their numbers
        rw [Function.update_self, List.getElem?_append_left]
        · exact hcall
        · exact (List.getElem?_eq_some_iff.mp hcall).1
      · rw [Function.update_of_ne heq]
        exact hcall
    apply h.extend
    · exact ⟨hmessages, fun _ => Nat.le_refl _, fun _ _ _ => rfl⟩
    · intro thread' message' hmessage
      dsimp only at hmessage
      by_cases heq : thread' = thread
      · -- the call is the last one of the thread
        subst heq
        rw [Function.update_self] at hmessage
        obtain rfl := Option.some.inj hmessage
        refine ⟨hnamed, ?_⟩
        simp [MqttState.messageOf, MqttState.currentCall]
      · rw [Function.update_of_ne heq] at hmessage
        obtain ⟨hname, hcall⟩ := h.current thread' message' hmessage
        refine ⟨hname, ?_⟩
        simp only [MqttState.messageOf, MqttState.currentCall] at hcall ⊢
        rw [Function.update_of_ne heq]
        exact hcall
    · exact fun storage pending hpending => .inl hpending
    · rfl
    · rfl

/-- The direct path gives libmosquitto what it has built. -/
theorem AgreementInv.forwardPublish {σ : MqttState Thread} (h : AgreementInv config format σ)
    (thread : Thread) (message : Message) (offlineStorage : Option StorageId)
    (result : PublishResult) (hforward : σ.forwards thread = .publish message offlineStorage) :
    AgreementInv config format
      (σ.forwardPublish config format thread message offlineStorage result) := by
  have hmessage : (σ.forwards thread).message = some message := by rw [hforward]; rfl
  obtain ⟨hnamed, hcall⟩ := h.current thread message hmessage
  have hpublished := h.publish (forwardTopic config.topicPrefix message)
    (messageToJson format message) false (.forwarded (σ.currentCall thread)) result
    fun publication htopic hpayload hretain hsource => by
      unfold Carried
      rw [hsource]
      exact ⟨message, hcall, hnamed, htopic, hpayload, hretain⟩
  obtain ⟨connected, new, handed, events, hstate, -⟩ :=
    σ.publish_spec (forwardTopic config.topicPrefix message) (messageToJson format message)
      false (.forwarded (σ.currentCall thread)) result
  -- `publish` leaves the publishers alone
  have hforwards : (σ.publish (forwardTopic config.topicPrefix message)
      (messageToJson format message) false (.forwarded (σ.currentCall thread)) result).1.forwards
      = σ.forwards := by rw [hstate]
  unfold MqttState.forwardPublish
  split <;> rename_i published hresult <;> rw [hresult] at hpublished hforwards
  · exact hpublished.setForward thread .idle fun _ heq => nomatch heq
  · apply hpublished.setForward thread
    intro message' heq
    rw [hforwards, hmessage]
    exact heq

/-- Enqueueing: the new row has the arguments of the message of the current call. -/
theorem AgreementInv.forwardEnqueue {σ : MqttState Thread} (h : AgreementInv config format σ)
    (thread : Thread) (message : Message) (offlineStorage : Option StorageId) (now : Int64)
    (sqlite : Bool) (hforward : σ.forwards thread = .enqueue message offlineStorage) :
    AgreementInv config format
      (σ.forwardEnqueue config format thread message offlineStorage now sqlite) := by
  have hmessage : (σ.forwards thread).message = some message := by rw [hforward]; rfl
  obtain ⟨hnamed, hcall⟩ := h.current thread message hmessage
  have hlost := h.setForward thread .idle fun _ heq => nomatch heq
  unfold MqttState.forwardEnqueue
  split
  · exact hlost
  · rename_i storage
    split
    · exact hlost
    · rename_i service henqueue
      obtain ⟨hsequence, houtbox⟩ := enqueue_outbox _ service _ _ _ _ _ henqueue
      apply h.extend
      · refine ⟨fun _ _ hold => hold, fun storage' => ?_, fun storage' id hle => ?_⟩
        · dsimp only
          by_cases heq : storage' = storage
          · subst heq
            rw [Function.update_self]
            omega
          · rw [Function.update_of_ne heq]
        · -- the new id has not been given out before
          dsimp only
          by_cases heq : storage' = storage
          · subst heq
            rw [Function.update_self, Function.update_of_ne]
            omega
          · rw [Function.update_of_ne heq]
      · intro thread' message' hmessage'
        dsimp only at hmessage'
        by_cases heq : thread' = thread
        · subst heq
          rw [Function.update_self] at hmessage'
          obtain rfl := Option.some.inj hmessage'
          exact ⟨hnamed, hcall⟩
        · rw [Function.update_of_ne heq] at hmessage'
          exact h.current thread' message' hmessage'
      · intro storage' pending' hpending'
        dsimp only at hpending'
        by_cases heq : storage' = storage
        · subst heq
          rw [Function.update_self, houtbox] at hpending'
          rcases List.mem_append.mp hpending' with hold | hnew
          · exact .inl hold
          · obtain rfl := List.mem_singleton.mp hnew
            -- the call of the new row is the current one
            refine .inr fun call hrow => ?_
            dsimp only [enqueuedMessage] at hrow
            rw [Function.update_self, Function.update_self] at hrow
            obtain rfl := Option.some.inj hrow
            exact ⟨message, hcall, hnamed, rfl, rfl, rfl⟩
        · rw [Function.update_of_ne heq] at hpending'
          exact .inl hpending'
      · rfl
      · rfl

/-! ## All runs -/

/-- Every step keeps the invariant. -/
theorem AgreementInv.step {σ σ' : MqttState Thread} {action : MqttAction Thread}
    (h : AgreementInv config format σ) (hthread : ReplayInv σ)
    (hstep : σ.step config format action = some σ') : AgreementInv config format σ' := by
  cases MqttState.step_cases hstep with
  | setOfflineStorage storage => exact h.frame
  | connect outcome hcontroller =>
    unfold MqttState.connect
    split
    · exact h
    · cases outcome with
      | libraryNotReady => exact h
      | clientNotCreated => exact h.frame
      | connectFailed => exact h.frame
      | loopFailed => exact h.frame
      | started => exact h.frame
  | connectReturn timedOut hcontroller => exact h.frame
  | disconnect hcontroller => exact h.frame
  | join client hcontroller hreplay => exact h.frame
  | destroy client hcontroller =>
    have hdropped := h.setPublications
      (σ.outstanding.filter fun publication => publication.client ≠ client) σ.completed
      fun publication hmem => .inl (hmem.imp_left List.mem_of_mem_filter)
    exact hdropped.frame
  | handleConnect client accepted =>
    unfold MqttState.handleConnect
    split
    · exact h
    · exact h.frame
  | handleDisconnect client =>
    unfold MqttState.handleDisconnect
    split
    · exact h
    · exact h.frame
  | handlePublish client messageId =>
    -- finished publications move from one list to the other
    have hmoved := h.setPublications (σ.handlePublish client messageId).outstanding
      (σ.handlePublish client messageId).completed fun publication hmem => by
        left
        rcases hmem with hout | hdone
        · exact .inl (List.mem_of_mem_filter hout)
        · rcases List.mem_append.mp hdone with hold | hnew
          · exact .inr hold
          · exact .inl (List.mem_of_mem_filter hnew)
    exact hmoved.frame
  | publish topic payload retain result =>
    apply h.publish
    intro publication _ _ _ hsource
    unfold Carried
    rw [hsource]
    trivial
  | forward thread message hforward => exact h.forward thread message
  | forwardDecide thread message hforward =>
    apply h.setForward thread
    intro message' heq
    rw [hforward]
    split at heq
    · exact heq
    · exact heq
  | forwardPublish thread message offlineStorage result hforward =>
    exact h.forwardPublish thread message offlineStorage result hforward
  | forwardEnqueue thread message offlineStorage now sqlite hforward =>
    exact h.forwardEnqueue thread message offlineStorage now sqlite hforward
  | forwardRequest thread message hforward =>
    exact (h.setForward thread .idle fun _ heq => nomatch heq).frame
  | replayWait hreplay =>
    unfold MqttState.replayWait
    split
    · exact h.frame
    · split
      · exact h.frame
      · split
        · exact h.frame
        · exact h.frame
  | replayWake hreplay => exact h.frame
  | replayCheck storage hreplay => exact h.frame
  | replayLoad storage sqlite hreplay =>
    unfold MqttState.replayLoad
    split
    · exact h.frame
    · exact h.frame
  | replayPublish storage pending result hreplay =>
    exact h.replayPublish hthread storage pending result hreplay
  | replayAwake storage pending timedOut hreplay hawake => exact h.frame
  | replayRemove storage pending sqlite hreplay =>
    exact h.replayRemove hthread storage pending sqlite hreplay
  | replayEndPass hreplay => exact h.frame

/-- The invariant holds in all runs. -/
theorem agreementInv_of_reachable
    {ok : MqttState Thread → MqttAction Thread → Prop} {σ : MqttState Thread}
    (h : (mqttSystem config format Thread).Reachable ok σ) : AgreementInv config format σ :=
  h.invariant (AgreementInv config format) (fun _ hinit => AgreementInv.initial hinit)
    fun _ _ _ hreach hinv _ hstep => hinv.step (replayInv_of_reachable hreach) hstep

/-! ## Agreement -/

/-- The row and the publications of a call, as libmosquitto gets them: with a topic that is
    not empty and the whole JSON text. -/
structure Delivered (config : MqttConfig) (format : FloatFormat) (message : Message)
    (topic payload : Bytes) (retain : Bool) : Prop where
  topic_ne_nil : topic ≠ []
  topic : topic = cString (forwardTopic config.topicPrefix message)
  payload : payload = messageToJson format message
  retain : retain = false

/-- A prefix without NUL leaves something of the topic. -/
theorem cString_forwardTopic_ne_nil (topicPrefix : Bytes) (message : Message)
    (hnul : 0 ∉ topicPrefix) : cString (forwardTopic topicPrefix message) ≠ [] := by
  cases topicPrefix with
  | nil =>
    -- the topic starts with the slash
    show cString (0x2F :: _) ≠ []
    rw [cString, List.takeWhile_cons_of_pos (by decide)]
    exact List.cons_ne_nil _ _
  | cons byte rest =>
    have hbyte : byte ≠ 0 := fun heq => hnul (heq ▸ List.mem_cons_self)
    show cString (byte :: _) ≠ []
    rw [cString, List.takeWhile_cons_of_pos (by simpa using hbyte)]
    exact List.cons_ne_nil _ _

/-- The arguments of a message, with or without the cut at a NUL. -/
theorem Arguments.delivered {message : Message} {json topic payload : Bytes} {retain : Bool}
    (h : Arguments config message json topic payload retain) (hnul : 0 ∉ config.topicPrefix)
    (hjson : json = messageToJson format message) :
    Delivered config format message topic payload retain where
  topic_ne_nil := h.topic ▸ cString_forwardTopic_ne_nil _ message hnul
  topic := h.topic
  payload := h.payload.trans hjson
  retain := h.retain

omit [DecidableEq Thread] in
/-- Where the value is not floating point, a row has the whole arguments. -/
theorem Buffered.delivered {σ : MqttState Thread} {storage : StorageId} {id : Nat}
    {topic payload : Bytes} {retain : Bool} {call : CallId Thread} {message : Message}
    (h : Buffered config format σ storage id topic payload retain)
    (hnul : 0 ∉ config.topicPrefix) (hrow : σ.rowCall storage id = some call)
    (hcall : σ.messageOf call = some message) (hvalue : message.value.isFloating = false) :
    Delivered config format message topic payload retain := by
  obtain ⟨message', hmessage, harguments⟩ := h call hrow
  rw [hcall] at hmessage
  obtain rfl := Option.some.inj hmessage
  apply harguments.delivered hnul
  exact (cString_eq_self_iff _).mpr (zero_not_mem_messageToJson format message hvalue)

/-- **Direct and buffered publishing agree.** In every run, with a topic prefix without
    NUL: whatever is buffered for a message whose value is not floating point, its row is
    read back with the C string of its topic and with its whole JSON text; and a direct
    publication and a replayed one of equal messages have the same topic, payload, payload
    length and retain flag. -/
theorem direct_buffered_agree (config : MqttConfig) (format : FloatFormat)
    (hnul : 0 ∉ config.topicPrefix) (σ : MqttState Thread)
    (hreach : (mqttSystem config format Thread).Reachable anyStep σ)
    (message : Message) (hvalue : message.value.isFloating = false) :
    (∀ storage call, ∀ pending ∈ (σ.storages storage).outbox,
      σ.rowCall storage pending.id = some call → σ.messageOf call = some message →
      Delivered config format message pending.topic pending.payload pending.retain) ∧
    ∀ direct replayed : Publication Thread,
      direct ∈ σ.outstanding ∨ direct ∈ σ.completed →
      replayed ∈ σ.outstanding ∨ replayed ∈ σ.completed →
      ∀ call call' storage id,
        direct.source = .forwarded call → σ.messageOf call = some message →
        replayed.source = .outboxRow storage id → σ.rowCall storage id = some call' →
        σ.messageOf call' = some message →
        Delivered config format message direct.topic direct.payload direct.retain ∧
          replayed.topic = direct.topic ∧ replayed.payload = direct.payload ∧
          replayed.payload.length = direct.payload.length ∧
          replayed.retain = direct.retain := by
  have hinv := agreementInv_of_reachable hreach
  constructor
  · intro storage call pending hpending hrow hcall
    exact (hinv.rows storage pending hpending).delivered hnul hrow hcall hvalue
  · intro direct replayed hdirect hreplayed call call' storage id hsource hcall hsource' hrow
      hcall'
    have hforwarded := hinv.published direct hdirect
    have hbuffered := hinv.published replayed hreplayed
    unfold Carried at hforwarded hbuffered
    rw [hsource] at hforwarded
    rw [hsource'] at hbuffered
    obtain ⟨message', hmessage, harguments⟩ := hforwarded
    rw [hcall] at hmessage
    obtain rfl := Option.some.inj hmessage
    -- both have the arguments of the same message
    have hd := harguments.delivered hnul rfl
    have hr := hbuffered.2.delivered hnul hrow hcall' hvalue
    have hpayload : replayed.payload = direct.payload := hr.payload.trans hd.payload.symm
    exact ⟨hd, hr.topic.trans hd.topic.symm, hpayload, congrArg List.length hpayload,
      hr.retain.trans hd.retain.symm⟩

/-- One message twice, with a NUL in both names: it is buffered first, then it is published
    directly, and then the row is replayed. -/
def bothPathsMessage : Message :=
  ⟨[], [0x64, 0, 0x65], [0, 0x74], .string [0x22, 0, 0xFF], .good, 0⟩

def bothPathsSteps : List (MqttAction Bool) :=
  [[.connect .started], bufferSteps false bothPathsMessage, [.handleConnect 0 true],
    publishSteps true bothPathsMessage 1, replaySteps 2].flatten

set_option maxRecDepth 4000 in
theorem direct_buffered_agree_sample :
    ∃ σ : MqttState Bool,
      (mqttSystem {} oneFormat Bool).run anyStep .fresh bothPathsSteps = some σ ∧
      ∃ direct replayed, σ.outstanding = [direct, replayed] ∧
        direct.topic = ascii "edgelink/devices/d" ∧
        replayed.topic = direct.topic ∧ replayed.payload = direct.payload := by
  obtain ⟨σ, hrun, hreach, hσ⟩ := TransitionSystem.exists_of_run
    (mqttSystem {} oneFormat Bool) anyStep bothPathsSteps
    (fun σ => σ.outstanding.map Publication.source =
        [.forwarded ⟨true, 0⟩, .outboxRow 0 1] ∧
      σ.rowCall 0 1 = some ⟨false, 0⟩ ∧ σ.puts true = [bothPathsMessage] ∧
      σ.puts false = [bothPathsMessage])
    MqttState.fresh_initial (by decide)
  rw [decide_eq_true_eq] at hσ
  obtain ⟨hsources, hrow, hputs, hputs'⟩ := hσ
  obtain ⟨direct, rest, hout, hsource, hrest⟩ := List.map_eq_cons_iff.mp hsources
  obtain ⟨replayed, rest', rfl, hsource', hnil⟩ := List.map_eq_cons_iff.mp hrest
  obtain rfl := List.map_eq_nil_iff.mp hnil
  obtain ⟨hdirect, htopic, hpayload, -, -⟩ :=
    (direct_buffered_agree {} oneFormat (by decide) σ hreach bothPathsMessage rfl).2
      direct replayed (.inl (by simp [hout])) (.inl (by simp [hout])) _ _ 0 1 hsource
      (by rw [MqttState.messageOf, hputs]; rfl) hsource' hrow
      (by rw [MqttState.messageOf, hputs']; rfl)
  exact ⟨σ, hrun, direct, replayed, hout, hdirect.topic.trans (by decide), htopic, hpayload⟩

end EdgeLink
