import EdgeLink.Native.MqttService
import EdgeLink.Spec.StorageServiceCorrect

/-!
# Steps of the MQTT service

What a step can be, and which part of the state the steps that publish can touch. The
invariants of the service use only these facts about `step`.
-/

namespace EdgeLink

namespace MqttState

variable {Thread : Type} [DecidableEq Thread]

/-- The steps from a state, each with the point its thread is at. -/
inductive StepCase (config : MqttConfig) (format : FloatFormat) (σ : MqttState Thread) :
    MqttAction Thread → MqttState Thread → Prop
  | setOfflineStorage (storage : Option StorageId) :
    StepCase config format σ (.setOfflineStorage storage) (σ.setOfflineStorage storage)
  | connect (outcome : ConnectOutcome) (hcontroller : σ.controller = .idle) :
    StepCase config format σ (.connect outcome) (σ.connect config outcome)
  | connectReturn (timedOut : Bool) (hcontroller : σ.controller = .connecting) :
    StepCase config format σ (.connectReturn timedOut) { σ with controller := .idle }
  | disconnect (hcontroller : σ.controller = .idle) :
    StepCase config format σ .disconnect σ.disconnect
  | join (client : Option ClientId) (hcontroller : σ.controller = .joining client)
      (hreplay : σ.replay = .none ∨ σ.replay = .finished) :
    StepCase config format σ .join (σ.join client)
  | destroy (client : ClientId) (hcontroller : σ.controller = .destroying client) :
    StepCase config format σ .destroy (σ.destroy client)
  | handleConnect (client : ClientId) (accepted : Bool) :
    StepCase config format σ (.handleConnect client accepted) (σ.handleConnect client accepted)
  | handleDisconnect (client : ClientId) :
    StepCase config format σ (.handleDisconnect client) (σ.handleDisconnect client)
  | handlePublish (client : ClientId) (messageId : Nat) :
    StepCase config format σ (.handlePublish client messageId)
      (σ.handlePublish client messageId)
  | publish (topic payload : Bytes) (retain : Bool) (result : PublishResult) :
    StepCase config format σ (.publish topic payload retain result)
      (σ.publish topic payload retain .other result).1
  | forward (thread : Thread) (message : Message) (hforward : σ.forwards thread = .idle) :
    StepCase config format σ (.forward thread message) (σ.forward thread message)
  | forwardDecide (thread : Thread) (message : Message)
      (hforward : σ.forwards thread = .decide message) :
    StepCase config format σ (.forwardDecide thread) (σ.forwardDecide thread message)
  | forwardPublish (thread : Thread) (message : Message) (offlineStorage : Option StorageId)
      (result : PublishResult) (hforward : σ.forwards thread = .publish message offlineStorage) :
    StepCase config format σ (.forwardPublish thread result)
      (σ.forwardPublish config format thread message offlineStorage result)
  | forwardEnqueue (thread : Thread) (message : Message) (offlineStorage : Option StorageId)
      (now : Int64) (sqlite : Bool)
      (hforward : σ.forwards thread = .enqueue message offlineStorage) :
    StepCase config format σ (.forwardEnqueue thread now sqlite)
      (σ.forwardEnqueue config format thread message offlineStorage now sqlite)
  | forwardRequest (thread : Thread) (message : Message)
      (hforward : σ.forwards thread = .request message) :
    StepCase config format σ (.forwardRequest thread) (σ.forwardRequest thread)
  | replayWait (hreplay : σ.replay = .wait) :
    StepCase config format σ .replayWait σ.replayWait
  | replayWake (hreplay : σ.replay = .blocked) :
    StepCase config format σ .replayWake { σ with replay := .wait }
  | replayCheck (storage : StorageId) (hreplay : σ.replay = .checkConnected storage) :
    StepCase config format σ .replayCheck (σ.replayCheck storage)
  | replayLoad (storage : StorageId) (sqlite : Bool) (hreplay : σ.replay = .load storage) :
    StepCase config format σ (.replayLoad sqlite) (σ.replayLoad storage sqlite)
  | replayPublish (storage : StorageId) (message : PendingMqttMessage) (result : PublishResult)
      (hreplay : σ.replay = .publish storage message) :
    StepCase config format σ (.replayPublish result) (σ.replayPublish storage message result)
  | replayAwake (storage : StorageId) (message : PendingMqttMessage) (timedOut : Bool)
      (hreplay : σ.replay = .awaitAck storage message)
      (hawake : timedOut || σ.stopping || !σ.connected || σ.replayPublishAcknowledged) :
    StepCase config format σ (.replayAwake timedOut)
      { σ with
        replayMessageId := 0
        replayPublishAcknowledged := false
        replay := if σ.replayPublishAcknowledged then .remove storage message else .endPass }
  | replayRemove (storage : StorageId) (message : PendingMqttMessage) (sqlite : Bool)
      (hreplay : σ.replay = .remove storage message) :
    StepCase config format σ (.replayRemove sqlite) (σ.replayRemove storage message sqlite)
  | replayEndPass (hreplay : σ.replay = .endPass) :
    StepCase config format σ .replayEndPass σ.replayEndPass

/-- Every step is one of these. -/
theorem step_cases {config : MqttConfig} {format : FloatFormat} {σ σ' : MqttState Thread}
    {action : MqttAction Thread} (h : σ.step config format action = some σ') :
    StepCase config format σ action σ' := by
  cases action with
  | setOfflineStorage storage => obtain rfl := Option.some.inj h; exact .setOfflineStorage _
  | handleConnect client accepted => obtain rfl := Option.some.inj h; exact .handleConnect _ _
  | handleDisconnect client => obtain rfl := Option.some.inj h; exact .handleDisconnect _
  | handlePublish client messageId => obtain rfl := Option.some.inj h; exact .handlePublish _ _
  | publish topic payload retain result =>
    obtain rfl := Option.some.inj h; exact .publish _ _ _ _
  | connectReturn timedOut =>
    simp only [step] at h
    split at h
    · rename_i hcontroller
      obtain ⟨-, heq⟩ := Option.ite_none_right_eq_some.mp h
      obtain rfl := Option.some.inj heq
      exact .connectReturn _ hcontroller
    · exact nomatch h
  | join =>
    simp only [step] at h
    split at h
    · rename_i client hcontroller
      obtain ⟨hreplay, heq⟩ := Option.ite_none_right_eq_some.mp h
      obtain rfl := Option.some.inj heq
      exact .join _ hcontroller hreplay
    · exact nomatch h
  | replayAwake timedOut =>
    -- the only step with a guard besides its program counter and those of the controller
    simp only [step] at h
    split at h
    · rename_i storage message hreplay
      obtain ⟨hawake, heq⟩ := Option.ite_none_right_eq_some.mp h
      obtain rfl := Option.some.inj heq
      exact .replayAwake _ _ _ hreplay hawake
    · exact nomatch h
  | _ =>
    -- the other steps test one program counter
    simp only [step] at h
    split at h
    · rename_i hpc
      obtain rfl := Option.some.inj h
      constructor <;> exact hpc
    · exact nomatch h

/-! ## Publishing -/

omit [DecidableEq Thread] in
/-- What `mosquitto_publish` touches: a message that was accepted, or queued, is
    outstanding under the id of the result, and its call has been handed over. The call on
    the client is recorded in any case. -/
theorem mosquittoPublish_spec (σ : MqttState Thread) (client : ClientId) (qos : Nat)
    (topic payload : Bytes) (retain : Bool) (source : PublicationSource Thread)
    (result : PublishResult) :
    ∃ new handed, σ.mosquittoPublish client qos topic payload retain source result =
        { σ with
          outstanding := σ.outstanding ++ new
          handed := σ.handed ++ handed
          clientEvents := σ.clientEvents ++ [.published client] } ∧
      (∀ publication ∈ new, publication.client = client ∧
        result.messageId = some publication.messageId) ∧ new.length ≤ 1 ∧
      (handed = [] ∨ handed = (σ.callOf source).toList) := by
  unfold mosquittoPublish
  cases result with
  | success messageId =>
    exact ⟨_, _, rfl, by simp [PublishResult.messageId], by simp, .inr rfl⟩
  | failure connectionLost queued =>
    cases queued with
    | none => exact ⟨[], [], by simp, by simp, by simp, .inl rfl⟩
    | some messageId =>
      exact ⟨_, _, rfl, by simp [PublishResult.messageId], by simp, .inr rfl⟩

omit [DecidableEq Thread] in
/-- What `publish` touches. It never sets `connected_`, and returns true only where the call
    of the message has been handed over. Either it does nothing at libmosquitto, or it calls
    `mosquitto_publish` on the client of the service. -/
theorem publish_spec (σ : MqttState Thread) (topic payload : Bytes) (retain : Bool)
    (source : PublicationSource Thread) (result : PublishResult) :
    ∃ connected new handed events, (σ.publish topic payload retain source result).1 =
        { σ with
          connected
          outstanding := σ.outstanding ++ new
          handed := σ.handed ++ handed
          clientEvents := σ.clientEvents ++ events } ∧
      (connected = true → σ.connected = true) ∧
      (∀ publication ∈ new, σ.client = some publication.client ∧
        result.messageId = some publication.messageId) ∧ new.length ≤ 1 ∧
      (handed = [] ∨ handed = (σ.callOf source).toList) ∧
      ((σ.publish topic payload retain source result).2 = true →
        handed = (σ.callOf source).toList) ∧
      (new = [] ∧ events = [] ∨ ∃ client, σ.client = some client ∧
        events = [.published client]) := by
  have hunchanged : ∃ connected new handed events, σ =
        { σ with
          connected
          outstanding := σ.outstanding ++ new
          handed := σ.handed ++ handed
          clientEvents := σ.clientEvents ++ events } ∧
      (connected = true → σ.connected = true) ∧
      (∀ publication ∈ new, σ.client = some publication.client ∧
        result.messageId = some publication.messageId) ∧ new.length ≤ 1 ∧
      (handed = [] ∨ handed = (σ.callOf source).toList) ∧
      (false = true → handed = (σ.callOf source).toList) ∧
      (new = [] ∧ events = [] ∨ ∃ client, σ.client = some client ∧
        events = [.published client]) :=
    ⟨σ.connected, [], [], [], by simp, id, by simp, by simp, .inl rfl, by simp,
      .inl ⟨rfl, rfl⟩⟩
  -- a call that is refused before `mosquitto_publish` changes nothing
  unfold publish
  split
  · exact hunchanged
  · rename_i client hclient
    split
    · exact hunchanged
    · rename_i hguard
      have hconnected : σ.connected = true := by
        simp only [Bool.or_eq_true, Bool.not_eq_true', not_or] at hguard
        simpa using hguard.1.1
      obtain ⟨new, handed, hstate, hnew, hlength, hhanded⟩ :=
        σ.mosquittoPublish_spec client 0 topic payload retain source result
      have hnew' : ∀ publication ∈ new, σ.client = some publication.client ∧
          result.messageId = some publication.messageId := by
        intro publication hmem
        obtain ⟨rfl, hid⟩ := hnew publication hmem
        exact ⟨hclient, hid⟩
      cases result with
      | success messageId =>
        refine ⟨σ.connected, _, _, _, rfl, id, ?_, by simp, .inr rfl, fun _ => rfl,
          .inr ⟨client, hclient, rfl⟩⟩
        intro publication hmem
        rw [List.mem_singleton.mp hmem]
        exact ⟨hclient, rfl⟩
      | failure connectionLost queued =>
        dsimp only
        rw [hstate]
        exact ⟨!connectionLost, new, handed, _, rfl, fun _ => hconnected, hnew', hlength,
          hhanded, fun h => absurd h Bool.false_ne_true, .inr ⟨client, hclient, rfl⟩⟩

/-! ## A new service -/

/-- A new service whose offline storage is a new database. -/
def fresh : MqttState Thread where
  client := none
  loopRunning := false
  connected := false
  initialConnectionCompleted := false
  stopping := false
  replayRequested := false
  replaying := false
  replayMessageId := 0
  replayPublishAcknowledged := false
  offlineStorage := some 0
  replay := .none
  controller := .idle
  forwards := fun _ => .idle
  storages := fun _ => newStorage
  nextClient := 0
  outstanding := []
  puts := fun _ => []
  rowCall := fun _ _ => none
  handed := []
  enqueued := fun _ => []
  removed := fun _ => []
  completed := []
  clientEvents := []

omit [DecidableEq Thread] in
theorem fresh_initial : (fresh : MqttState Thread).Initial := by
  constructor <;> intros <;> rfl

end MqttState

/-- A tag update of one device. -/
def tagMessage (value : TagValue) : Message :=
  ⟨ascii "device.tag.updated", ascii "d", ascii "n", value, .good, 0⟩

/-- A `forwardMessage` call that buffers its message. -/
def bufferSteps (thread : Bool) (message : Message) : List (MqttAction Bool) :=
  [.forward thread message, .forwardDecide thread, .forwardEnqueue thread 0 true,
    .forwardRequest thread]

/-- A `forwardMessage` call that publishes its message. -/
def publishSteps (thread : Bool) (message : Message) (messageId : Nat) :
    List (MqttAction Bool) :=
  [.forward thread message, .forwardDecide thread, .forwardPublish thread (.success messageId)]

/-- The start of a pass of `replayLoop`, up to the publication of a row. -/
def replaySteps (messageId : Nat) : List (MqttAction Bool) :=
  [.replayWait, .replayCheck, .replayLoad true, .replayPublish (.success messageId)]

/-- The rest of it, if the row is acknowledged, up to the next load. -/
def acknowledgeSteps (messageId : Nat) : List (MqttAction Bool) :=
  [.handlePublish 0 messageId, .replayAwake false, .replayRemove true, .replayCheck,
    .replayLoad true]

/-- A message is buffered, and then the connection is accepted. -/
def backlogSteps : List (MqttAction Bool) :=
  [[.connect .started], bufferSteps false (tagMessage (.int8 1)),
    [.handleConnect 0 true]].flatten

end EdgeLink
