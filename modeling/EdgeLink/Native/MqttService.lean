import EdgeLink.ForStd.TransitionSystem
import EdgeLink.Native.MqttPayload

/-! # MQTT service

The threads of `mqtt_service.cpp`: publishers in `forwardMessage`, the replay thread, the
network thread with its callbacks, and one controller that connects and disconnects. A
step is one critical section of `mutex_`, one call of the storage service, or one test of
a condition variable; between them any other thread can move.

libmosquitto is outside: the action says whether `mosquitto_publish` accepts a message and
which id it gets, and callbacks come at any time, for any client and any id. A wait on a
condition variable can end at any time, so lost and spurious wake-ups are both covered.

The last fields of `MqttState` record what has happened; no step reads them. -/

namespace EdgeLink

open CText

/-- `MqttConfig`. -/
structure MqttConfig where
  host : Bytes := ascii "127.0.0.1"
  port : Nat := 1883
  clientId : Bytes := ascii "edgelink"
  connectTimeoutMs : Int := 3000
  reconnectInitialDelaySeconds : Nat := 1
  reconnectMaximumDelaySeconds : Nat := 30
  publishAckTimeoutMs : Int := 3000
  topicPrefix : Bytes := ascii "edgelink/devices"

/-- The check of `connect`. -/
def MqttConfig.isInvalid (config : MqttConfig) : Bool :=
  config.host.isEmpty || config.clientId.isEmpty || config.port == 0 ||
    config.connectTimeoutMs ≤ 0 || config.publishAckTimeoutMs ≤ 0 ||
    config.reconnectInitialDelaySeconds == 0 ||
    config.reconnectMaximumDelaySeconds < config.reconnectInitialDelaySeconds

/-- The result of the `n`-th `mosquitto_new`. -/
abbrev ClientId := Nat

/-- A `StorageService` object. -/
abbrev StorageId := Nat

/-- `std::numeric_limits<int>::max()`. -/
def intMax : Nat := 2 ^ 31 - 1

/-- The `number`-th `forwardMessage` call of a thread that is not ignored. -/
structure CallId (Thread : Type) where
  thread : Thread
  number : Nat
deriving DecidableEq

/-- Where a published message comes from. -/
inductive PublicationSource (Thread : Type) where
  | forwarded (call : CallId Thread)
  | outboxRow (storage : StorageId) (id : Nat)
  | other
deriving DecidableEq

/-- A message that libmosquitto has taken. -/
structure Publication (Thread : Type) where
  client : ClientId
  messageId : Nat
  qos : Nat
  topic : Bytes
  payload : Bytes
  retain : Bool
  source : PublicationSource Thread
deriving DecidableEq

/-- What `mosquitto_publish` returns. A failure can be a lost connection, and the message
    can be queued all the same. -/
inductive PublishResult where
  | success (messageId : Nat)
  | failure (connectionLost : Bool) (queued : Option Nat)
deriving DecidableEq

/-- The message id that the call has used. -/
def PublishResult.messageId : PublishResult → Option Nat
  | .success messageId => some messageId
  | .failure _ queued => queued

/-- Where the replay thread is. `storage` is the local variable of `replayLoop` and
    `message` the front of its `pending`. -/
inductive ReplayPc where
  | none
  | wait
  | blocked
  | checkConnected (storage : StorageId)
  | load (storage : StorageId)
  | publish (storage : StorageId) (message : PendingMqttMessage)
  | awaitAck (storage : StorageId) (message : PendingMqttMessage)
  | remove (storage : StorageId) (message : PendingMqttMessage)
  | endPass
  | finished
deriving DecidableEq

/-- Where a publisher thread is in `forwardMessage`. `offlineStorage` is the local
    variable of that name. -/
inductive ForwardPc where
  | idle
  | decide (message : Message)
  | publish (message : Message) (offlineStorage : Option StorageId)
  | enqueue (message : Message) (offlineStorage : Option StorageId)
  | request (message : Message)
deriving DecidableEq

/-- Where the controller is in `connect` or `disconnect`. -/
inductive ControllerPc where
  | idle
  | connecting
  | joining (client : Option ClientId)
  | destroying (client : ClientId)
deriving DecidableEq

/-- What the replay thread and the clients do. -/
inductive ClientEvent where
  | loopStarted
  | loopReturned
  | loopJoined
  /-- `disconnect` has taken the client out of `client_`. -/
  | clientTaken (client : ClientId)
  /-- `mosquitto_publish` is called. -/
  | published (client : ClientId)
deriving DecidableEq

/-- How far `connect` gets. -/
inductive ConnectOutcome where
  | libraryNotReady
  | clientNotCreated
  | connectFailed
  | loopFailed
  | started

structure MqttState (Thread : Type) where
  -- members
  client : Option ClientId
  loopRunning : Bool
  connected : Bool
  initialConnectionCompleted : Bool
  stopping : Bool
  replayRequested : Bool
  replaying : Bool
  replayMessageId : Nat
  replayPublishAcknowledged : Bool
  offlineStorage : Option StorageId
  -- threads
  replay : ReplayPc
  controller : ControllerPc
  forwards : Thread → ForwardPc
  -- the storage services, and libmosquitto's clients and unfinished messages
  storages : StorageId → StorageService
  nextClient : ClientId
  outstanding : List (Publication Thread)
  -- record: messages given to `forwardMessage`, the call of an outbox row, calls whose
  -- message libmosquitto has taken, rows enqueued and removed, finished messages, what the
  -- replay thread and the clients have done
  puts : Thread → List Message
  rowCall : StorageId → Nat → Option (CallId Thread)
  handed : List (CallId Thread)
  enqueued : StorageId → List PendingMqttMessage
  removed : StorageId → List Nat
  completed : List (Publication Thread)
  clientEvents : List ClientEvent

/-- The steps. -/
inductive MqttAction (Thread : Type) where
  | setOfflineStorage (storage : Option StorageId)
  | connect (outcome : ConnectOutcome)
  | connectReturn (timedOut : Bool)
  | disconnect
  | join
  | destroy
  | handleConnect (client : ClientId) (accepted : Bool)
  | handleDisconnect (client : ClientId)
  | handlePublish (client : ClientId) (messageId : Nat)
  | publish (topic payload : Bytes) (retain : Bool) (result : PublishResult)
  | forward (thread : Thread) (message : Message)
  | forwardDecide (thread : Thread)
  | forwardPublish (thread : Thread) (result : PublishResult)
  | forwardEnqueue (thread : Thread) (now : Int64) (sqlite : Bool)
  | forwardRequest (thread : Thread)
  | replayWait
  | replayWake
  | replayCheck
  | replayLoad (sqlite : Bool)
  | replayPublish (result : PublishResult)
  | replayAwake (timedOut : Bool)
  | replayRemove (sqlite : Bool)
  | replayEndPass

namespace MqttState

variable {Thread : Type}

/-! ## The controller -/

def setOfflineStorage (σ : MqttState Thread) (storage : Option StorageId) :
    MqttState Thread :=
  { σ with
    offlineStorage := storage
    replayRequested := σ.replayRequested || (σ.connected && storage.isSome) }

/-- `connect` up to its wait for the first CONNACK. -/
def connect (config : MqttConfig) (σ : MqttState Thread) (outcome : ConnectOutcome) :
    MqttState Thread :=
  if σ.connected || σ.loopRunning || config.isInvalid then σ
  else match outcome with
  | .libraryNotReady => σ
  | .clientNotCreated => { σ with client := none }
  -- the client is destroyed again
  | .connectFailed | .loopFailed =>
    { σ with
      client := none
      nextClient := σ.nextClient + 1
      initialConnectionCompleted := false
      stopping := false }
  | .started =>
    -- the network loop and the replay thread run; a stale request is dropped
    { σ with
      client := some σ.nextClient
      nextClient := σ.nextClient + 1
      initialConnectionCompleted := false
      stopping := false
      loopRunning := true
      replayRequested := false
      replaying := false
      replay := .wait
      controller := .connecting
      clientEvents := σ.clientEvents ++ [.loopStarted] }

/-- The critical section of `disconnect`. -/
def disconnect (σ : MqttState Thread) : MqttState Thread :=
  { σ with
    stopping := true
    connected := false
    initialConnectionCompleted := false
    client := none
    loopRunning := false
    replayRequested := false
    controller := .joining σ.client
    clientEvents := σ.clientEvents ++ (σ.client.map .clientTaken).toList }

/-- `replayThread_.join()`, where there is a thread. -/
def join (σ : MqttState Thread) (client : Option ClientId) : MqttState Thread :=
  { σ with
    replay := .none
    controller := match client with
      | none => .idle
      | some client => .destroying client
    clientEvents := σ.clientEvents ++ if σ.replay = .none then [] else [.loopJoined] }

/-- `mosquitto_destroy`. The messages of the client are gone. -/
def destroy (σ : MqttState Thread) (client : ClientId) : MqttState Thread :=
  { σ with
    outstanding := σ.outstanding.filter fun publication => publication.client ≠ client
    controller := .idle }

/-! ## Callbacks -/

def handleConnect (σ : MqttState Thread) (client : ClientId) (accepted : Bool) :
    MqttState Thread :=
  -- callbacks of an older client, or after `disconnect`, do nothing
  if σ.client ≠ some client || σ.stopping then σ
  else
    { σ with
      connected := accepted
      initialConnectionCompleted := true
      replayRequested := σ.replayRequested || (accepted && σ.offlineStorage.isSome) }

def handleDisconnect (σ : MqttState Thread) (client : ClientId) : MqttState Thread :=
  if σ.client ≠ some client then σ else { σ with connected := false }

/-- The PUBACK of a message, or the end of a QoS 0 message. -/
def handlePublish (σ : MqttState Thread) (client : ClientId) (messageId : Nat) :
    MqttState Thread :=
  { σ with
    replayPublishAcknowledged := σ.replayPublishAcknowledged ||
      (σ.client = some client && σ.replayMessageId = messageId)
    outstanding := σ.outstanding.filter fun publication =>
      ¬ (publication.client = client ∧ publication.messageId = messageId)
    completed := σ.completed ++ σ.outstanding.filter fun publication =>
      publication.client = client ∧ publication.messageId = messageId }

/-! ## Publishing -/

/-- The `forwardMessage` call that a message comes from. -/
def callOf (σ : MqttState Thread) : PublicationSource Thread → Option (CallId Thread)
  | .forwarded call => some call
  | .outboxRow storage id => σ.rowCall storage id
  | .other => none

/-- `mosquitto_publish`. -/
def mosquittoPublish (σ : MqttState Thread) (client : ClientId) (qos : Nat)
    (topic payload : Bytes) (retain : Bool) (source : PublicationSource Thread)
    (result : PublishResult) : MqttState Thread :=
  let publication (messageId : Nat) : Publication Thread :=
    { client, messageId, qos, topic := cString topic, payload, retain, source }
  let called := { σ with clientEvents := σ.clientEvents ++ [.published client] }
  match result with
  | .success messageId =>
    { called with
      outstanding := σ.outstanding ++ [publication messageId]
      handed := σ.handed ++ (σ.callOf source).toList }
  | .failure _ none => called
  | .failure _ (some messageId) =>
    { called with
      outstanding := σ.outstanding ++ [publication messageId]
      handed := σ.handed ++ (σ.callOf source).toList }

/-- `MqttService::publish`. -/
def publish (σ : MqttState Thread) (topic payload : Bytes) (retain : Bool)
    (source : PublicationSource Thread) (result : PublishResult) : MqttState Thread × Bool :=
  match σ.client with
  | none => (σ, false)
  | some client =>
    if !σ.connected || topic.isEmpty || intMax < payload.length then (σ, false)
    else
      let published := σ.mosquittoPublish client 0 topic payload retain source result
      match result with
      | .success _ => (published, true)
      -- `MOSQ_ERR_NO_CONN` and `MOSQ_ERR_CONN_LOST` clear `connected_`
      | .failure connectionLost _ =>
        ({ published with connected := !connectionLost }, false)

/-! ## The replay thread -/

/-- The critical section at the start of the loop of `replayLoop`. -/
def replayWait (σ : MqttState Thread) : MqttState Thread :=
  if σ.stopping then
    { σ with
      replay := .finished
      clientEvents := σ.clientEvents ++ [.loopReturned] }
  else match σ.offlineStorage with
  | none => { σ with replay := .blocked }
  | some storage =>
    -- the request is cleared now, whatever becomes of the pass
    if σ.connected && σ.replayRequested then
      { σ with replayRequested := false, replaying := true, replay := .checkConnected storage }
    else { σ with replay := .blocked }

/-- `isConnected` in the condition of the inner loop. -/
def replayCheck (σ : MqttState Thread) (storage : StorageId) : MqttState Thread :=
  { σ with replay := if σ.connected then .load storage else .endPass }

def replayLoad (σ : MqttState Thread) (storage : StorageId) (sqlite : Bool) :
    MqttState Thread :=
  match (σ.storages storage).loadPendingMqttMessages 1 sqlite with
  | [] => { σ with replay := .endPass }
  | message :: _ => { σ with replay := .publish storage message }

/-- `publishWithAcknowledgement` up to its wait. -/
def replayPublish (σ : MqttState Thread) (storage : StorageId) (message : PendingMqttMessage)
    (result : PublishResult) : MqttState Thread :=
  match σ.client with
  | none => { σ with replay := .endPass }
  | some client =>
    if !σ.connected || σ.stopping || message.topic.isEmpty ||
        intMax < message.payload.length then
      { σ with replay := .endPass }
    else
      let published := σ.mosquittoPublish client 1 message.topic message.payload message.retain
        (.outboxRow storage message.id) result
      -- id and flag are those of this attempt from here on
      match result with
      | .success messageId =>
        { published with
          replayMessageId := messageId
          replayPublishAcknowledged := false
          replay := .awaitAck storage message }
      | .failure _ _ =>
        { published with
          replayMessageId := 0
          replayPublishAcknowledged := false
          replay := .endPass }

/-- The end of the wait of `publishWithAcknowledgement`: its predicate holds, or it has
    timed out. -/
def replayAwake (σ : MqttState Thread) (storage : StorageId) (message : PendingMqttMessage)
    (timedOut : Bool) : Option (MqttState Thread) :=
  if timedOut || σ.stopping || !σ.connected || σ.replayPublishAcknowledged then
    some { σ with
      replayMessageId := 0
      replayPublishAcknowledged := false
      replay := if σ.replayPublishAcknowledged then .remove storage message else .endPass }
  else none

def replayRemove (σ : MqttState Thread) (storage : StorageId) (message : PendingMqttMessage)
    (sqlite : Bool) : MqttState Thread :=
  match (σ.storages storage).removePendingMqttMessage message.id sqlite with
  | (service, true) =>
    { σ with
      storages := Function.update σ.storages storage service
      removed := Function.update σ.removed storage (σ.removed storage ++ [message.id])
      replay := .checkConnected storage }
  | (service, false) =>
    { σ with
      storages := Function.update σ.storages storage service
      replay := .endPass }

def replayEndPass (σ : MqttState Thread) : MqttState Thread :=
  { σ with replaying := false, replay := .wait }

/-! ## Publishers -/

variable [DecidableEq Thread]

def setForward (σ : MqttState Thread) (thread : Thread) (pc : ForwardPc) : MqttState Thread :=
  { σ with forwards := Function.update σ.forwards thread pc }

/-- The call that a thread is in. -/
def currentCall (σ : MqttState Thread) (thread : Thread) : CallId Thread :=
  ⟨thread, (σ.puts thread).length - 1⟩

/-- The start of `forwardMessage`. A message without device or tag name is ignored. -/
def forward (σ : MqttState Thread) (thread : Thread) (message : Message) :
    MqttState Thread :=
  if message.deviceId.isEmpty || message.tagName.isEmpty then σ
  else
    { σ with
      puts := Function.update σ.puts thread (σ.puts thread ++ [message])
      forwards := Function.update σ.forwards thread (.decide message) }

/-- The first critical section of `forwardMessage`. -/
def forwardDecide (σ : MqttState Thread) (thread : Thread) (message : Message) :
    MqttState Thread :=
  -- whether the outbox is empty plays no role
  let shouldBuffer := !σ.connected || σ.replaying
  σ.setForward thread
    (if shouldBuffer then .enqueue message σ.offlineStorage
      else .publish message σ.offlineStorage)

def forwardPublish (config : MqttConfig) (format : FloatFormat) (σ : MqttState Thread)
    (thread : Thread) (message : Message) (offlineStorage : Option StorageId)
    (result : PublishResult) : MqttState Thread :=
  match σ.publish (forwardTopic config.topicPrefix message) (messageToJson format message) false
      (.forwarded (σ.currentCall thread)) result with
  | (published, true) => published.setForward thread .idle
  | (published, false) => published.setForward thread (.enqueue message offlineStorage)

def forwardEnqueue (config : MqttConfig) (format : FloatFormat) (σ : MqttState Thread)
    (thread : Thread) (message : Message) (offlineStorage : Option StorageId) (now : Int64)
    (sqlite : Bool) : MqttState Thread :=
  match offlineStorage with
  -- without storage, or where SQLite refuses, the message is lost
  | none => σ.setForward thread .idle
  | some storage =>
    match (σ.storages storage).enqueueMqttMessage (forwardTopic config.topicPrefix message)
        (messageToJson format message) false now sqlite with
    | (_, false) => σ.setForward thread .idle
    | (service, true) =>
      { σ with
        storages := Function.update σ.storages storage service
        rowCall := Function.update σ.rowCall storage (Function.update (σ.rowCall storage)
          service.mqttOutbox.sequence (some (σ.currentCall thread)))
        enqueued := Function.update σ.enqueued storage (σ.enqueued storage ++
          [StorageService.enqueuedMessage service.mqttOutbox.sequence
            (forwardTopic config.topicPrefix message) (messageToJson format message) false now])
        forwards := Function.update σ.forwards thread (.request message) }

/-- The last critical section of `forwardMessage`. -/
def forwardRequest (σ : MqttState Thread) (thread : Thread) : MqttState Thread :=
  { σ with
    replayRequested := σ.replayRequested || σ.connected
    forwards := Function.update σ.forwards thread .idle }

/-! ## Steps -/

/-- One step; `none` where its thread is at another point. -/
def step (config : MqttConfig) (format : FloatFormat) (σ : MqttState Thread) :
    MqttAction Thread → Option (MqttState Thread)
  | .setOfflineStorage storage => some (σ.setOfflineStorage storage)
  | .connect outcome =>
    match σ.controller with
    | .idle => some (σ.connect config outcome)
    | _ => none
  | .connectReturn timedOut =>
    match σ.controller with
    | .connecting =>
      if σ.initialConnectionCompleted || timedOut then some { σ with controller := .idle }
      else none
    | _ => none
  | .disconnect =>
    match σ.controller with
    | .idle => some σ.disconnect
    | _ => none
  | .join =>
    match σ.controller with
    | .joining client =>
      if σ.replay = .none ∨ σ.replay = .finished then some (σ.join client) else none
    | _ => none
  | .destroy =>
    match σ.controller with
    | .destroying client => some (σ.destroy client)
    | _ => none
  | .handleConnect client accepted => some (σ.handleConnect client accepted)
  | .handleDisconnect client => some (σ.handleDisconnect client)
  | .handlePublish client messageId => some (σ.handlePublish client messageId)
  | .publish topic payload retain result =>
    some (σ.publish topic payload retain .other result).1
  | .forward thread message =>
    match σ.forwards thread with
    | .idle => some (σ.forward thread message)
    | _ => none
  | .forwardDecide thread =>
    match σ.forwards thread with
    | .decide message => some (σ.forwardDecide thread message)
    | _ => none
  | .forwardPublish thread result =>
    match σ.forwards thread with
    | .publish message offlineStorage =>
      some (σ.forwardPublish config format thread message offlineStorage result)
    | _ => none
  | .forwardEnqueue thread now sqlite =>
    match σ.forwards thread with
    | .enqueue message offlineStorage =>
      some (σ.forwardEnqueue config format thread message offlineStorage now sqlite)
    | _ => none
  | .forwardRequest thread =>
    match σ.forwards thread with
    | .request _ => some (σ.forwardRequest thread)
    | _ => none
  | .replayWait =>
    match σ.replay with
    | .wait => some σ.replayWait
    | _ => none
  | .replayWake =>
    match σ.replay with
    | .blocked => some { σ with replay := .wait }
    | _ => none
  | .replayCheck =>
    match σ.replay with
    | .checkConnected storage => some (σ.replayCheck storage)
    | _ => none
  | .replayLoad sqlite =>
    match σ.replay with
    | .load storage => some (σ.replayLoad storage sqlite)
    | _ => none
  | .replayPublish result =>
    match σ.replay with
    | .publish storage message => some (σ.replayPublish storage message result)
    | _ => none
  | .replayAwake timedOut =>
    match σ.replay with
    | .awaitAck storage message => σ.replayAwake storage message timedOut
    | _ => none
  | .replayRemove sqlite =>
    match σ.replay with
    | .remove storage message => some (σ.replayRemove storage message sqlite)
    | _ => none
  | .replayEndPass =>
    match σ.replay with
    | .endPass => some σ.replayEndPass
    | _ => none

/-- A service that was never connected, with storage services in any state. -/
structure Initial (σ : MqttState Thread) : Prop where
  client : σ.client = none
  loopRunning : σ.loopRunning = false
  connected : σ.connected = false
  stopping : σ.stopping = false
  replayRequested : σ.replayRequested = false
  replaying : σ.replaying = false
  replay : σ.replay = .none
  controller : σ.controller = .idle
  forwards : ∀ thread, σ.forwards thread = .idle
  outstanding : σ.outstanding = []
  puts : ∀ thread, σ.puts thread = []
  rowCall : ∀ storage id, σ.rowCall storage id = none
  handed : σ.handed = []
  -- rows of earlier runs count as enqueued
  enqueued : ∀ storage, σ.enqueued storage =
    (σ.storages storage).mqttOutbox.rows.map StorageService.pendingMessage
  removed : ∀ storage, σ.removed storage = []
  completed : σ.completed = []
  clientEvents : σ.clientEvents = []

end MqttState

/-- The MQTT service with its threads, in any interleaving. -/
def mqttSystem (config : MqttConfig) (format : FloatFormat) (Thread : Type)
    [DecidableEq Thread] : TransitionSystem (MqttState Thread) (MqttAction Thread) where
  init := MqttState.Initial
  step := MqttState.step config format

end EdgeLink
