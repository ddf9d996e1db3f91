import EdgeLink.Spec.MqttReplayThread

/-!
# The lifetime of an MQTT client

Which client `connected_` is about, when a replay thread may be started, and on which
client anything is published, in every interleaving of the controller with the publishers,
the replay thread and the callbacks. The service records in `clientEvents` what is done to
the replay thread and to the clients, each where it is done.

* `ReplayThread.next`: the life of one replay thread at a time. A second start before the
  join has no next state.
* `PublishedWhileHeld`: nothing is published on a client that was taken away before.
* `LifetimeInv`: the six flags, the client and the events together.
-/

namespace EdgeLink

/-! ## What the events may be -/

/-- `replayThread_`. -/
inductive ReplayThread where
  | absent
  | running
  | returned
deriving DecidableEq

/-- `replayThread_` after an event: a thread is started where there is none, returns while
    it runs, and is joined once it has returned. -/
def ReplayThread.next : ReplayThread → ClientEvent → Option ReplayThread
  | .absent, .loopStarted => some .running
  | .running, .loopReturned => some .returned
  | .returned, .loopJoined => some .absent
  | _, .loopStarted => none
  | _, .loopReturned => none
  | _, .loopJoined => none
  | thread, .clientTaken _ => some thread
  | thread, .published _ => some thread

/-- `replayThread_` after the events of a run, if each of them was allowed. -/
def ReplayThread.after (events : List ClientEvent) : Option ReplayThread :=
  events.foldlM ReplayThread.next .absent

/-- Nothing is published on a client after it was taken away. -/
def PublishedWhileHeld (events : List ClientEvent) : Prop :=
  ∀ before client later, events = before ++ .published client :: later →
    .clientTaken client ∉ before

theorem ReplayThread.after_append_singleton (events : List ClientEvent) (event : ClientEvent) :
    after (events ++ [event]) = (after events).bind fun thread => thread.next event := by
  simp [after, List.foldlM_append]

/-- A new event only has to be looked at if it is a publication. -/
theorem publishedWhileHeld_append_singleton {events : List ClientEvent} {event : ClientEvent}
    (h : PublishedWhileHeld events)
    (hevent : ∀ client, event = .published client → .clientTaken client ∉ events) :
    PublishedWhileHeld (events ++ [event]) := by
  intro before client later hsplit
  rcases List.append_eq_append_iff.mp hsplit with
    ⟨middle, hbefore, hlast⟩ | ⟨middle, hevents, hlast⟩
  · -- the publication is the new event
    cases middle with
    | nil =>
      obtain ⟨rfl, -⟩ := List.cons.inj hlast
      rw [hbefore, List.append_nil]
      exact hevent client rfl
    | cons first rest =>
      have hlength := congrArg List.length hlast
      simp at hlength
  · cases middle with
    | nil =>
      obtain ⟨heq, -⟩ := List.cons.inj hlast
      rw [hevents, List.append_nil] at hevent
      exact hevent client heq.symm
    | cons first rest =>
      obtain ⟨rfl, -⟩ := List.cons.inj hlast
      exact h before client rest hevents

/-! ## The invariant -/

/-- `replayThread_` for the point that `replayLoop` is at. -/
def ReplayPc.thread : ReplayPc → ReplayThread
  | .none => .absent
  | .finished => .returned
  | _ => .running

variable {Thread : Type}

/-- The flags, the client and the events so far. -/
structure LifetimeInv (σ : MqttState Thread) : Prop where
  connected : σ.connected = true → σ.client.isSome = true
  client : σ.client.isSome = true → σ.loopRunning = true ∧ σ.stopping = false
  joined : σ.loopRunning = false → σ.controller.isJoining = false → σ.replay.thread = .absent
  numbered : ∀ client, σ.client = some client → client < σ.nextClient
  taken : ∀ client, .clientTaken client ∈ σ.clientEvents →
    client < σ.nextClient ∧ σ.client ≠ some client
  thread : ReplayThread.after σ.clientEvents = some σ.replay.thread
  published : PublishedWhileHeld σ.clientEvents
  recorded : ∀ publication, publication ∈ σ.outstanding ∨ publication ∈ σ.completed →
    .published publication.client ∈ σ.clientEvents

/-- The initial states satisfy the invariant. -/
theorem LifetimeInv.initial {σ : MqttState Thread} (h : σ.Initial) : LifetimeInv σ where
  connected := by simp [h.connected]
  client := by simp [h.client]
  joined := by simp [h.replay, ReplayPc.thread]
  numbered := by simp [h.client]
  taken := by simp [h.clientEvents]
  thread := by rw [h.replay, h.clientEvents]; rfl
  published := by simp [PublishedWhileHeld, h.clientEvents]
  recorded := by simp [h.outstanding, h.completed]

namespace LifetimeInv

variable {σ : MqttState Thread}

/-- A step that leaves client, network loop, replay thread and libmosquitto alone. -/
theorem frame (h : LifetimeInv σ)
    {connected initialConnectionCompleted replayRequested replaying : Bool}
    {replayMessageId : Nat} {replayPublishAcknowledged : Bool}
    {offlineStorage : Option StorageId} {replay : ReplayPc} {controller : ControllerPc}
    {forwards : Thread → ForwardPc} {storages : StorageId → StorageService}
    {puts : Thread → List Message} {rowCall : StorageId → Nat → Option (CallId Thread)}
    {handed : List (CallId Thread)} {enqueued : StorageId → List PendingMqttMessage}
    {removed : StorageId → List Nat} (hthread : replay.thread = σ.replay.thread)
    (hcontroller : controller.isJoining = σ.controller.isJoining)
    (hconnected : connected = true → σ.client.isSome = true) :
    LifetimeInv { σ with
      connected, initialConnectionCompleted, replayRequested, replaying, replayMessageId
      replayPublishAcknowledged, offlineStorage, replay, controller, forwards, storages, puts
      rowCall, handed, enqueued, removed } where
  connected := hconnected
  client := h.client
  joined := by dsimp only; rw [hcontroller, hthread]; exact h.joined
  numbered := h.numbered
  taken := h.taken
  thread := by dsimp only; rw [hthread]; exact h.thread
  published := h.published
  recorded := h.recorded

/-- libmosquitto finishes or drops messages. -/
theorem setPublications (h : LifetimeInv σ) (outstanding completed : List (Publication Thread))
    (hsubset : ∀ publication, publication ∈ outstanding ∨ publication ∈ completed →
      publication ∈ σ.outstanding ∨ publication ∈ σ.completed) :
    LifetimeInv { σ with outstanding, completed } where
  connected := h.connected
  client := h.client
  joined := h.joined
  numbered := h.numbered
  taken := h.taken
  thread := h.thread
  published := h.published
  recorded := fun publication hmem => h.recorded publication (hsubset publication hmem)

/-- After an event that takes no client away, the clients that were taken are those of
    before. -/
theorem taken_append_singleton (h : LifetimeInv σ) {event : ClientEvent}
    (hevent : ∀ client, event ≠ .clientTaken client) {client : ClientId}
    (hmem : .clientTaken client ∈ σ.clientEvents ++ [event]) :
    client < σ.nextClient ∧ σ.client ≠ some client := by
  rw [List.mem_append, List.mem_singleton] at hmem
  exact h.taken client (hmem.resolve_right fun heq => hevent client heq.symm)

/-- A publication on the client of the service. -/
theorem publication (h : LifetimeInv σ) {client : ClientId} (hclient : σ.client = some client)
    (new : List (Publication Thread)) (hnew : ∀ publication ∈ new, publication.client = client) :
    LifetimeInv { σ with
      outstanding := σ.outstanding ++ new
      clientEvents := σ.clientEvents ++ [.published client] } := by
  constructor
  case connected => exact h.connected
  case client => exact h.client
  case joined => exact h.joined
  case numbered => exact h.numbered
  case taken => exact fun taken hmem => h.taken_append_singleton (by simp) hmem
  case thread =>
    rw [ReplayThread.after_append_singleton, h.thread]
    cases σ.replay.thread <;> rfl
  case published =>
    apply publishedWhileHeld_append_singleton h.published
    intro held heq htaken
    obtain rfl := ClientEvent.published.inj heq
    exact (h.taken client htaken).2 hclient
  case recorded =>
    rintro publication (hout | hcompleted)
    · rcases List.mem_append.mp hout with hold | hnow
      · exact List.mem_append_left _ (h.recorded publication (.inl hold))
      · rw [hnew publication hnow]
        exact List.mem_append_right _ (List.mem_singleton_self _)
    · exact List.mem_append_left _ (h.recorded publication (.inr hcompleted))

/-- `connect` goes on only where no replay thread is left, and its client is a new one. -/
theorem connect (h : LifetimeInv σ) (config : MqttConfig) (outcome : ConnectOutcome)
    (hcontroller : σ.controller = .idle) : LifetimeInv (σ.connect config outcome) := by
  by_cases hguard : (σ.connected || σ.loopRunning || config.isInvalid) = true
  · -- the call returns at once
    simp only [MqttState.connect, if_pos hguard]
    exact h
  · obtain ⟨hdown, hloop⟩ := loopRunning_of_connect_guard hguard
    have habsent := h.joined hloop (by rw [hcontroller]; rfl)
    simp only [MqttState.connect, if_neg hguard]
    -- the client is destroyed again, or was never made
    have hfailed {nextClient : ClientId} {initialConnectionCompleted stopping : Bool}
        (hnext : σ.nextClient ≤ nextClient) : LifetimeInv { σ with
          client := none, nextClient, initialConnectionCompleted, stopping } := by
      constructor
      case connected => rw [hdown]; exact fun heq => absurd heq Bool.false_ne_true
      case client => exact fun heq => absurd heq Bool.false_ne_true
      case joined => exact fun _ _ => habsent
      case numbered => exact fun _ heq => absurd heq (Option.some_ne_none _).symm
      case taken =>
        exact fun client hmem =>
          ⟨lt_of_lt_of_le (h.taken client hmem).1 hnext, (Option.some_ne_none _).symm⟩
      case thread => exact h.thread
      case published => exact h.published
      case recorded => exact h.recorded
    cases outcome with
    | libraryNotReady => exact h
    | clientNotCreated => exact hfailed le_rfl
    | connectFailed => exact hfailed (Nat.le_succ _)
    | loopFailed => exact hfailed (Nat.le_succ _)
    | started =>
      constructor
      case connected => exact fun _ => rfl
      case client => exact fun _ => ⟨rfl, rfl⟩
      case joined => exact fun heq => absurd heq.symm Bool.false_ne_true
      case numbered =>
        intro client hclient
        obtain rfl := Option.some.inj hclient
        exact Nat.lt_succ_self _
      case taken =>
        -- the new client has a number that no client had before
        intro client hmem
        have hlt := (h.taken_append_singleton (by simp) hmem).1
        refine ⟨Nat.lt_succ_of_lt hlt, fun heq => ?_⟩
        exact absurd (Option.some.inj heq) (Nat.ne_of_gt hlt)
      case thread =>
        rw [ReplayThread.after_append_singleton, h.thread, habsent]
        rfl
      case published =>
        exact publishedWhileHeld_append_singleton h.published fun _ heq => by cases heq
      case recorded =>
        exact fun publication hmem => List.mem_append_left _ (h.recorded publication hmem)

/-- `disconnect` takes the client away for good. -/
theorem disconnect (h : LifetimeInv σ) : LifetimeInv σ.disconnect := by
  constructor
  case connected => exact fun heq => absurd heq Bool.false_ne_true
  case client => exact fun heq => absurd heq Bool.false_ne_true
  case joined => exact fun _ heq => absurd heq.symm Bool.false_ne_true
  case numbered => exact fun _ heq => absurd heq (Option.some_ne_none _).symm
  case taken =>
    intro client hmem
    refine ⟨?_, (Option.some_ne_none _).symm⟩
    rcases List.mem_append.mp hmem with hbefore | hnow
    · exact (h.taken client hbefore).1
    · -- the client that is taken now is the one the service held
      obtain ⟨held, hheld, heq⟩ := Option.map_eq_some_iff.mp (Option.mem_toList.mp hnow)
      obtain rfl := ClientEvent.clientTaken.inj heq
      exact h.numbered held hheld
  case thread =>
    show ReplayThread.after (σ.clientEvents ++ (σ.client.map ClientEvent.clientTaken).toList) =
      some σ.replay.thread
    cases σ.client with
    | none =>
      rw [Option.map_none, Option.toList_none, List.append_nil]
      exact h.thread
    | some client =>
      rw [Option.map_some, Option.toList_some, ReplayThread.after_append_singleton, h.thread]
      cases σ.replay.thread <;> rfl
  case published =>
    show PublishedWhileHeld (σ.clientEvents ++ (σ.client.map ClientEvent.clientTaken).toList)
    cases σ.client with
    | none =>
      rw [Option.map_none, Option.toList_none, List.append_nil]
      exact h.published
    | some client =>
      exact publishedWhileHeld_append_singleton h.published fun _ heq => by cases heq
  case recorded =>
    exact fun publication hmem => List.mem_append_left _ (h.recorded publication hmem)

/-- The controller has joined the replay thread, or there was none. -/
theorem join (h : LifetimeInv σ) (client : Option ClientId)
    (hreplay : σ.replay = .none ∨ σ.replay = .finished) : LifetimeInv (σ.join client) := by
  -- joining changes the controller only; what is left is what the events say
  suffices hevents : (∀ taken, .clientTaken taken ∈ (σ.join client).clientEvents →
      .clientTaken taken ∈ σ.clientEvents) ∧
      ReplayThread.after (σ.join client).clientEvents = some .absent ∧
      PublishedWhileHeld (σ.join client).clientEvents ∧
      ∀ event ∈ σ.clientEvents, event ∈ (σ.join client).clientEvents by
    obtain ⟨htaken, hthread, hpublished, hkept⟩ := hevents
    constructor
    case connected => exact h.connected
    case client => exact h.client
    case joined => exact fun _ _ => rfl
    case numbered => exact h.numbered
    case taken => exact fun taken hmem => h.taken taken (htaken taken hmem)
    case thread => exact hthread
    case published => exact hpublished
    case recorded => exact fun publication hmem => hkept _ (h.recorded publication hmem)
  dsimp only [MqttState.join]
  cases hreplay with
  | inl hnone =>
    rw [if_pos hnone, List.append_nil]
    refine ⟨fun _ => id, ?_, h.published, fun _ => id⟩
    rw [h.thread, hnone]
    rfl
  | inr hfinished =>
    rw [if_neg (by rw [hfinished]; exact ReplayPc.noConfusion)]
    refine ⟨fun taken hmem => ?_, ?_, ?_, fun _ => List.mem_append_left _⟩
    · rw [List.mem_append, List.mem_singleton] at hmem
      exact hmem.resolve_right fun heq => by cases heq
    · rw [ReplayThread.after_append_singleton, h.thread, hfinished]
      rfl
    · exact publishedWhileHeld_append_singleton h.published fun _ heq => by cases heq

/-- `replayLoop` goes to its first wait, or returns. -/
theorem replayWait (h : LifetimeInv σ) (hreplay : σ.replay = .wait) :
    LifetimeInv σ.replayWait := by
  have hrunning : σ.replay.thread = .running := by rw [hreplay]; rfl
  unfold MqttState.replayWait
  split
  · rename_i hstopping
    constructor
    case connected => exact h.connected
    -- `stopping_` is not set while there is a client, and a running thread is to be joined
    case client =>
      intro hclient
      rw [(h.client hclient).2] at hstopping
      exact absurd hstopping Bool.false_ne_true
    case joined =>
      intro hloop hjoining
      have habsent := h.joined hloop hjoining
      rw [hrunning] at habsent
      cases habsent
    case numbered => exact h.numbered
    case taken => exact fun client hmem => h.taken_append_singleton (by simp) hmem
    case thread =>
      rw [ReplayThread.after_append_singleton, h.thread, hrunning]
      rfl
    case published =>
      exact publishedWhileHeld_append_singleton h.published fun _ heq => by cases heq
    case recorded =>
      exact fun publication hmem => List.mem_append_left _ (h.recorded publication hmem)
  · split
    · exact h.frame hrunning.symm rfl h.connected
    · split
      · exact h.frame hrunning.symm rfl h.connected
      · exact h.frame hrunning.symm rfl h.connected

/-- `publish` calls `mosquitto_publish` on the client of the service only. -/
theorem publish (h : LifetimeInv σ) (topic payload : Bytes) (retain : Bool)
    (source : PublicationSource Thread) (result : PublishResult) :
    LifetimeInv (σ.publish topic payload retain source result).1 := by
  obtain ⟨connected, new, handed, events, hstate, hconnected, hnew, -, -, -, hevents⟩ :=
    σ.publish_spec topic payload retain source result
  rw [hstate]
  rcases hevents with ⟨rfl, rfl⟩ | ⟨client, hclient, rfl⟩
  · rw [List.append_nil, List.append_nil]
    exact h.frame rfl rfl fun hup => h.connected (hconnected hup)
  · have hpublished := h.publication hclient new fun publication hmem => by
      have hheld := (hnew publication hmem).1
      rw [hclient] at hheld
      exact (Option.some.inj hheld).symm
    exact hpublished.frame rfl rfl fun hup => h.connected (hconnected hup)

/-- `publishWithAcknowledgement` calls it on the client of the service only. -/
theorem replayPublish (h : LifetimeInv σ) (storage : StorageId) (message : PendingMqttMessage)
    (result : PublishResult) (hreplay : σ.replay = .publish storage message) :
    LifetimeInv (σ.replayPublish storage message result) := by
  have hrunning : σ.replay.thread = .running := by rw [hreplay]; rfl
  -- on every exit the thread goes on and the flags stay
  unfold MqttState.replayPublish
  split
  · exact h.frame hrunning.symm rfl h.connected
  · rename_i client hclient
    split
    · exact h.frame hrunning.symm rfl h.connected
    · obtain ⟨new, handed, hstate, hnew, -⟩ :=
        σ.mosquittoPublish_spec client 1 message.topic message.payload message.retain
          (.outboxRow storage message.id) result
      have hpublished := h.publication hclient new fun publication hmem =>
        (hnew publication hmem).1
      dsimp only
      rw [hstate]
      split
      · exact hpublished.frame hrunning.symm rfl h.connected
      · exact hpublished.frame hrunning.symm rfl h.connected

/-- A callback of an older client changes nothing, and one of the current client finds it
    running. -/
theorem handleConnect (h : LifetimeInv σ) (client : ClientId) (accepted : Bool) :
    LifetimeInv (σ.handleConnect client accepted) := by
  unfold MqttState.handleConnect
  split
  · exact h
  · -- the guard compares the client of the callback with `client_`
    rename_i hguard
    simp only [Bool.or_eq_true, decide_eq_true_eq, not_or, not_not] at hguard
    exact h.frame rfl rfl fun _ => by rw [hguard.1]; rfl

variable [DecidableEq Thread]

/-- Every step keeps the invariant. -/
theorem step {config : MqttConfig} {format : FloatFormat} {σ' : MqttState Thread}
    {action : MqttAction Thread} (h : LifetimeInv σ)
    (hstep : σ.step config format action = some σ') : LifetimeInv σ' := by
  cases MqttState.step_cases hstep with
  | connect outcome hcontroller => exact h.connect config outcome hcontroller
  | disconnect hcontroller => exact h.disconnect
  | join client hcontroller hreplay => exact h.join client hreplay
  | replayWait hreplay => exact h.replayWait hreplay
  | publish topic payload retain result => exact h.publish topic payload retain .other result
  | forwardPublish thread message offlineStorage result hforward =>
    have hpublished := h.publish (forwardTopic config.topicPrefix message)
      (messageToJson format message) false (.forwarded (σ.currentCall thread)) result
    unfold MqttState.forwardPublish
    split <;> rename_i hresult <;> rw [hresult] at hpublished <;>
      exact hpublished.frame rfl rfl hpublished.connected
  | replayPublish storage message result hreplay =>
    exact h.replayPublish storage message result hreplay
  | handleConnect client accepted => exact h.handleConnect client accepted
  | handleDisconnect client =>
    unfold MqttState.handleDisconnect
    split
    · exact h
    · exact h.frame rfl rfl fun heq => absurd heq Bool.false_ne_true
  | handlePublish client messageId =>
    have hfinished := h.setPublications
      (σ.outstanding.filter fun publication =>
        ¬ (publication.client = client ∧ publication.messageId = messageId))
      (σ.completed ++ σ.outstanding.filter fun publication =>
        publication.client = client ∧ publication.messageId = messageId)
      fun publication hmem => by
        rcases hmem with hout | hcompleted
        · exact .inl (List.mem_of_mem_filter hout)
        · exact (List.mem_append.mp hcompleted).symm.imp_left List.mem_of_mem_filter
    exact hfinished.frame rfl rfl h.connected
  | destroy client hcontroller =>
    have hdropped := h.setPublications
      (σ.outstanding.filter fun publication => publication.client ≠ client) σ.completed
      fun publication hmem => hmem.imp_left List.mem_of_mem_filter
    exact hdropped.frame rfl (by rw [hcontroller]; rfl) h.connected
  | connectReturn timedOut hcontroller =>
    exact h.frame rfl (by rw [hcontroller]; rfl) h.connected
  | forward thread message hforward =>
    unfold MqttState.forward
    split
    · exact h
    · exact h.frame rfl rfl h.connected
  | forwardEnqueue thread message offlineStorage now sqlite hforward =>
    unfold MqttState.forwardEnqueue
    split
    · exact h.frame rfl rfl h.connected
    · split
      · exact h.frame rfl rfl h.connected
      · exact h.frame rfl rfl h.connected
  | setOfflineStorage | forwardDecide | forwardRequest => exact h.frame rfl rfl h.connected
  | replayWake hreplay | replayEndPass hreplay =>
    exact h.frame (by rw [hreplay]; rfl) rfl h.connected
  | replayCheck storage hreplay =>
    refine h.frame ?_ rfl h.connected
    rw [hreplay]
    split <;> rfl
  | replayLoad storage sqlite hreplay =>
    unfold MqttState.replayLoad
    split <;> exact h.frame (by rw [hreplay]; rfl) rfl h.connected
  | replayAwake storage message timedOut hreplay hawake =>
    refine h.frame ?_ rfl h.connected
    rw [hreplay]
    split <;> rfl
  | replayRemove storage message sqlite hreplay =>
    unfold MqttState.replayRemove
    split <;> exact h.frame (by rw [hreplay]; rfl) rfl h.connected

end LifetimeInv

/-! ## Runs -/

/-- Every reachable state of the service has the invariant. -/
theorem lifetimeInv_of_reachable {config : MqttConfig} {format : FloatFormat}
    [DecidableEq Thread] {σ : MqttState Thread}
    (h : (mqttSystem config format Thread).Reachable TransitionSystem.anyStep σ) :
    LifetimeInv σ :=
  h.invariant LifetimeInv (fun _ hinit => .initial hinit)
    fun _ _ _ _ hinv _ hstep => hinv.step hstep

/-- In every run: `connected_` is about a client that is there, with a running network loop
    and without a stop; the events of the replay threads are those of one thread at a time,
    each joined before the next is started; and nothing is published on a client after
    `disconnect` has taken it away. What libmosquitto has got was published by one of these
    events. -/
theorem mqtt_client_lifetime {config : MqttConfig} {format : FloatFormat} {Thread : Type}
    [DecidableEq Thread] {σ : MqttState Thread}
    (h : (mqttSystem config format Thread).Reachable TransitionSystem.anyStep σ) :
    (σ.connected = true →
      σ.client.isSome = true ∧ σ.loopRunning = true ∧ σ.stopping = false) ∧
    ReplayThread.after σ.clientEvents = some σ.replay.thread ∧
    PublishedWhileHeld σ.clientEvents ∧
    ∀ publication, publication ∈ σ.outstanding ∨ publication ∈ σ.completed →
      .published publication.client ∈ σ.clientEvents := by
  have hinv := lifetimeInv_of_reachable h
  exact ⟨fun hup => ⟨hinv.connected hup, hinv.client (hinv.connected hup)⟩,
    hinv.thread, hinv.published, hinv.recorded⟩

/-- The service publishes, is disconnected and connects again; then a late CONNACK of the
    old client comes in, and one of the new client. -/
def reconnectSteps : List (MqttAction Bool) :=
  [[.connect .started, .handleConnect 0 true, .connectReturn false],
    publishSteps false (tagMessage (.int8 1)) 1,
    [.disconnect, .replayWait, .join, .destroy, .connect .started, .handleConnect 0 true,
      .handleConnect 1 true, .connectReturn false],
    publishSteps false (tagMessage (.int8 1)) 1].flatten

/-- The lifetime of both clients along `reconnectSteps`. -/
theorem mqtt_client_lifetime_reconnected :
    ∃ σ, (mqttSystem {} oneFormat Bool).run TransitionSystem.anyStep .fresh reconnectSteps =
        some σ ∧
      σ.clientEvents = [.loopStarted, .published 0, .clientTaken 0, .loopReturned,
        .loopJoined, .loopStarted, .published 1] ∧
      σ.connected = true ∧ σ.client.isSome = true ∧ PublishedWhileHeld σ.clientEvents := by
  obtain ⟨σ, hrun, hreach, hσ⟩ := TransitionSystem.exists_of_run
    (mqttSystem {} oneFormat Bool) TransitionSystem.anyStep reconnectSteps
    (fun σ => σ.connected = true ∧ σ.clientEvents = [.loopStarted, .published 0,
      .clientTaken 0, .loopReturned, .loopJoined, .loopStarted, .published 1])
    MqttState.fresh_initial (by decide)
  rw [decide_eq_true_eq] at hσ
  obtain ⟨hconnected, hevents⟩ := hσ
  obtain ⟨hup, -, hpublished, -⟩ := mqtt_client_lifetime hreach
  exact ⟨σ, hrun, hevents, hconnected, (hup hconnected).1, hpublished⟩

end EdgeLink
