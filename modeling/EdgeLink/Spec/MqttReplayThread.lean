import EdgeLink.Spec.MqttServiceSteps

/-!
# The replay thread

What holds of the replay thread in every run, whatever libmosquitto and SQLite do: it only
runs while the controller is connected or waits for it, and while it works on a message
that message is the oldest one of the outbox.
-/

namespace EdgeLink

open StorageService

variable {Thread : Type}

/-- The outbox message that the replay thread is working on. -/
def ReplayPc.current : ReplayPc → Option (StorageId × PendingMqttMessage)
  | .publish storage message | .awaitAck storage message | .remove storage message =>
    some (storage, message)
  | _ => Option.none

/-- The storage of the pass that the replay thread is in. -/
def ReplayPc.passStorage : ReplayPc → Option StorageId
  | .checkConnected storage | .load storage | .publish storage _ | .awaitAck storage _
  | .remove storage _ => some storage
  | _ => Option.none

/-- Whether `replayLoop` is running. -/
def ReplayPc.running : ReplayPc → Bool
  | .none | .finished => false
  | _ => true

/-- The controller is in `disconnect`. -/
def ControllerPc.disconnecting : ControllerPc → Bool
  | .joining _ | .destroying _ => true
  | _ => false

/-- The controller waits for the replay thread. -/
def ControllerPc.isJoining : ControllerPc → Bool
  | .joining _ => true
  | _ => false

/-- The invariant of the replay thread. -/
structure ReplayInv (σ : MqttState Thread) : Prop where
  running : σ.replay.running = true → σ.loopRunning = true ∨ σ.controller.isJoining = true
  disconnecting : σ.controller.disconnecting = true → σ.loopRunning = false ∧ σ.client = none
  head : ∀ storage message, σ.replay.current = some (storage, message) →
    ∃ tail, (σ.storages storage).outbox = message :: tail

/-- The initial states satisfy the invariant. -/
theorem ReplayInv.initial {σ : MqttState Thread} (h : σ.Initial) : ReplayInv σ where
  running := by simp [h.replay, ReplayPc.running]
  disconnecting := by simp [h.controller, ControllerPc.disconnecting]
  head := by simp [h.replay, ReplayPc.current]

/-! ## What a step can leave alone -/

/-- The invariant depends on the replay thread, the controller, the client and the
    storages only. -/
theorem ReplayInv.frame {σ : MqttState Thread} (h : ReplayInv σ)
    {connected initialConnectionCompleted stopping replayRequested replaying : Bool}
    {replayMessageId : Nat} {replayPublishAcknowledged : Bool}
    {offlineStorage : Option StorageId} {forwards : Thread → ForwardPc} {nextClient : ClientId}
    {outstanding : List (Publication Thread)} {puts : Thread → List Message}
    {rowCall : StorageId → Nat → Option (CallId Thread)} {handed : List (CallId Thread)}
    {enqueued : StorageId → List PendingMqttMessage} {removed : StorageId → List Nat}
    {completed : List (Publication Thread)} {clientEvents : List ClientEvent} :
    ReplayInv { σ with
      connected, initialConnectionCompleted, stopping, replayRequested, replaying
      replayMessageId, replayPublishAcknowledged, offlineStorage, forwards, nextClient
      outstanding, puts, rowCall, handed, enqueued, removed, completed, clientEvents } :=
  ⟨h.running, h.disconnecting, h.head⟩

/-- The replay thread moves to a point where it works on no message. -/
theorem ReplayInv.move {σ : MqttState Thread} (h : ReplayInv σ) (replay : ReplayPc)
    (hrunning : replay.running = true → σ.replay.running = true)
    (hcurrent : replay.current = none) : ReplayInv { σ with replay } where
  running := fun hrun => h.running (hrunning hrun)
  disconnecting := h.disconnecting
  head := by
    intro storage message hmessage
    rw [hcurrent] at hmessage
    exact nomatch hmessage

/-- A thread that is not running works on no message. -/
theorem ReplayPc.current_of_not_running (replay : ReplayPc) (h : replay.running = false) :
    replay.current = Option.none := by
  cases replay <;> first | rfl | exact nomatch h

/-- Without network loop the replay thread only runs while the controller waits for it. -/
theorem ReplayInv.not_running {σ : MqttState Thread} (h : ReplayInv σ)
    (hloop : σ.loopRunning = false) (hjoining : σ.controller.isJoining = false) :
    σ.replay.running = false := by
  by_contra hrunning
  rcases h.running (by simpa using hrunning) with hrun | hjoin
  · rw [hloop] at hrun
    exact nomatch hrun
  · rw [hjoining] at hjoin
    exact nomatch hjoin

/-- While the controller is idle and there is no network loop, the replay thread is not
    running: this is where `connect` goes on. -/
theorem ReplayInv.not_running_of_idle {σ : MqttState Thread} (h : ReplayInv σ)
    (hloop : σ.loopRunning = false) (hcontroller : σ.controller = .idle) :
    σ.replay.running = false :=
  h.not_running hloop (by rw [hcontroller]; rfl)

/-- While the controller destroys the client, the replay thread is not running. -/
theorem ReplayInv.not_running_of_destroying {σ : MqttState Thread} (h : ReplayInv σ)
    {client : ClientId} (hcontroller : σ.controller = .destroying client) :
    σ.replay.running = false :=
  h.not_running (h.disconnecting (by rw [hcontroller]; rfl)).1 (by rw [hcontroller]; rfl)

/-- The guard of `connect` lets it go on only without network loop. -/
theorem loopRunning_of_connect_guard {σ : MqttState Thread} {config : MqttConfig}
    (h : ¬ (σ.connected || σ.loopRunning || config.isInvalid) = true) :
    σ.connected = false ∧ σ.loopRunning = false := by
  simp only [Bool.or_eq_true, not_or, Bool.not_eq_true] at h
  exact h.1

/-- Changes to client and controller around a replay thread that works on no message. -/
theorem ReplayInv.setController {σ : MqttState Thread} (client : Option ClientId)
    (loopRunning : Bool) (controller : ControllerPc) (replay : ReplayPc)
    (hcurrent : replay.current = none)
    (hrunning : replay.running = true → loopRunning = true)
    (hdisconnecting : controller.disconnecting = true → loopRunning = false ∧ client = none) :
    ReplayInv { σ with client, loopRunning, controller, replay } where
  running := fun hrun => .inl (hrunning hrun)
  disconnecting := hdisconnecting
  head := by
    intro storage message hmessage
    rw [hcurrent] at hmessage
    exact nomatch hmessage

/-! ## Steps -/

/-- `connect` keeps the invariant: it goes on only while no replay thread is running. -/
theorem ReplayInv.connect {σ : MqttState Thread} (h : ReplayInv σ) (config : MqttConfig)
    (outcome : ConnectOutcome) (hcontroller : σ.controller = .idle) :
    ReplayInv (σ.connect config outcome) := by
  unfold MqttState.connect
  split
  · exact h
  · rename_i hguard
    have hloop := (loopRunning_of_connect_guard hguard).2
    have hidle := h.not_running_of_idle hloop hcontroller
    have hfailed : ReplayInv { σ with client := none } :=
      ReplayInv.setController none σ.loopRunning σ.controller σ.replay
        (ReplayPc.current_of_not_running _ hidle)
        (fun hrun => by rw [hidle] at hrun; exact nomatch hrun) (fun _ => ⟨hloop, rfl⟩)
    cases outcome with
    | libraryNotReady => exact h
    | clientNotCreated => exact hfailed
    | connectFailed => exact hfailed.frame
    | loopFailed => exact hfailed.frame
    | started =>
      -- a new replay thread, in front of its first wait
      exact (ReplayInv.setController (σ := σ) (some σ.nextClient) true .connecting .wait rfl
        (fun _ => rfl) (fun hdis => nomatch hdis)).frame

/-- The replay thread takes up the oldest message, or goes on with the message it works
    on. -/
theorem ReplayInv.setReplay {σ : MqttState Thread} (h : ReplayInv σ) (replay : ReplayPc)
    (hrunning : σ.replay.running = true)
    (hhead : ∀ storage message, replay.current = some (storage, message) →
      ∃ tail, (σ.storages storage).outbox = message :: tail) : ReplayInv { σ with replay } :=
  ⟨fun _ => h.running hrunning, h.disconnecting, hhead⟩

/-- The replay thread begins a pass, goes to sleep or leaves its loop. -/
theorem ReplayInv.replayWait {σ : MqttState Thread} (h : ReplayInv σ)
    (hreplay : σ.replay = .wait) : ReplayInv σ.replayWait := by
  have hrunning : σ.replay.running = true := by rw [hreplay]; rfl
  unfold MqttState.replayWait
  split
  · exact (h.move .finished (fun _ => hrunning) rfl).frame
  · split
    · exact h.move .blocked (fun _ => hrunning) rfl
    · split
      · exact (h.move (.checkConnected _) (fun _ => hrunning) rfl).frame
      · exact h.move .blocked (fun _ => hrunning) rfl

/-- The load of a pass takes up the oldest message. -/
theorem ReplayInv.replayLoad {σ : MqttState Thread} (h : ReplayInv σ) (storage : StorageId)
    (sqlite : Bool) (hreplay : σ.replay = .load storage) :
    ReplayInv (σ.replayLoad storage sqlite) := by
  have hrunning : σ.replay.running = true := by rw [hreplay]; rfl
  unfold MqttState.replayLoad
  split
  · exact h.move .endPass (fun _ => hrunning) rfl
  · rename_i message rest hload
    -- the query is ordered by id, so this is the oldest message
    refine h.setReplay _ hrunning fun storage' message' heq => ?_
    obtain ⟨rfl, rfl⟩ := Prod.mk.inj (Option.some.inj heq)
    exact load_outbox _ sqlite message rest hload

/-- The replay thread keeps the message it has handed over, and drops one that is refused. -/
theorem ReplayInv.replayPublish {σ : MqttState Thread} (h : ReplayInv σ) (storage : StorageId)
    (message : PendingMqttMessage) (result : PublishResult)
    (hreplay : σ.replay = .publish storage message) :
    ReplayInv (σ.replayPublish storage message result) := by
  have hrunning : σ.replay.running = true := by rw [hreplay]; rfl
  have hgiveUp := h.move .endPass (fun _ => hrunning) rfl
  have hgoOn := h.setReplay (.awaitAck storage message) hrunning fun storage' message' heq =>
    h.head storage' message' (by rw [hreplay]; exact heq)
  unfold MqttState.replayPublish
  split
  · exact hgiveUp
  · rename_i client hclient
    split
    · exact hgiveUp
    · obtain ⟨new, handed, hstate, -⟩ :=
        σ.mosquittoPublish_spec client 1 message.topic message.payload message.retain
          (.outboxRow storage message.id) result
      dsimp only
      rw [hstate]
      split
      · exact hgoOn.frame
      · exact hgiveUp.frame

variable [DecidableEq Thread]

/-- A message that is published directly leaves the replay thread alone. -/
theorem ReplayInv.forwardPublish {σ : MqttState Thread} (h : ReplayInv σ)
    (config : MqttConfig) (format : FloatFormat) (thread : Thread) (message : Message)
    (offlineStorage : Option StorageId) (result : PublishResult) :
    ReplayInv (σ.forwardPublish config format thread message offlineStorage result) := by
  obtain ⟨connected, new, handed, events, hstate, -⟩ :=
    σ.publish_spec (forwardTopic config.topicPrefix message) (messageToJson format message)
      false (.forwarded (σ.currentCall thread)) result
  have hpublished := hstate ▸ h.frame
  unfold MqttState.forwardPublish
  split <;> rename_i hresult <;> rw [hresult] at hpublished <;> exact hpublished.frame

/-- Enqueueing keeps the invariant: the new message goes to the end of the outbox. -/
theorem ReplayInv.forwardEnqueue {σ : MqttState Thread} (h : ReplayInv σ)
    (config : MqttConfig) (format : FloatFormat) (thread : Thread) (message : Message)
    (offlineStorage : Option StorageId) (now : Int64) (sqlite : Bool) :
    ReplayInv (σ.forwardEnqueue config format thread message offlineStorage now sqlite) := by
  unfold MqttState.forwardEnqueue
  split
  · exact h.frame
  · rename_i storage
    split
    · exact h.frame
    · rename_i service henqueue
      obtain ⟨-, houtbox⟩ := enqueue_outbox _ service _ _ _ _ _ henqueue
      refine ⟨h.running, h.disconnecting, fun storage' message' hcurrent => ?_⟩
      obtain ⟨tail, hhead⟩ := h.head storage' message' hcurrent
      dsimp only
      by_cases heq : storage' = storage
      · -- the oldest message stays the oldest
        subst heq
        exact ⟨tail ++ [_], by rw [Function.update_self, houtbox, hhead]; rfl⟩
      · exact ⟨tail, by rw [Function.update_of_ne heq, hhead]⟩

/-- Every step keeps the invariant. -/
theorem ReplayInv.step {config : MqttConfig} {format : FloatFormat} {σ σ' : MqttState Thread}
    {action : MqttAction Thread} (h : ReplayInv σ)
    (hstep : σ.step config format action = some σ') : ReplayInv σ' := by
  cases MqttState.step_cases hstep with
  | setOfflineStorage storage => exact h.frame
  | connect outcome hcontroller => exact h.connect config outcome hcontroller
  | connectReturn timedOut hcontroller =>
    -- the controller was not joining, so the network loop is running
    refine ⟨fun hrun => (h.running hrun).imp_right fun hjoin => ?_, fun hdis => (nomatch hdis),
      h.head⟩
    rw [hcontroller] at hjoin
    exact nomatch hjoin
  | disconnect hcontroller =>
    -- from here on the controller waits for the thread
    exact ⟨fun _ => .inr rfl, fun _ => ⟨rfl, rfl⟩, h.head⟩
  | join client hcontroller hreplay =>
    have hdisconnecting := h.disconnecting (by rw [hcontroller]; rfl)
    exact (ReplayInv.setController σ.client σ.loopRunning _ .none rfl
      (fun hrun => nomatch hrun) fun _ => hdisconnecting).frame
  | destroy client hcontroller =>
    have hidle := h.not_running_of_destroying hcontroller
    exact (ReplayInv.setController (σ := σ) σ.client σ.loopRunning .idle σ.replay
      (ReplayPc.current_of_not_running _ hidle)
      (fun hrun => by rw [hidle] at hrun; exact nomatch hrun) fun hdis => nomatch hdis).frame
  | handleConnect client accepted =>
    unfold MqttState.handleConnect
    split
    · exact h
    · exact h.frame
  | handleDisconnect client =>
    unfold MqttState.handleDisconnect
    split
    · exact h
    · exact h.frame
  | handlePublish client messageId => exact h.frame
  | publish topic payload retain result =>
    obtain ⟨connected, new, handed, events, hstate, -⟩ :=
      σ.publish_spec topic payload retain .other result
    rw [hstate]
    exact h.frame
  | forward thread message hforward =>
    unfold MqttState.forward
    split
    · exact h
    · exact h.frame
  | forwardDecide thread message hforward => exact h.frame
  | forwardPublish thread message offlineStorage result hforward =>
    exact h.forwardPublish config format thread message offlineStorage result
  | forwardEnqueue thread message offlineStorage now sqlite hforward =>
    exact h.forwardEnqueue config format thread message offlineStorage now sqlite
  | forwardRequest thread message hforward => exact h.frame
  | replayWait hreplay => exact h.replayWait hreplay
  | replayWake hreplay => exact h.move .wait (fun _ => by rw [hreplay]; rfl) rfl
  | replayCheck storage hreplay =>
    refine h.move _ (fun _ => by rw [hreplay]; rfl) ?_
    split <;> rfl
  | replayLoad storage sqlite hreplay => exact h.replayLoad storage sqlite hreplay
  | replayPublish storage message result hreplay =>
    exact h.replayPublish storage message result hreplay
  | replayAwake storage message timedOut hreplay hawake =>
    have hrunning : σ.replay.running = true := by rw [hreplay]; rfl
    have hmoved := h.setReplay
      (if σ.replayPublishAcknowledged then .remove storage message else .endPass) hrunning
      fun storage' message' heq => by
        split at heq
        · exact h.head storage' message' (by rw [hreplay]; exact heq)
        · exact nomatch heq
    exact hmoved.frame
  | replayRemove storage message sqlite hreplay =>
    have hrunning : σ.replay.running = true := by rw [hreplay]; rfl
    -- whether or not the row is gone, the thread works on no message
    unfold MqttState.replayRemove
    split
    · exact ⟨fun _ => h.running hrunning, h.disconnecting, fun _ _ heq => (nomatch heq)⟩
    · exact ⟨fun _ => h.running hrunning, h.disconnecting, fun _ _ heq => (nomatch heq)⟩
  | replayEndPass hreplay => exact (h.move .wait (fun _ => by rw [hreplay]; rfl) rfl).frame

/-- The invariant holds in all runs. -/
theorem replayInv_of_reachable {config : MqttConfig} {format : FloatFormat}
    {ok : MqttState Thread → MqttAction Thread → Prop} {σ : MqttState Thread}
    (h : (mqttSystem config format Thread).Reachable ok σ) : ReplayInv σ :=
  h.invariant ReplayInv (fun _ hinit => ReplayInv.initial hinit)
    fun _ _ _ _ hinv _ hstep => hinv.step hstep

end EdgeLink
