import Mathlib.Data.Fintype.Defs
import EdgeLink.Spec.MqttReplayThread

/-!
# The backlog of the outbox

When the messages in the outbox are going to be sent without a new message or a reconnect.

A pass of `replayLoop` clears `replayRequested_` when it starts. A pass that is ended by a
refused publish, a missing PUBACK or a failure of SQLite, while the connection stays up,
leaves the flag cleared and the rest of the outbox behind: the replay thread then sleeps
(`backlog_stranded`). Where no pass ends that way, a cleared flag means that the pass is
still going on or that a publisher is about to set the flag (`BacklogInv`), and a backlog is
never stranded (`no_stranded_backlog`).
-/

namespace EdgeLink

open StorageService

variable {Thread : Type}

/-- The replay thread does not sleep on a backlog that it could send. -/
def NoStrandedBacklog (σ : MqttState Thread) : Prop :=
  σ.replay = .blocked → σ.connected = true → σ.stopping = false →
    (∀ thread, σ.forwards thread = .idle) →
    ∀ storage, σ.offlineStorage = some storage → (σ.storages storage).outbox ≠ [] →
    σ.replayRequested = true

/-! ## The condition -/

/-- Whether libmosquitto accepts the message. -/
def PublishResult.isSuccess : PublishResult → Bool
  | .success _ => true
  | .failure _ _ => false

/-- Whether a publisher is between its enqueue and its last critical section. -/
def ForwardPc.isRequest : ForwardPc → Bool
  | .request _ => true
  | _ => false

/-- A step of a pass, if the step is one, does not end the pass while messages are left:
    SQLite runs the statement, libmosquitto accepts the publish, the PUBACK has come in. -/
def passStepSucceeds (σ : MqttState Thread) (action : MqttAction Thread) : Bool :=
  match action, σ.replay with
  | .replayLoad sqlite, .load storage =>
    (σ.storages storage).outbox.isEmpty || ((σ.storages storage).database && sqlite)
  | .replayPublish result, .publish _ message =>
    σ.client.isSome && !σ.stopping && !message.topic.isEmpty &&
      message.payload.length ≤ intMax && result.isSuccess
  | .replayAwake _, .awaitAck _ _ => σ.replayPublishAcknowledged
  | .replayRemove sqlite, .remove storage _ => (σ.storages storage).database && sqlite
  | _, _ => true

/-- No pass is ended by a failure while the connection is up and nobody has asked, or is
    about to ask, for another pass. -/
def PassGoesOn (σ : MqttState Thread) (action : MqttAction Thread) : Prop :=
  σ.connected = true → σ.replayRequested = false → σ.offlineStorage.isSome = true →
    (∀ thread, (σ.forwards thread).isRequest = false) → passStepSucceeds σ action = true

/-! ## The invariant -/

/-- Somebody takes care of the outbox of `storage`: a pass is going on, or a publisher is
    about to ask for one. -/
def Covered (σ : MqttState Thread) (storage : StorageId) : Prop :=
  σ.replay.passStorage = some storage ∨ ∃ thread, (σ.forwards thread).isRequest = true

/-- While the connection is up and no pass is requested, a backlog is covered. -/
def BacklogInv (σ : MqttState Thread) : Prop :=
  σ.connected = true → σ.replayRequested = false →
    ∀ storage, σ.offlineStorage = some storage → (σ.storages storage).outbox ≠ [] →
    Covered σ storage

/-- The initial states satisfy the invariant. -/
theorem BacklogInv.initial {σ : MqttState Thread} (h : σ.Initial) : BacklogInv σ := by
  intro hconnected
  rw [h.connected] at hconnected
  exact nomatch hconnected

/-- The invariant leads to the property. -/
theorem BacklogInv.noStranded {σ : MqttState Thread} (h : BacklogInv σ) :
    NoStrandedBacklog σ := by
  intro hblocked hconnected _ hidle storage hstorage houtbox
  by_contra hrequested
  rcases h hconnected (by simpa using hrequested) storage hstorage houtbox with
    hpass | ⟨thread, hthread⟩
  · rw [hblocked] at hpass
    exact nomatch hpass
  · rw [hidle thread] at hthread
    exact nomatch hthread

/-- A step that does not touch storages and storage pointer, and does not uncover a
    backlog, keeps the invariant if the flags allow it. -/
theorem BacklogInv.of_covered {σ σ' : MqttState Thread} (h : BacklogInv σ)
    (hconnected : σ'.connected = true → σ.connected = true)
    (hrequested : σ'.connected = true → σ'.replayRequested = false → σ.replayRequested = false)
    (hstorage : σ'.offlineStorage = σ.offlineStorage)
    (houtbox : ∀ storage, (σ'.storages storage).outbox ≠ [] → (σ.storages storage).outbox ≠ [])
    (hcovered : ∀ storage, σ'.connected = true → σ'.replayRequested = false →
      σ.offlineStorage = some storage → (σ'.storages storage).outbox ≠ [] → Covered σ storage →
      Covered σ' storage) : BacklogInv σ' := by
  intro hconn hreq storage hsome hne
  rw [hstorage] at hsome
  exact hcovered storage hconn hreq hsome hne
    (h (hconnected hconn) (hrequested hconn hreq) storage hsome (houtbox storage hne))

/-- The replay thread moves within the pass, or moves while it is in no pass. -/
theorem BacklogInv.moveReplay {σ : MqttState Thread} (h : BacklogInv σ) (replay : ReplayPc)
    (hpass : ∀ storage, σ.replay.passStorage = some storage →
      replay.passStorage = some storage) : BacklogInv { σ with replay } :=
  h.of_covered id (fun _ => id) rfl (fun _ => id) fun storage _ _ _ _ hcovered =>
    hcovered.imp_left (hpass storage)

/-- The end of a pass keeps the invariant where the outbox of the pass is empty, or the step
    was not allowed to fail. -/
theorem BacklogInv.leavePass {σ : MqttState Thread} (h : BacklogInv σ)
    {action : MqttAction Thread} (hok : PassGoesOn σ action)
    (hfails : ∀ storage, σ.replay.passStorage = some storage →
      (σ.storages storage).outbox ≠ [] → passStepSucceeds σ action = false) :
    BacklogInv { σ with replay := .endPass } := by
  refine h.of_covered id (fun _ => id) rfl (fun _ => id)
    fun storage hconn hreq hsome hne hcovered => ?_
  rcases hcovered with hpass | hthread
  · -- the step fails, so another request is on its way
    have hfalse := hfails storage hpass hne
    by_contra hcovered
    have hnone : ∀ thread, (σ.forwards thread).isRequest = false := by
      intro thread
      by_contra hthread
      exact hcovered (.inr ⟨thread, by simpa using hthread⟩)
    have htrue := hok hconn hreq (by rw [hsome]; rfl) hnone
    rw [hfalse] at htrue
    exact nomatch htrue
  · exact .inr hthread

/-! ## Steps -/

/-- A state that is not connected, or in which a pass is requested, satisfies the
    invariant. -/
theorem BacklogInv.of_flag {σ : MqttState Thread}
    (h : σ.connected = true → σ.replayRequested = true) : BacklogInv σ := by
  intro hconnected hrequested
  rw [h hconnected] at hrequested
  exact nomatch hrequested

/-- `publish` keeps the invariant: it never sets `connected_`. -/
theorem BacklogInv.publish {σ : MqttState Thread} (h : BacklogInv σ) (topic payload : Bytes)
    (retain : Bool) (source : PublicationSource Thread) (result : PublishResult) :
    BacklogInv (σ.publish topic payload retain source result).1 := by
  obtain ⟨connected, new, handed, events, hstate, hconnected, -⟩ :=
    σ.publish_spec topic payload retain source result
  rw [hstate]
  exact h.of_covered hconnected (fun _ => id) rfl (fun _ => id) fun _ _ _ _ _ hcovered =>
    hcovered

/-- The replay thread begins a pass on the current storage, or goes to sleep. -/
theorem BacklogInv.replayWait {σ : MqttState Thread} (h : BacklogInv σ)
    (hreplay : σ.replay = .wait) : BacklogInv σ.replayWait := by
  have hmove (replay : ReplayPc) : BacklogInv { σ with replay } :=
    h.moveReplay replay fun storage hpass => by rw [hreplay] at hpass; exact nomatch hpass
  unfold MqttState.replayWait
  split
  · exact hmove .finished
  · split
    · exact hmove .blocked
    · rename_i storage hstorage
      split
      · -- a pass on the current storage begins
        intro _ _ storage' hsome _
        rw [hstorage] at hsome
        exact .inl hsome
      · exact hmove .blocked

/-- A pass that finds no row ends without a backlog, since its load does not fail. -/
theorem BacklogInv.replayLoad {σ : MqttState Thread} (h : BacklogInv σ) (storage : StorageId)
    (sqlite : Bool) (hreplay : σ.replay = .load storage)
    (hok : PassGoesOn σ (.replayLoad sqlite)) : BacklogInv (σ.replayLoad storage sqlite) := by
  unfold MqttState.replayLoad
  split
  · rename_i hload
    refine h.leavePass hok fun storage' hpass hne => ?_
    rw [hreplay] at hpass
    obtain rfl := Option.some.inj hpass
    -- on an open database SQLite would have found a row
    by_contra hsucceeds
    simp only [passStepSucceeds, hreplay, Bool.not_eq_false, Bool.or_eq_true,
      Bool.and_eq_true, List.isEmpty_iff] at hsucceeds
    obtain ⟨hopen, rfl⟩ := hsucceeds.resolve_left hne
    exact load_ne_nil _ hopen hne hload
  · exact h.moveReplay _ fun storage' hpass => by rw [hreplay] at hpass; exact hpass

/-- Publishing a row keeps the invariant. -/
theorem BacklogInv.replayPublish {σ : MqttState Thread} (h : BacklogInv σ)
    (storage : StorageId) (message : PendingMqttMessage) (result : PublishResult)
    (hreplay : σ.replay = .publish storage message)
    (hok : PassGoesOn σ (.replayPublish result)) :
    BacklogInv (σ.replayPublish storage message result) := by
  have hgoOn : BacklogInv { σ with replay := .awaitAck storage message } :=
    h.moveReplay _ fun storage' hpass => by rw [hreplay] at hpass; exact hpass
  have hgiveUp (hfalse : passStepSucceeds σ (.replayPublish result) = false) :
      BacklogInv { σ with replay := .endPass } :=
    h.leavePass hok fun _ _ _ => hfalse
  unfold MqttState.replayPublish
  split
  · rename_i hclient
    exact hgiveUp (by simp [passStepSucceeds, hreplay, hclient])
  · rename_i client hclient
    split
    · rename_i hguard
      -- a lost connection is not a failure: the next CONNACK requests a pass
      by_cases hconnected : σ.connected = true
      swap
      · exact .of_flag fun hconn => absurd hconn hconnected
      refine hgiveUp ?_
      simp only [Bool.or_eq_true, Bool.not_eq_true', decide_eq_true_eq, hconnected,
        Bool.true_eq_false, false_or] at hguard
      rcases hguard with (hstopping | htopic) | hpayload
      · simp [passStepSucceeds, hreplay, hstopping]
      · simp [passStepSucceeds, hreplay, htopic]
      · simp [passStepSucceeds, hreplay, hpayload]
    · obtain ⟨new, handed, hstate, -⟩ :=
        σ.mosquittoPublish_spec client 1 message.topic message.payload message.retain
          (.outboxRow storage message.id) result
      dsimp only
      rw [hstate]
      cases result with
      | success messageId => exact hgoOn
      | failure connectionLost queued =>
        exact hgiveUp (by simp [passStepSucceeds, hreplay, PublishResult.isSuccess])

/-- Removing a row keeps the invariant. -/
theorem BacklogInv.replayRemove {σ : MqttState Thread} (h : BacklogInv σ)
    (hthread : ReplayInv σ) (storage : StorageId) (message : PendingMqttMessage)
    (sqlite : Bool) (hreplay : σ.replay = .remove storage message)
    (hok : PassGoesOn σ (.replayRemove sqlite)) :
    BacklogInv (σ.replayRemove storage message sqlite) := by
  obtain ⟨tail, hhead⟩ := hthread.head storage message (by rw [hreplay]; rfl)
  unfold MqttState.replayRemove
  split
  · rename_i service hremove
    -- the pass goes on, whatever is left
    refine h.of_covered id (fun _ => id) rfl (fun storage' hne => ?_)
      fun storage' _ _ _ _ hcovered => hcovered.imp_left fun hpass => by
        rw [hreplay] at hpass
        exact hpass
    dsimp only at hne
    by_cases heq : storage' = storage
    · rw [heq, hhead]
      exact List.cons_ne_nil _ _
    · rwa [Function.update_of_ne heq] at hne
  · rename_i service hremove
    obtain ⟨-, ⟨htrue, -⟩ | ⟨-, rfl⟩⟩ :=
      remove_outbox _ service message tail sqlite false hhead hremove
    · exact nomatch htrue
    · rw [Function.update_eq_self]
      refine h.leavePass hok fun _ _ _ => ?_
      -- on an open database SQLite would have removed the row
      by_contra hsucceeds
      simp only [passStepSucceeds, hreplay, Bool.not_eq_false, Bool.and_eq_true] at hsucceeds
      obtain ⟨hopen, rfl⟩ := hsucceeds
      have htrue := remove_true _ message tail hopen hhead
      rw [hremove] at htrue
      exact nomatch htrue

variable [DecidableEq Thread]

/-- A publisher that is not about to ask for a pass moves on. -/
theorem Covered.setForward {σ : MqttState Thread} {storage : StorageId}
    (h : Covered σ storage) (thread : Thread) (pc : ForwardPc)
    (hthread : (σ.forwards thread).isRequest = false) :
    Covered (σ.setForward thread pc) storage := by
  refine h.imp_right fun ⟨thread', hthread'⟩ => ⟨thread', ?_⟩
  have hne : thread' ≠ thread := by
    rintro rfl
    rw [hthread] at hthread'
    exact nomatch hthread'
  simpa [MqttState.setForward, Function.update_of_ne hne] using hthread'

/-- So do the publishers in `forwardMessage`. -/
theorem BacklogInv.setForward {σ : MqttState Thread} (h : BacklogInv σ) (thread : Thread)
    (pc : ForwardPc) (hthread : (σ.forwards thread).isRequest = false) :
    BacklogInv (σ.setForward thread pc) :=
  h.of_covered id (fun _ => id) rfl (fun _ => id) fun _ _ _ _ _ hcovered =>
    hcovered.setForward thread pc hthread

/-- A publisher that has enqueued its message is about to ask for a pass. -/
theorem BacklogInv.forwardEnqueue {σ : MqttState Thread} (h : BacklogInv σ)
    (config : MqttConfig) (format : FloatFormat) (thread : Thread) (message : Message)
    (offlineStorage : Option StorageId) (now : Int64) (sqlite : Bool)
    (hforward : σ.forwards thread = .enqueue message offlineStorage) :
    BacklogInv (σ.forwardEnqueue config format thread message offlineStorage now sqlite) := by
  have hidle := h.setForward thread .idle (by rw [hforward]; rfl)
  unfold MqttState.forwardEnqueue
  split
  · exact hidle
  · split
    · exact hidle
    · intro _ _ _ _ _
      exact .inr ⟨thread, by simp [ForwardPc.isRequest]⟩

/-- A thread that publishes its message directly requests no pass by that. -/
theorem BacklogInv.forwardPublish {σ : MqttState Thread} (h : BacklogInv σ)
    (config : MqttConfig) (format : FloatFormat) (thread : Thread) (message : Message)
    (offlineStorage : Option StorageId) (result : PublishResult)
    (hforward : σ.forwards thread = .publish message offlineStorage) :
    BacklogInv (σ.forwardPublish config format thread message offlineStorage result) := by
  have hpublish := h.publish (forwardTopic config.topicPrefix message)
    (messageToJson format message) false (.forwarded (σ.currentCall thread)) result
  obtain ⟨connected, new, handed, events, hstate, -⟩ :=
    σ.publish_spec (forwardTopic config.topicPrefix message) (messageToJson format message)
      false (.forwarded (σ.currentCall thread)) result
  have hthread' : ((σ.publish (forwardTopic config.topicPrefix message)
      (messageToJson format message) false (.forwarded (σ.currentCall thread))
      result).1.forwards thread).isRequest = false := by
    rw [hstate]
    show (σ.forwards thread).isRequest = false
    rw [hforward]
    rfl
  unfold MqttState.forwardPublish
  split <;> rename_i hresult <;> rw [hresult] at hpublish hthread' <;>
    exact hpublish.setForward thread _ hthread'

/-- Every step that is allowed keeps the invariant. -/
theorem BacklogInv.step {config : MqttConfig} {format : FloatFormat} {σ σ' : MqttState Thread}
    {action : MqttAction Thread} (h : BacklogInv σ) (hthread : ReplayInv σ)
    (hok : PassGoesOn σ action) (hstep : σ.step config format action = some σ') :
    BacklogInv σ' := by
  cases MqttState.step_cases hstep with
  | setOfflineStorage storage =>
    -- a new storage requests a pass, or there is no storage
    cases storage with
    | none => exact fun _ _ _ hsome => nomatch hsome
    | some storage =>
      refine .of_flag fun (hconnected : σ.connected = true) => ?_
      simp [MqttState.setOfflineStorage, hconnected]
  | connect outcome hcontroller =>
    unfold MqttState.connect
    split
    · exact h
    · rename_i hguard
      -- `connect` goes on only while not connected
      have hconnected := (loopRunning_of_connect_guard hguard).1
      have hflag {requested : Bool} (hconn : σ.connected = true) : requested = true := by
        rw [hconnected] at hconn
        exact nomatch hconn
      cases outcome <;> exact .of_flag hflag
  | connectReturn timedOut hcontroller => exact h
  | disconnect hcontroller => exact .of_flag fun hconnected => nomatch hconnected
  | join client hcontroller hreplay =>
    refine h.moveReplay .none fun storage hpass => ?_
    rcases hreplay with heq | heq <;> rw [heq] at hpass <;> exact nomatch hpass
  | destroy client hcontroller => exact h
  | handleConnect client accepted =>
    unfold MqttState.handleConnect
    split
    · exact h
    · intro hconnected hrequested storage hsome
      -- an accepted connection requests a pass
      simp only [Bool.or_eq_false_iff, Bool.and_eq_false_iff] at hconnected hrequested hsome
      rw [hconnected, hsome] at hrequested
      exact absurd hrequested.2 (by simp)
  | handleDisconnect client =>
    unfold MqttState.handleDisconnect
    split
    · exact h
    · exact .of_flag fun hconnected => nomatch hconnected
  | handlePublish client messageId => exact h
  | publish topic payload retain result => exact h.publish topic payload retain .other result
  | forward thread message hforward =>
    unfold MqttState.forward
    split
    · exact h
    · exact h.setForward thread (.decide message) (by rw [hforward]; rfl)
  | forwardDecide thread message hforward =>
    exact h.setForward thread _ (by rw [hforward]; rfl)
  | forwardPublish thread message offlineStorage result hforward =>
    exact h.forwardPublish config format thread message offlineStorage result hforward
  | forwardEnqueue thread message offlineStorage now sqlite hforward =>
    exact h.forwardEnqueue config format thread message offlineStorage now sqlite hforward
  | forwardRequest thread message hforward =>
    refine .of_flag fun (hconnected : σ.connected = true) => ?_
    simp [MqttState.forwardRequest, hconnected]
  | replayWait hreplay => exact h.replayWait hreplay
  | replayWake hreplay =>
    exact h.moveReplay .wait fun storage hpass => by rw [hreplay] at hpass; exact nomatch hpass
  | replayCheck storage hreplay =>
    unfold MqttState.replayCheck
    split
    · exact h.moveReplay _ fun storage' hpass => by rw [hreplay] at hpass; exact hpass
    · -- the pass ends because the connection is gone
      rename_i hconnected
      exact .of_flag fun hconn => absurd hconn hconnected
  | replayLoad storage sqlite hreplay => exact h.replayLoad storage sqlite hreplay hok
  | replayPublish storage message result hreplay =>
    exact h.replayPublish storage message result hreplay hok
  | replayAwake storage message timedOut hreplay hawake =>
    split
    · exact h.moveReplay (.remove storage message) fun storage' hpass => by
        rw [hreplay] at hpass
        exact hpass
    · rename_i hflag
      exact h.leavePass hok fun _ _ _ => by simpa [passStepSucceeds, hreplay] using hflag
  | replayRemove storage message sqlite hreplay =>
    exact h.replayRemove hthread storage message sqlite hreplay hok
  | replayEndPass hreplay =>
    exact h.moveReplay .wait fun storage hpass => by rw [hreplay] at hpass; exact nomatch hpass

/-! ## Runs -/

/-- In every run in which no pass is ended by a failure while the connection is up and no
    other pass is requested, no backlog is stranded. -/
theorem no_stranded_backlog (config : MqttConfig) (format : FloatFormat) (σ : MqttState Thread)
    (hreach : (mqttSystem config format Thread).Reachable PassGoesOn σ) :
    NoStrandedBacklog σ := by
  refine BacklogInv.noStranded (hreach.invariant BacklogInv ?_ ?_)
  · exact fun σ hinit => BacklogInv.initial hinit
  · intro σ action σ' hreach hinv hok hstep
    exact hinv.step (replayInv_of_reachable hreach) hok hstep

omit [DecidableEq Thread] in
instance [Fintype Thread] (σ : MqttState Thread) (action : MqttAction Thread) :
    Decidable (PassGoesOn σ action) :=
  inferInstanceAs (Decidable (_ → _ → _ → (∀ thread, (σ.forwards thread).isRequest = false) → _))

/-- A pass that is ended by the timeout of a PUBACK. -/
def timeoutSteps : List (MqttAction Bool) :=
  [backlogSteps, replaySteps 1, [.replayAwake true, .replayEndPass, .replayWait]].flatten

/-- The PUBACK of a buffered message does not come in time. The replay thread sleeps on the
    message, although the connection is up. -/
theorem backlog_stranded :
    ∃ σ : MqttState Bool,
      (mqttSystem {} oneFormat Bool).Reachable TransitionSystem.anyStep σ ∧
      ¬ NoStrandedBacklog σ := by
  obtain ⟨σ, -, hreach, hσ⟩ := TransitionSystem.exists_of_run
    (mqttSystem {} oneFormat Bool) TransitionSystem.anyStep timeoutSteps
    (fun σ => σ.replay = .blocked ∧ σ.connected = true ∧ σ.stopping = false ∧
      (∀ thread, σ.forwards thread = .idle) ∧ σ.offlineStorage = some 0 ∧
      (σ.storages 0).outbox ≠ [] ∧ σ.replayRequested = false)
    MqttState.fresh_initial (by decide)
  rw [decide_eq_true_eq] at hσ
  obtain ⟨hblocked, hconnected, hstopping, hidle, hstorage, houtbox, hrequested⟩ := hσ
  refine ⟨σ, hreach, fun hnone => ?_⟩
  have htrue := hnone hblocked hconnected hstopping hidle 0 hstorage houtbox
  rw [hrequested] at htrue
  exact nomatch htrue

/-- A pass during which a second message is buffered. The connection is lost before it is
    sent, the replay thread goes to sleep, and the connection comes back. -/
def twoMessagesSteps : List (MqttAction Bool) :=
  [backlogSteps, replaySteps 1, bufferSteps true (tagMessage (.int8 2)), acknowledgeSteps 1,
    [.handleDisconnect 0, .replayPublish (.success 2), .replayEndPass, .replayWait,
      .handleConnect 0 true]].flatten

/-- The replay thread sleeps on the second message, and has been asked for another pass. -/
theorem no_stranded_backlog_two_messages :
    ∃ σ, (mqttSystem {} oneFormat Bool).run PassGoesOn .fresh twoMessagesSteps = some σ ∧
      σ.replay = .blocked ∧ σ.connected = true ∧ (σ.storages 0).outbox.length = 1 ∧
      NoStrandedBacklog σ ∧ σ.replayRequested = true := by
  obtain ⟨σ, hrun, hreach, hσ⟩ := TransitionSystem.exists_of_run
    (mqttSystem {} oneFormat Bool) PassGoesOn twoMessagesSteps
    (fun σ => σ.replay = .blocked ∧ σ.connected = true ∧ σ.stopping = false ∧
      (∀ thread, σ.forwards thread = .idle) ∧ σ.offlineStorage = some 0 ∧
      (σ.storages 0).outbox.length = 1)
    MqttState.fresh_initial (by decide)
  rw [decide_eq_true_eq] at hσ
  obtain ⟨hblocked, hconnected, hstopping, hidle, hstorage, hlength⟩ := hσ
  have houtbox : (σ.storages 0).outbox ≠ [] := List.ne_nil_of_length_eq_add_one hlength
  have hnone := no_stranded_backlog {} oneFormat σ hreach
  exact ⟨σ, hrun, hblocked, hconnected, hlength, hnone,
    hnone hblocked hconnected hstopping hidle 0 hstorage houtbox⟩

end EdgeLink
