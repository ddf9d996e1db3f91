import EdgeLink.Spec.MqttBacklog
import EdgeLink.Spec.MqttOutboxSafety
import EdgeLink.Spec.MqttTopics

/-!
# One pass of the replay thread

What a pass of `replayLoop` sends while the connection stays up, SQLite runs every
statement and the broker acknowledges everything. The pass works on the oldest row and ends
at the first one that libmosquitto refuses. Such a row stays at the front of the outbox, and
no row behind it is sent, in this pass or in a later one.

## Key results

- `replay_pass_drains_iff`: a pass sends all rows that libmosquitto accepts exactly when
  none of them is behind a row that it refuses
-/

namespace EdgeLink

open CText StorageService TransitionSystem

variable {Thread : Type}

/-! ## The surroundings of a pass -/

/-- Which topics and payloads libmosquitto accepts while it is connected. It refuses an
    empty topic, and takes the length of the payload as an `int`. -/
structure PublishPolicy where
  accepts : Bytes → Bytes → Bool
  topic_ne_nil : ∀ topic payload, accepts topic payload = true → topic ≠ []
  length_le : ∀ topic payload, accepts topic payload = true → payload.length ≤ intMax

/-- The row can be sent. -/
def PublishPolicy.acceptsRow (policy : PublishPolicy) (row : PendingMqttMessage) : Bool :=
  policy.accepts row.topic row.payload

/-- Whether the result is a lost connection. -/
def PublishResult.isLost : PublishResult → Bool
  | .success _ => false
  | .failure connectionLost _ => connectionLost

/-- The connection stays up over the step. -/
def keepsConnection (σ : MqttState Thread) : MqttAction Thread → Bool
  | .disconnect => false
  | .handleDisconnect client => σ.client ≠ some client
  | .handleConnect client accepted => accepted || σ.client ≠ some client
  | .publish _ _ _ result => !result.isLost
  | .forwardPublish _ result => !result.isLost
  | .replayPublish result => !result.isLost
  | _ => true

/-- What SQLite, libmosquitto and the broker answer to the replay thread during a pass. -/
def answersPass (policy : PublishPolicy) (σ : MqttState Thread) :
    MqttAction Thread → Bool
  | .replayLoad sqlite => sqlite
  | .replayRemove sqlite => sqlite
  -- every PUBACK comes in time
  | .replayAwake timedOut => !timedOut
  | .replayPublish result =>
    match σ.replay with
    | .publish _ row => result.isSuccess == policy.acceptsRow row
    | _ => true
  -- the pass is over
  | .replayEndPass => false
  | _ => true

/-- A step, of any thread, during a pass in such surroundings. -/
structure PassStep (policy : PublishPolicy) (σ : MqttState Thread)
    (action : MqttAction Thread) : Prop where
  fresh : FreshMessageIds σ action
  keeps : keepsConnection σ action = true
  answers : answersPass policy σ action = true

/-- The client is connected and the database of the storage is open. -/
structure Online (storage : StorageId) (σ : MqttState Thread) : Prop where
  client : σ.client ≠ none
  connected : σ.connected = true
  stopping : σ.stopping = false
  database : (σ.storages storage).database = true

/-- The replay thread is about to start a pass over the outbox of the storage. -/
structure PassStart (storage : StorageId) (σ : MqttState Thread) : Prop where
  replay : σ.replay = .checkConnected storage
  online : Online storage σ

/-- The row was acknowledged by the broker and has left the outbox. -/
structure SentAndRemoved (σ : MqttState Thread) (storage : StorageId)
    (row : PendingMqttMessage) : Prop where
  sent : ∃ publication ∈ σ.completed, IsPublicationOf storage row publication
  removed : row.id ∈ σ.removed storage
  gone : row ∉ (σ.storages storage).outbox

/-- No row that can be sent is behind a row that cannot. -/
def NoneBehindRefused (policy : PublishPolicy) (rows : List PendingMqttMessage) : Prop :=
  rows.Pairwise fun earlier later =>
    policy.acceptsRow later = true → policy.acceptsRow earlier = true

/-! ## The invariant of a pass -/

/-- What the point of the replay thread says about the rows. It is in the pass, with a row
    that can be sent once libmosquitto has taken it. At the end all the rows are gone, or the
    oldest one was refused. -/
def AtPoint (policy : PublishPolicy) (storage : StorageId)
    (rows gone outbox : List PendingMqttMessage) : ReplayPc → Prop
  | .checkConnected storage' => storage' = storage
  | .load storage' => storage' = storage
  | .publish storage' _ => storage' = storage
  | .awaitAck storage' row => storage' = storage ∧ policy.acceptsRow row = true
  | .remove storage' row => storage' = storage ∧ policy.acceptsRow row = true
  | .endPass => rows <+: gone ∨
    ∃ row tail, outbox = row :: tail ∧ policy.acceptsRow row = false
  | _ => False

/-- `rows` were in the outbox at the start, after `before` had been enqueued. Some of them
    are gone, all of which can be sent; others have been enqueued. -/
def Progress (policy : PublishPolicy) (storage : StorageId)
    (before rows enqueued outbox : List PendingMqttMessage) (replay : ReplayPc) : Prop :=
  ∃ gone appended, enqueued = before ++ (gone ++ outbox) ∧ gone ++ outbox = rows ++ appended ∧
    (∀ row ∈ gone, policy.acceptsRow row = true) ∧
    AtPoint policy storage rows gone outbox replay

/-- The invariant of a pass. -/
structure PassInv (policy : PublishPolicy) (storage : StorageId)
    (before rows : List PendingMqttMessage) (σ : MqttState Thread) : Prop where
  online : Online storage σ
  progress : Progress policy storage before rows (σ.enqueued storage)
    (σ.storages storage).outbox σ.replay

variable {policy : PublishPolicy} {storage : StorageId}
  {before rows : List PendingMqttMessage} {σ : MqttState Thread}

/-- It holds at the start. -/
theorem PassInv.start (hstart : PassStart storage σ)
    (henqueued : σ.enqueued storage = before ++ (σ.storages storage).outbox) :
    PassInv policy storage before (σ.storages storage).outbox σ where
  online := hstart.online
  progress := by
    refine ⟨[], [], henqueued, (List.append_nil _).symm, by simp, ?_⟩
    rw [hstart.replay]
    rfl

/-- The invariant does not depend on the callbacks, the publishers and their record. -/
theorem PassInv.frame (h : PassInv policy storage before rows σ)
    {loopRunning initialConnectionCompleted replayRequested replaying : Bool}
    {replayMessageId : Nat} {replayPublishAcknowledged : Bool}
    {offlineStorage : Option StorageId} {controller : ControllerPc}
    {forwards : Thread → ForwardPc} {nextClient : ClientId}
    {outstanding : List (Publication Thread)} {puts : Thread → List Message}
    {rowCall : StorageId → Nat → Option (CallId Thread)} {handed : List (CallId Thread)}
    {removed : StorageId → List Nat} {completed : List (Publication Thread)}
    {clientEvents : List ClientEvent} :
    PassInv policy storage before rows { σ with
      loopRunning, initialConnectionCompleted, replayRequested, replaying, replayMessageId
      replayPublishAcknowledged, offlineStorage, controller, forwards, nextClient, outstanding
      puts, rowCall, handed, removed, completed, clientEvents } :=
  ⟨⟨h.online.client, h.online.connected, h.online.stopping, h.online.database⟩, h.progress⟩

/-- The replay thread goes on. -/
theorem PassInv.move (h : PassInv policy storage before rows σ) (replay : ReplayPc)
    (hpoint : ∀ gone, rows <+: gone ++ (σ.storages storage).outbox →
      AtPoint policy storage rows gone (σ.storages storage).outbox σ.replay →
      AtPoint policy storage rows gone (σ.storages storage).outbox replay) :
    PassInv policy storage before rows { σ with replay } := by
  obtain ⟨gone, appended, henqueued, hrows, haccepted, hat⟩ := h.progress
  refine ⟨⟨h.online.client, h.online.connected, h.online.stopping, h.online.database⟩,
    gone, appended, henqueued, hrows, haccepted, ?_⟩
  exact hpoint gone (hrows ▸ List.prefix_append rows appended) hat

/-- The replay thread goes on, and what its point says about the rows is the same. -/
theorem PassInv.moveSame (h : PassInv policy storage before rows σ) {replay replay' : ReplayPc}
    (hreplay : σ.replay = replay)
    (hpoint : ∀ gone outbox, AtPoint policy storage rows gone outbox replay →
      AtPoint policy storage rows gone outbox replay') :
    PassInv policy storage before rows { σ with replay := replay' } := by
  apply h.move
  intro gone _ hat
  rw [hreplay] at hat
  exact hpoint gone _ hat

/-- A storage is replaced, and its database stays as it is. -/
theorem database_update {storages : StorageId → StorageService} {storage' : StorageId}
    {service : StorageService} (h : service.database = (storages storage').database)
    (storage : StorageId) :
    (Function.update storages storage' service storage).database =
      (storages storage).database := by
  by_cases heq : storage = storage'
  · subst heq
    rw [Function.update_self, h]
  · rw [Function.update_of_ne heq]

/-! ## The other threads -/

/-- A result that is not a lost connection leaves the connection up. -/
theorem MqttState.publish_connected (σ : MqttState Thread) (topic payload : Bytes)
    (retain : Bool) (source : PublicationSource Thread) (result : PublishResult)
    (hconnected : σ.connected = true) (hresult : result.isLost = false) :
    (σ.publish topic payload retain source result).1.connected = true := by
  unfold MqttState.publish
  split
  · exact hconnected
  · rename_i client hclient
    split
    · exact hconnected
    · cases result with
      | success messageId => exact hconnected
      | failure connectionLost queued =>
        show (!connectionLost) = true
        rw [show connectionLost = false from hresult]
        rfl

/-- `publish` of another thread keeps the invariant. -/
theorem PassInv.publish (h : PassInv policy storage before rows σ) (topic payload : Bytes)
    (retain : Bool) (source : PublicationSource Thread) (result : PublishResult)
    (hresult : result.isLost = false) :
    PassInv policy storage before rows (σ.publish topic payload retain source result).1 := by
  have hconnected :=
    σ.publish_connected topic payload retain source result h.online.connected hresult
  obtain ⟨connected, new, handed, events, hstate, -⟩ :=
    σ.publish_spec topic payload retain source result
  rw [hstate] at hconnected ⊢
  exact ⟨⟨h.online.client, hconnected, h.online.stopping, h.online.database⟩, h.progress⟩

/-- A row that is enqueued goes behind the others. -/
theorem Progress.enqueue {enqueued outbox : List PendingMqttMessage} {replay : ReplayPc}
    (h : Progress policy storage before rows enqueued outbox replay)
    (row : PendingMqttMessage) :
    Progress policy storage before rows (enqueued ++ [row]) (outbox ++ [row]) replay := by
  obtain ⟨gone, appended, henqueued, hrows, haccepted, hat⟩ := h
  refine ⟨gone, appended ++ [row], ?_, ?_, haccepted, ?_⟩
  · rw [henqueued]
    simp only [List.append_assoc]
  · rw [← List.append_assoc, hrows, List.append_assoc]
  · cases replay with
    | endPass =>
      -- the oldest row stays the oldest
      rcases hat with hall | ⟨oldest, tail, houtbox, hrefused⟩
      · exact .inl hall
      · exact .inr ⟨oldest, tail ++ [row], by rw [houtbox]; rfl, hrefused⟩
    | _ => exact hat

variable [DecidableEq Thread]

theorem PassInv.forwardEnqueue (h : PassInv policy storage before rows σ)
    (config : MqttConfig) (format : FloatFormat) (thread : Thread) (message : Message)
    (offlineStorage : Option StorageId) (now : Int64) (sqlite : Bool) :
    PassInv policy storage before rows
      (σ.forwardEnqueue config format thread message offlineStorage now sqlite) := by
  unfold MqttState.forwardEnqueue
  split
  · exact h.frame
  · rename_i storage'
    split
    · exact h.frame
    · rename_i service henqueue
      obtain ⟨-, houtbox⟩ := enqueue_outbox _ service _ _ _ _ _ henqueue
      have hdatabase : service.database = (σ.storages storage').database := by
        rw [← enqueue_database (σ.storages storage') (forwardTopic config.topicPrefix message)
          (messageToJson format message) false now sqlite, henqueue]
      constructor
      · refine ⟨h.online.client, h.online.connected, h.online.stopping, ?_⟩
        exact (database_update hdatabase storage).trans h.online.database
      · dsimp only
        by_cases heq : storage = storage'
        · subst heq
          rw [Function.update_self, Function.update_self, houtbox]
          exact h.progress.enqueue _
        · rw [Function.update_of_ne heq, Function.update_of_ne heq]
          exact h.progress

/-! ## The replay thread -/

omit [DecidableEq Thread] in
/-- Loading: a row where there is one, and otherwise all the rows are gone. -/
theorem PassInv.replayLoad (h : PassInv policy storage before rows σ)
    (storage' : StorageId) (hreplay : σ.replay = .load storage') :
    PassInv policy storage before rows (σ.replayLoad storage' true) := by
  unfold MqttState.replayLoad
  split
  · rename_i hload
    apply h.move
    intro gone hprefix hat
    rw [hreplay] at hat
    obtain rfl : storage' = storage := hat
    left
    -- SQLite would have found a row
    by_cases houtbox : (σ.storages storage').outbox = []
    · rwa [houtbox, List.append_nil] at hprefix
    · exact absurd hload (load_ne_nil _ h.online.database houtbox)
  · exact h.moveSame hreplay fun _ _ => id

omit [DecidableEq Thread] in
/-- Publishing: a row that cannot be sent ends the pass, in front of all others. -/
theorem PassInv.replayPublish (h : PassInv policy storage before rows σ)
    (hthread : ReplayInv σ) (storage' : StorageId) (row : PendingMqttMessage)
    (result : PublishResult) (hreplay : σ.replay = .publish storage' row)
    (hkeeps : result.isLost = false) (hanswer : result.isSuccess = policy.acceptsRow row) :
    PassInv policy storage before rows (σ.replayPublish storage' row result) := by
  obtain ⟨tail, hhead⟩ := hthread.head storage' row (by rw [hreplay]; rfl)
  -- the refused row is the oldest one
  have hgiveUp : policy.acceptsRow row = false →
      PassInv policy storage before rows { σ with replay := .endPass } := by
    intro hrefused
    apply h.move
    intro gone _ hat
    rw [hreplay] at hat
    obtain rfl : storage' = storage := hat
    exact .inr ⟨row, tail, hhead, hrefused⟩
  unfold MqttState.replayPublish
  split
  · rename_i hclient
    exact absurd hclient h.online.client
  · rename_i client hclient
    split
    · -- the service refuses only what libmosquitto would refuse as well
      rename_i hguard
      apply hgiveUp
      by_contra haccepts
      rw [Bool.not_eq_false] at haccepts
      have htopic := policy.topic_ne_nil _ _ haccepts
      have hlength := policy.length_le _ _ haccepts
      simp only [h.online.connected, h.online.stopping, Bool.not_true, Bool.or_self,
        Bool.false_or, Bool.or_eq_true, List.isEmpty_iff, decide_eq_true_eq] at hguard
      rcases hguard with hempty | hlong
      · exact htopic hempty
      · omega
    · obtain ⟨new, handed, hstate, -⟩ :=
        σ.mosquittoPublish_spec client 1 row.topic row.payload row.retain
          (.outboxRow storage' row.id) result
      dsimp only
      rw [hstate]
      cases result with
      | success messageId =>
        have hmoved : PassInv policy storage before rows
            { σ with replay := .awaitAck storage' row } :=
          h.moveSame hreplay fun _ _ hat => ⟨hat, hanswer.symm⟩
        exact hmoved.frame
      | failure connectionLost queued => exact (hgiveUp hanswer.symm).frame

omit [DecidableEq Thread] in
/-- Removing: the row joins those that are gone. -/
theorem PassInv.replayRemove (h : PassInv policy storage before rows σ)
    (hthread : ReplayInv σ) (storage' : StorageId) (row : PendingMqttMessage)
    (hreplay : σ.replay = .remove storage' row) :
    PassInv policy storage before rows (σ.replayRemove storage' row true) := by
  obtain ⟨gone, appended, henqueued, hrows, haccepted, hat⟩ := h.progress
  rw [hreplay] at hat
  obtain ⟨rfl, haccepts⟩ := hat
  obtain ⟨tail, hhead⟩ := hthread.head storage' row (by rw [hreplay]; rfl)
  have htrue := remove_true _ row tail h.online.database hhead
  have hdatabase := remove_database (σ.storages storage') row.id true
  unfold MqttState.replayRemove
  split
  · rename_i service hremove
    rw [hremove] at hdatabase
    obtain ⟨-, ⟨-, htail⟩ | ⟨hfalse, -⟩⟩ := remove_outbox _ service row tail true true hhead hremove
    · constructor
      · refine ⟨h.online.client, h.online.connected, h.online.stopping, ?_⟩
        exact (database_update hdatabase _).trans h.online.database
      · dsimp only
        rw [Function.update_self, htail]
        rw [hhead] at henqueued hrows
        -- the outbox begins one row later
        refine ⟨gone ++ [row], appended, ?_, ?_, ?_, rfl⟩
        · rw [henqueued, List.append_assoc]
          rfl
        · rw [← hrows, List.append_assoc]
          rfl
        · intro other hother
          rcases List.mem_append.mp hother with hold | hnew
          · exact haccepted other hold
          · rw [List.mem_singleton.mp hnew]
            exact haccepts
    · cases hfalse
  · rename_i service hremove
    rw [hremove] at htrue
    cases htrue

/-! ## Steps -/

omit [DecidableEq Thread] in
/-- The controller does not get on while there is a client. -/
theorem PassInv.not_disconnecting (h : PassInv policy storage before rows σ)
    (hthread : ReplayInv σ) : σ.controller.disconnecting = false := by
  by_contra hdisconnecting
  rw [Bool.not_eq_false] at hdisconnecting
  exact h.online.client (hthread.disconnecting hdisconnecting).2

/-- Every step of a pass keeps the invariant. -/
theorem PassInv.step {config : MqttConfig} {format : FloatFormat} {σ' : MqttState Thread}
    {action : MqttAction Thread} (h : PassInv policy storage before rows σ)
    (hthread : ReplayInv σ) (hok : PassStep policy σ action)
    (hstep : σ.step config format action = some σ') :
    PassInv policy storage before rows σ' := by
  have hkeeps := hok.keeps
  have hanswers := hok.answers
  have hoff : ∀ replay, σ.replay = replay →
      (∀ gone outbox, ¬AtPoint policy storage rows gone outbox replay) → False := by
    intro replay hreplay hno
    obtain ⟨gone, appended, -, -, -, hat⟩ := h.progress
    rw [hreplay] at hat
    exact hno _ _ hat
  cases MqttState.step_cases hstep with
  | setOfflineStorage storage => exact h.frame
  | connect outcome hcontroller =>
    -- the service is connected already
    unfold MqttState.connect
    rw [h.online.connected, Bool.true_or, Bool.true_or, if_pos rfl]
    exact h
  | connectReturn timedOut hcontroller => exact h.frame
  | disconnect hcontroller => cases hkeeps
  | join client hcontroller hreplay =>
    have hnot := h.not_disconnecting hthread
    rw [hcontroller] at hnot
    cases hnot
  | destroy client hcontroller =>
    have hnot := h.not_disconnecting hthread
    rw [hcontroller] at hnot
    cases hnot
  | handleConnect client accepted =>
    unfold MqttState.handleConnect
    split
    · exact h
    · rename_i hguard
      have haccepted : accepted = true := by
        simp only [keepsConnection, ne_eq, decide_not, Bool.or_eq_true, Bool.not_eq_true',
          decide_eq_false_iff_not] at hkeeps hguard
        exact hkeeps.resolve_right fun hother => hguard (.inl (by simpa using hother))
      exact ⟨⟨h.online.client, haccepted, h.online.stopping, h.online.database⟩, h.progress⟩
  | handleDisconnect client =>
    -- the callback is for an older client
    unfold MqttState.handleDisconnect
    rw [if_pos (by simpa [keepsConnection] using hkeeps)]
    exact h
  | handlePublish client messageId => exact h.frame
  | publish topic payload retain result =>
    exact h.publish topic payload retain .other result (by simpa [keepsConnection] using hkeeps)
  | forward thread message hforward =>
    unfold MqttState.forward
    split
    · exact h
    · exact h.frame
  | forwardDecide thread message hforward => exact h.frame
  | forwardPublish thread message offlineStorage result hforward =>
    have hpublish := h.publish (forwardTopic config.topicPrefix message)
      (messageToJson format message) false (.forwarded (σ.currentCall thread)) result
      (by simpa [keepsConnection] using hkeeps)
    unfold MqttState.forwardPublish
    split <;> rename_i hresult <;> rw [hresult] at hpublish <;> exact hpublish.frame
  | forwardEnqueue thread message offlineStorage now sqlite hforward =>
    exact h.forwardEnqueue config format thread message offlineStorage now sqlite
  | forwardRequest thread message hforward => exact h.frame
  | replayWait hreplay => exact (hoff _ hreplay fun _ _ => id).elim
  | replayWake hreplay => exact (hoff _ hreplay fun _ _ => id).elim
  | replayCheck storage' hreplay =>
    unfold MqttState.replayCheck
    rw [if_pos h.online.connected]
    exact h.moveSame hreplay fun _ _ => id
  | replayLoad storage' sqlite hreplay =>
    obtain rfl : sqlite = true := hanswers
    exact h.replayLoad storage' hreplay
  | replayPublish storage' row result hreplay =>
    simp only [answersPass, hreplay, beq_iff_eq] at hanswers
    exact h.replayPublish hthread storage' row result hreplay
      (by simpa [keepsConnection] using hkeeps) hanswers
  | replayAwake storage' row timedOut hreplay hawake =>
    -- nothing but the acknowledgement ends the wait
    have hflag : σ.replayPublishAcknowledged = true := by
      simp only [answersPass, Bool.not_eq_true'] at hanswers
      simpa [hanswers, h.online.stopping, h.online.connected] using hawake
    rw [hflag, if_pos rfl]
    have hmoved : PassInv policy storage before rows
        { σ with replay := .remove storage' row } :=
      h.moveSame hreplay fun _ _ => id
    exact hmoved.frame
  | replayRemove storage' row sqlite hreplay =>
    obtain rfl : sqlite = true := hanswers
    exact h.replayRemove hthread storage' row hreplay
  | replayEndPass hreplay => cases hanswers

/-- The invariant holds all through a pass. -/
theorem passInv_of_pass {config : MqttConfig} {format : FloatFormat} {σ' : MqttState Thread}
    (hreach : (mqttSystem config format Thread).Reachable FreshMessageIds σ)
    (hstart : PassStart storage σ)
    (henqueued : σ.enqueued storage = before ++ (σ.storages storage).outbox)
    (hpass : ((mqttSystem config format Thread).startedIn σ).Reachable (PassStep policy) σ') :
    PassInv policy storage before (σ.storages storage).outbox σ' := by
  induction hpass with
  | init hinit =>
    obtain rfl := hinit
    exact .start hstart henqueued
  | step hpass hok hstep ih =>
    have hreach' := hreach.trans (fun _ _ hstep => hstep.fresh) hpass
    exact ih.step (replayInv_of_reachable hreach') hok hstep

/-! ## The end of a pass -/

/-- Rows that can all be sent. -/
theorem NoneBehindRefused.of_accepted (h : ∀ row ∈ rows, policy.acceptsRow row = true) :
    NoneBehindRefused policy rows :=
  List.pairwise_of_forall_mem_list fun earlier hmem _ _ _ => h earlier hmem

/-- Behind a row that cannot be sent, no row can be sent. -/
theorem NoneBehindRefused.refused {first : PendingMqttMessage} {others : List PendingMqttMessage}
    (h : NoneBehindRefused policy (first :: others))
    (hrefused : policy.acceptsRow first = false) :
    ∀ row ∈ first :: others, policy.acceptsRow row = false := by
  intro row hmem
  rcases List.mem_cons.mp hmem with rfl | hothers
  · exact hrefused
  · by_contra haccepts
    rw [Bool.not_eq_false] at haccepts
    have hfirst := (List.pairwise_cons.mp h).1 row hothers haccepts
    rw [hrefused] at hfirst
    cases hfirst

/-- At the end, no row that can be sent is left exactly when none is behind a row that
    cannot be sent. -/
theorem left_iff_of_endPass {gone outbox appended : List PendingMqttMessage}
    (hrows : gone ++ outbox = rows ++ appended) (hnodup : (gone ++ outbox).Nodup)
    (haccepted : ∀ row ∈ gone, policy.acceptsRow row = true)
    (hat : AtPoint policy storage rows gone outbox .endPass) :
    (∀ row ∈ rows, policy.acceptsRow row = true → row ∉ outbox) ↔
      NoneBehindRefused policy rows := by
  have hdisjoint := List.disjoint_of_nodup_append hnodup
  rcases List.append_eq_append_iff.mp hrows with ⟨rest, rfl, rfl⟩ | ⟨rest, rfl, -⟩
  · -- the pass has come as far as `gone`
    constructor
    · intro hleft
      refine List.pairwise_append.mpr ⟨NoneBehindRefused.of_accepted haccepted, ?_, ?_⟩
      · refine List.pairwise_of_forall_mem_list fun _ _ later hmem haccepts => ?_
        exact absurd (List.mem_append_left appended hmem)
          (hleft later (List.mem_append_right gone hmem) haccepts)
      · exact fun earlier hmem _ _ _ => haccepted earlier hmem
    · intro hnone row hmem haccepts
      rcases List.mem_append.mp hmem with hgone | hrest
      · exact fun hout => hdisjoint hgone hout
      · -- the row is behind the one that was refused, or is that one
        exfalso
        obtain ⟨first, others, rfl⟩ := List.exists_cons_of_ne_nil (List.ne_nil_of_mem hrest)
        have hrefused : policy.acceptsRow first = false := by
          rcases hat with hall | ⟨oldest, tail, houtbox, hrefused⟩
          · have hlength := hall.length_le
            simp only [List.length_append, List.length_cons] at hlength
            omega
          · rwa [(List.cons.inj houtbox).1]
        have htail : NoneBehindRefused policy (first :: others) :=
          (List.pairwise_append.mp hnone).2.1
        rw [htail.refused hrefused row hrest] at haccepts
        cases haccepts
  · -- all the rows are gone
    refine iff_of_true (fun row hmem _ hout => ?_) ?_
    · exact hdisjoint (List.mem_append_left rest hmem) hout
    · exact .of_accepted fun row hmem => haccepted row (List.mem_append_left rest hmem)

/-- A row that was enqueued and is not in the outbox has been sent and removed. -/
theorem sentAndRemoved_iff {config : MqttConfig} {format : FloatFormat}
    (hreach : (mqttSystem config format Thread).Reachable FreshMessageIds σ)
    (row : PendingMqttMessage) (hmem : row ∈ σ.enqueued storage) :
    SentAndRemoved σ storage row ↔ row ∉ (σ.storages storage).outbox := by
  refine ⟨SentAndRemoved.gone, fun hgone => ?_⟩
  obtain ⟨left, henqueued, hremoved, hacknowledged⟩ :=
    (outboxInv_of_reachable hreach).accounted storage
  rw [henqueued] at hmem
  have hleft : row ∈ left := (List.mem_append.mp hmem).resolve_right hgone
  exact ⟨hacknowledged row hleft, hremoved ▸ List.mem_map_of_mem hleft, hgone⟩

/-! ## Passes come to an end -/

omit [DecidableEq Thread] in
/-- There is always a fresh message id. -/
theorem exists_fresh_id (σ : MqttState Thread) :
    ∃ messageId, FreshMessageIds σ (.replayPublish (.success messageId)) := by
  classical
  obtain ⟨messageId, hnotMem⟩ :=
    Infinite.exists_notMem_finset (σ.outstanding.map Publication.messageId).toFinset
  refine ⟨messageId, fun publication hmem _ heq => hnotMem ?_⟩
  rw [List.mem_toFinset, Option.some.inj heq]
  exact List.mem_map_of_mem hmem

omit [DecidableEq Thread] in
/-- A step that uses no message id is fresh. -/
theorem freshMessageIds_of_none {action : MqttAction Thread} (h : action.messageId = none) :
    FreshMessageIds σ action := by
  intro _ _ _ heq
  rw [h] at heq
  cases heq

variable (config : MqttConfig) (format : FloatFormat)

/-- The states that a pass from `σ` can come to. -/
def PassReaches (policy : PublishPolicy) (σ σ' : MqttState Thread) : Prop :=
  ((mqttSystem config format Thread).startedIn σ).Reachable (PassStep policy) σ'

variable {config format}

/-- One more step of the replay thread or a callback. -/
theorem PassReaches.next {σ' σ'' : MqttState Thread}
    (h : PassReaches config format policy σ σ') (action : MqttAction Thread)
    (hid : action.messageId = none)
    (hkeeps : keepsConnection σ' action = true) (hanswers : answersPass policy σ' action = true)
    (hstep : σ'.step config format action = some σ'') :
    PassReaches config format policy σ σ'' :=
  .step h ⟨freshMessageIds_of_none hid, hkeeps, hanswers⟩ hstep

/-- The pass goes on to its first query. -/
theorem PassStart.check (hstart : PassStart storage σ) :
    PassReaches config format policy σ { σ with replay := .load storage } := by
  refine PassReaches.next (.init rfl) .replayCheck rfl rfl rfl ?_
  simp [MqttState.step, hstart.replay, MqttState.replayCheck, hstart.online.connected]

/-- The pass takes up the oldest row. -/
theorem PassStart.load (hstart : PassStart storage σ) (row : PendingMqttMessage)
    (tail : List PendingMqttMessage) (houtbox : (σ.storages storage).outbox = row :: tail) :
    PassReaches config format policy σ { σ with replay := .publish storage row } := by
  refine PassReaches.next hstart.check (.replayLoad true) rfl rfl rfl ?_
  simp only [MqttState.step, MqttState.replayLoad]
  cases hload : (σ.storages storage).loadPendingMqttMessages 1 true with
  | nil =>
    have hne : (σ.storages storage).outbox ≠ [] := by simp [houtbox]
    exact absurd hload (load_ne_nil _ hstart.online.database hne)
  | cons first rest =>
    obtain ⟨tail', hhead⟩ := load_outbox _ true first rest hload
    rw [houtbox] at hhead
    obtain rfl := (List.cons.inj hhead).1
    rfl

/-- A row that can be sent is sent, acknowledged and removed. -/
theorem PassStart.sendRow (hstart : PassStart storage σ) (row : PendingMqttMessage)
    (tail : List PendingMqttMessage) (houtbox : (σ.storages storage).outbox = row :: tail)
    (haccepts : policy.acceptsRow row = true) :
    ∃ σ', PassReaches config format policy σ σ' ∧ PassStart storage σ' ∧
      (σ'.storages storage).outbox = tail := by
  obtain ⟨messageId, hfresh⟩ := exists_fresh_id σ
  obtain ⟨client, hclient⟩ := Option.ne_none_iff_exists'.mp hstart.online.client
  have htopic := policy.topic_ne_nil _ _ haccepts
  have hlength := policy.length_le _ _ haccepts
  have hguard : (!σ.connected || σ.stopping || row.topic.isEmpty ||
      decide (intMax < row.payload.length)) = false := by
    simp [hstart.online.connected, hstart.online.stopping, htopic, hlength]
  have hpublished : PassReaches config format policy σ
      (MqttState.replayPublish { σ with replay := .publish storage row } storage row
        (.success messageId)) := by
    refine .step (hstart.load row tail houtbox) ⟨hfresh, rfl, ?_⟩ rfl
    simp [answersPass, PublishResult.isSuccess, haccepts]
  simp only [MqttState.replayPublish, hclient, hguard, Bool.false_eq_true, if_false,
    MqttState.mosquittoPublish] at hpublished
  -- the PUBACK sets the flag, and the wait ends
  have hacknowledged := PassReaches.next hpublished (.handlePublish client messageId)
    rfl rfl rfl rfl
  have hawake := PassReaches.next hacknowledged (.replayAwake false) rfl rfl rfl
    (by simp [MqttState.step, MqttState.handlePublish, MqttState.replayAwake]; rfl)
  have hremoved := PassReaches.next hawake (.replayRemove true) rfl rfl rfl rfl
  refine ⟨_, hremoved, ?_⟩
  have htrue := remove_true _ row tail hstart.online.database houtbox
  have hdatabase := remove_database (σ.storages storage) row.id true
  cases hremove : (σ.storages storage).removePendingMqttMessage row.id true with
  | mk service removed =>
    rw [hremove] at htrue hdatabase
    obtain rfl : removed = true := htrue
    obtain ⟨-, ⟨-, htail⟩ | ⟨hfalse, -⟩⟩ :=
      remove_outbox _ service row tail true true houtbox hremove
    · simp only [MqttState.replayRemove, hremove]
      refine ⟨⟨rfl, ?_⟩, ?_⟩
      · refine ⟨by simp, hstart.online.connected, hstart.online.stopping, ?_⟩
        exact (database_update hdatabase storage).trans hstart.online.database
      · rw [Function.update_self, htail]
    · cases hfalse

/-- A row that cannot be sent ends the pass. -/
theorem PassStart.refuseRow (hstart : PassStart storage σ) (row : PendingMqttMessage)
    (tail : List PendingMqttMessage) (houtbox : (σ.storages storage).outbox = row :: tail)
    (hrefused : policy.acceptsRow row = false) :
    ∃ σ', PassReaches config format policy σ σ' ∧ σ'.replay = .endPass := by
  have hloaded : PassReaches config format policy σ _ := hstart.load row tail houtbox
  refine ⟨_, PassReaches.next hloaded (.replayPublish (.failure false none)) rfl rfl
    ?_ rfl, ?_⟩
  · simp [answersPass, PublishResult.isSuccess, hrefused]
  · unfold MqttState.replayPublish
    split
    · rfl
    split
    · rfl
    · rfl

/-- Every pass can come to its end. -/
theorem PassStart.exists_endPass (rows : List PendingMqttMessage) :
    ∀ {σ : MqttState Thread}, PassStart storage σ → (σ.storages storage).outbox = rows →
      ∃ σ', PassReaches config format policy σ σ' ∧ σ'.replay = .endPass := by
  induction rows with
  | nil =>
    intro σ hstart houtbox
    refine ⟨_, PassReaches.next hstart.check (.replayLoad true) rfl rfl rfl rfl, ?_⟩
    cases hload : (σ.storages storage).loadPendingMqttMessages 1 true with
    | nil => simp [MqttState.replayLoad, hload]
    | cons first rest =>
      obtain ⟨tail, hhead⟩ := load_outbox _ true first rest hload
      rw [houtbox] at hhead
      cases hhead
  | cons row tail ih =>
    intro σ hstart houtbox
    cases hrow : policy.acceptsRow row with
    | false => exact hstart.refuseRow row tail houtbox hrow
    | true =>
      obtain ⟨σ', hpass, hstart', houtbox'⟩ := hstart.sendRow row tail houtbox hrow
      obtain ⟨σ'', hrest, hend⟩ := ih hstart' houtbox'
      exact ⟨σ'', TransitionSystem.Reachable.trans hpass (fun _ _ => id) hrest, hend⟩

/-! ## What a pass sends -/

/-- Where a pass ends, all rows that can be sent are gone exactly when none of them was
    behind a row that cannot be sent. -/
theorem PassStart.drained_iff {σ' : MqttState Thread} (hstart : PassStart storage σ)
    (hreach : (mqttSystem config format Thread).Reachable FreshMessageIds σ)
    (hpass : PassReaches config format policy σ σ') (hend : σ'.replay = .endPass) :
    (∀ row ∈ (σ.storages storage).outbox, policy.acceptsRow row = true →
        SentAndRemoved σ' storage row) ↔
      NoneBehindRefused policy (σ.storages storage).outbox := by
  obtain ⟨before, hbefore, -⟩ := (outboxInv_of_reachable hreach).accounted storage
  have hreach' := hreach.trans (fun _ _ hstep => hstep.fresh) hpass
  obtain ⟨gone, appended, henqueued, hrows, haccepted, hat⟩ :=
    (passInv_of_pass hreach hstart hbefore hpass).progress
  rw [hend] at hat
  -- the ids of all rows that were ever enqueued increase
  have hnodup : (gone ++ (σ'.storages storage).outbox).Nodup := by
    have hids := ((outboxInv_of_reachable hreach').ids storage).1
    rw [henqueued] at hids
    have hdistinct : (before ++ (gone ++ (σ'.storages storage).outbox)).Nodup :=
      List.Nodup.of_map PendingMqttMessage.id (hids.imp fun hlt => Nat.ne_of_lt hlt)
    exact hdistinct.of_append_right
  rw [← left_iff_of_endPass hrows hnodup haccepted hat]
  apply forall₂_congr
  intro row hmem
  apply imp_congr_right
  intro _
  apply sentAndRemoved_iff hreach'
  rw [henqueued, hrows]
  exact List.mem_append_right before (List.mem_append_left appended hmem)

/-- **A pass of the replay thread.** From any reachable state in which the replay thread
    starts a pass over the outbox, while the connection stays up, SQLite works and every
    message that libmosquitto accepts is acknowledged, whatever the other threads do: the
    pass can come to its end, and where it ends all rows that libmosquitto accepts have been
    sent and removed if and only if none of them was behind a row that it refuses. -/
theorem replay_pass_drains_iff (config : MqttConfig) (format : FloatFormat)
    (policy : PublishPolicy) (storage : StorageId) (σ : MqttState Thread)
    (hreach : (mqttSystem config format Thread).Reachable FreshMessageIds σ)
    (hstart : PassStart storage σ) :
    (∃ σ', PassReaches config format policy σ σ' ∧ σ'.replay = .endPass) ∧
    ∀ σ', PassReaches config format policy σ σ' → σ'.replay = .endPass →
      ((∀ row ∈ (σ.storages storage).outbox, policy.acceptsRow row = true →
          SentAndRemoved σ' storage row) ↔
        NoneBehindRefused policy (σ.storages storage).outbox) :=
  ⟨hstart.exists_endPass _ rfl, fun _ hpass hend => hstart.drained_iff hreach hpass hend⟩

/-- What libmosquitto accepts, as far as ASCII topics go: no wildcard in the topic, and its
    limits on both lengths. -/
def mosquittoPolicy : PublishPolicy where
  accepts topic payload := !topic.isEmpty && !topic.contains 0x2B && !topic.contains 0x23 &&
    topic.length ≤ 65535 && payload.length ≤ 268435455
  topic_ne_nil := by
    rintro topic payload haccepts rfl
    cases haccepts
  length_le := by
    intro topic payload haccepts
    simp only [Bool.and_eq_true, decide_eq_true_eq] at haccepts
    exact Nat.le_trans haccepts.2 (by decide)

/-- Two messages are buffered, for the tags `first` and `second` of a device, and the replay
    thread starts its pass. -/
def passSteps (first second : Bytes) : List (MqttAction Bool) :=
  [[.connect .started], bufferSteps false (namedMessage (ascii "d") first),
    bufferSteps false (namedMessage (ascii "d") second),
    [.handleConnect 0 true, .replayWait]].flatten

/-- The start of that pass. -/
theorem exists_passStart (first second : Bytes) (accepted : List Bool)
    (h : ((mqttSystem {} oneFormat Bool).run FreshMessageIds .fresh
      (passSteps first second)).any (fun σ => σ.replay = .checkConnected 0 ∧
        σ.client = some 0 ∧ σ.connected = true ∧ σ.stopping = false ∧
        (σ.storages 0).database = true ∧
        (σ.storages 0).outbox.map mosquittoPolicy.acceptsRow = accepted) = true) :
    ∃ σ : MqttState Bool, (mqttSystem {} oneFormat Bool).Reachable FreshMessageIds σ ∧
      PassStart 0 σ ∧ (σ.storages 0).outbox.map mosquittoPolicy.acceptsRow = accepted := by
  obtain ⟨σ, -, hreach, hσ⟩ := TransitionSystem.exists_of_run (mqttSystem {} oneFormat Bool)
    FreshMessageIds (passSteps first second) _ MqttState.fresh_initial h
  rw [decide_eq_true_eq] at hσ
  obtain ⟨hreplay, hclient, hconnected, hstopping, hdatabase, haccepted⟩ := hσ
  exact ⟨σ, hreach, ⟨hreplay, by simp [hclient], hconnected, hstopping, hdatabase⟩, haccepted⟩

/-- Whether rows are behind refused ones depends on what is accepted of them. -/
theorem noneBehindRefused_iff (policy : PublishPolicy) (rows : List PendingMqttMessage) :
    NoneBehindRefused policy rows ↔ (rows.map policy.acceptsRow).Pairwise
      fun earlier later => later = true → earlier = true := by
  unfold NoneBehindRefused
  rw [List.pairwise_map]

set_option maxRecDepth 4000 in
/-- A row with a wildcard in its topic is left behind the row that is sent. -/
theorem replay_pass_drains_sample :
    ∃ σ σ' : MqttState Bool, PassStart 0 σ ∧
      (σ.storages 0).outbox.map mosquittoPolicy.acceptsRow = [true, false] ∧
      PassReaches {} oneFormat mosquittoPolicy σ σ' ∧ σ'.replay = .endPass ∧
      ∀ row ∈ (σ.storages 0).outbox, mosquittoPolicy.acceptsRow row = true →
        SentAndRemoved σ' 0 row := by
  obtain ⟨σ, hreach, hstart, haccepted⟩ :=
    exists_passStart (ascii "t") (ascii "a+b") [true, false] (by decide)
  obtain ⟨⟨σ', hpass, hend⟩, hiff⟩ :=
    replay_pass_drains_iff {} oneFormat mosquittoPolicy 0 σ hreach hstart
  refine ⟨σ, σ', hstart, haccepted, hpass, hend, (hiff σ' hpass hend).mpr ?_⟩
  rw [noneBehindRefused_iff, haccepted]
  decide

set_option maxRecDepth 4000 in
/-- In front of it, it keeps that row from being sent. -/
theorem refused_row_blocks :
    ¬ ∀ (policy : PublishPolicy) (storage : StorageId) (σ σ' : MqttState Bool),
      (mqttSystem {} oneFormat Bool).Reachable FreshMessageIds σ → PassStart storage σ →
      PassReaches {} oneFormat policy σ σ' → σ'.replay = .endPass →
      ∀ row ∈ (σ.storages storage).outbox, policy.acceptsRow row = true →
        SentAndRemoved σ' storage row := by
  intro h
  obtain ⟨σ, hreach, hstart, haccepted⟩ :=
    exists_passStart (ascii "a+b") (ascii "t") [false, true] (by decide)
  obtain ⟨σ', hpass, hend⟩ : ∃ σ', PassReaches {} oneFormat mosquittoPolicy σ σ' ∧
      σ'.replay = .endPass := hstart.exists_endPass _ rfl
  have hdrained := h mosquittoPolicy 0 σ σ' hreach hstart hpass hend
  have hnone := (hstart.drained_iff hreach hpass hend).mp hdrained
  rw [noneBehindRefused_iff, haccepted] at hnone
  revert hnone
  decide

end EdgeLink
