import EdgeLink.Spec.MqttReplayThread
import EdgeLink.ForStd.History

/-!
# The order of forwarded messages

In which order libmosquitto gets the messages of one device and tag.

`forwardMessage` decides between publishing and buffering from `connected_` and
`replaying_`, not from the outbox. Between a CONNACK and the start of the pass, and after a
pass that has left rows behind, it publishes a new message while older ones still wait
(`newer_message_overtakes`). Where it does not decide so, the messages that wait are a queue
(`OrderInv`): a publisher adds its newest message at one end, the replay thread hands over
the oldest one at the other, and the order is kept (`forwarded_in_order`).
-/

namespace EdgeLink

open StorageService

variable {Thread : Type}

namespace MqttState

/-! ## The property -/

/-- Device and tag of the message of a call. -/
def tagOf (σ : MqttState Thread) (call : CallId Thread) : Option (Bytes × Bytes) :=
  ((σ.puts call.thread)[call.number]?).map fun message => (message.deviceId, message.tagName)

/-- An earlier call of the same publisher for the same device and tag. -/
def Older (σ : MqttState Thread) (older call : CallId Thread) : Prop :=
  older.thread = call.thread ∧ older.number < call.number ∧ σ.tagOf older = σ.tagOf call

/-- When libmosquitto gets a message, it has got all older ones. -/
def HandedInOrder (σ : MqttState Thread) : Prop :=
  σ.handed.Chronicle fun past call => ∀ older, σ.Older older call → older ∈ past

/-! ## The condition -/

/-- The calls whose messages wait in the outbox, in the order of the rows. -/
def waitingCalls (σ : MqttState Thread) : List (CallId Thread) :=
  match σ.offlineStorage with
  | none => []
  | some storage =>
    (σ.storages storage).outbox.filterMap fun message => σ.rowCall storage message.id

/-- The offline storage stays as it is, and every `enqueueMqttMessage` succeeds. -/
def enqueueSucceeds (config : MqttConfig) (format : FloatFormat) (σ : MqttState Thread) :
    MqttAction Thread → Bool
  | .setOfflineStorage storage => storage = σ.offlineStorage
  | .forwardEnqueue thread now sqlite =>
    match σ.forwards thread with
    | .enqueue message (some storage) =>
      ((σ.storages storage).enqueueMqttMessage (forwardTopic config.topicPrefix message)
        (messageToJson format message) false now sqlite).2
    | .enqueue _ none => false
    | _ => true
  | _ => true

/-- `forwardMessage` does not decide to publish while the outbox holds an older message that
    libmosquitto has not got. -/
def DecidesInOrder (σ : MqttState Thread) : MqttAction Thread → Prop
  | .forwardDecide thread => σ.connected = true → σ.replaying = false →
    ∀ older ∈ σ.waitingCalls, σ.Older older (σ.currentCall thread) → older ∈ σ.handed
  | _ => True

/-- Both, for every step of a run. -/
def OrderedForwarding (config : MqttConfig) (format : FloatFormat) (σ : MqttState Thread)
    (action : MqttAction Thread) : Prop :=
  σ.enqueueSucceeds config format action ∧ σ.DecidesInOrder action

end MqttState

/-! ## The invariant -/

/-- `forwardMessage` has neither published nor buffered its message. -/
def ForwardPc.unsettled : ForwardPc → Bool
  | .decide _ | .publish _ _ | .enqueue _ _ => true
  | _ => false

/-- The local variable `offlineStorage` of `forwardMessage`. -/
def ForwardPc.captured : ForwardPc → Option (Option StorageId)
  | .publish _ offlineStorage | .enqueue _ offlineStorage => some offlineStorage
  | _ => none

/-- `offlineStorage` is read in `forwardMessage` only. -/
theorem ForwardPc.unsettled_of_captured {pc : ForwardPc} {storage : Option StorageId}
    (h : pc.captured = some storage) : pc.unsettled = true := by
  cases pc <;> first | rfl | exact nomatch h

/-- The row that libmosquitto has got from the replay thread. -/
def ReplayPc.taken : ReplayPc → Option (StorageId × PendingMqttMessage)
  | .awaitAck storage message | .remove storage message => some (storage, message)
  | _ => Option.none

/-- Without rows of this run no call waits. -/
theorem waitingCalls_of_rowCall_none {σ : MqttState Thread}
    (h : ∀ storage id, σ.rowCall storage id = none) : σ.waitingCalls = [] := by
  unfold MqttState.waitingCalls
  split
  · rfl
  · exact List.filterMap_eq_nil_iff.mpr fun message _ => h _ _

/-- That row is the one the thread works on. -/
theorem ReplayPc.current_of_taken {replay : ReplayPc} {row : StorageId × PendingMqttMessage}
    (h : replay.taken = some row) : replay.current = some row := by
  cases replay <;> first | exact h | exact nomatch h

/-- `forwardMessage` is still busy with the message of the call. -/
def MqttState.Pending (σ : MqttState Thread) (call : CallId Thread) : Prop :=
  (σ.forwards call.thread).unsettled = true ∧ call = σ.currentCall call.thread

/-- The invariant behind the order. -/
structure OrderInv (σ : MqttState Thread) : Prop where
  captured : ∀ thread storage, (σ.forwards thread).captured = some storage →
    storage = σ.offlineStorage
  pass : ∀ storage, σ.replay.passStorage = some storage → σ.offlineStorage = some storage
  -- where the message of a call can be
  started : ∀ thread, (σ.forwards thread).unsettled = true → σ.puts thread ≠ []
  known : ∀ call, call ∈ σ.handed ∨ call ∈ σ.waitingCalls →
    call.number < (σ.puts call.thread).length
  settled : ∀ call, call.number < (σ.puts call.thread).length →
    σ.Pending call ∨ call ∈ σ.handed ∨ call ∈ σ.waitingCalls
  pending : ∀ thread, (σ.forwards thread).unsettled = true →
    σ.currentCall thread ∉ σ.waitingCalls
  -- the outbox is a queue
  waiting : σ.waitingCalls.Pairwise fun call later =>
    call.thread = later.thread → call.number < later.number
  -- what the next hand-over relies on
  publishing : ∀ thread message storage, σ.forwards thread = .publish message storage →
    ∀ older, σ.Older older (σ.currentCall thread) → older ∈ σ.handed
  taken : ∀ storage message, σ.replay.taken = some (storage, message) →
    ∀ call, σ.rowCall storage message.id = some call → call ∈ σ.handed
  order : σ.HandedInOrder

/-- The initial states satisfy the invariant. -/
theorem OrderInv.initial {σ : MqttState Thread} (h : σ.Initial) : OrderInv σ := by
  have hwaiting := waitingCalls_of_rowCall_none h.rowCall
  constructor
  case order =>
    unfold MqttState.HandedInOrder
    rw [h.handed]
    exact List.chronicle_nil
  all_goals simp [hwaiting, h.forwards, h.replay, h.handed, h.puts, ForwardPc.captured,
    ForwardPc.unsettled, ReplayPc.passStorage, ReplayPc.taken]

/-- While a publisher is busy with a message, that is the last one it has put on the bus. -/
theorem OrderInv.currentCall_lt {σ : MqttState Thread} (h : OrderInv σ) (thread : Thread)
    (hunsettled : (σ.forwards thread).unsettled = true) :
    (σ.currentCall thread).number < (σ.puts thread).length :=
  Nat.sub_lt (List.length_pos_iff.mpr (h.started thread hunsettled)) Nat.one_pos

/-- All older messages of a call are settled: libmosquitto has got them, or they wait. -/
theorem OrderInv.older_settled {σ : MqttState Thread} (h : OrderInv σ)
    {older call : CallId Thread} (hlt : call.number < (σ.puts call.thread).length)
    (holder : σ.Older older call) : older ∈ σ.handed ∨ older ∈ σ.waitingCalls := by
  obtain ⟨hthread, hnumber, -⟩ := holder
  rw [← hthread] at hlt
  refine (h.settled older (Nat.lt_trans hnumber hlt)).resolve_left ?_
  -- a pending call is the last one of its thread
  rintro ⟨-, heq⟩
  have hlast : older.number = (σ.puts older.thread).length - 1 := congrArg CallId.number heq
  omega

/-! ## What a step can leave alone -/

/-- The invariant does not depend on connection, flags and controller, nor on what becomes
    of the messages that libmosquitto has got. -/
theorem OrderInv.frame {σ : MqttState Thread} (h : OrderInv σ) {client : Option ClientId}
    {loopRunning connected initialConnectionCompleted stopping replayRequested : Bool}
    {replaying : Bool} {replayMessageId : Nat} {replayPublishAcknowledged : Bool}
    {controller : ControllerPc} {nextClient : ClientId}
    {outstanding completed : List (Publication Thread)}
    {enqueued : StorageId → List PendingMqttMessage} {removed : StorageId → List Nat}
    {clientEvents : List ClientEvent} :
    OrderInv { σ with
      client, loopRunning, connected, initialConnectionCompleted, stopping, replayRequested
      replaying, replayMessageId, replayPublishAcknowledged, controller, nextClient
      outstanding, completed, enqueued, removed, clientEvents } :=
  ⟨h.captured, h.pass, h.started, h.known, h.settled, h.pending, h.waiting, h.publishing,
    h.taken, h.order⟩

/-- The replay thread moves, with the row that libmosquitto has got or without one. -/
theorem OrderInv.moveReplay {σ : MqttState Thread} (h : OrderInv σ) (replay : ReplayPc)
    (hpass : ∀ storage, replay.passStorage = some storage → σ.offlineStorage = some storage)
    (htaken : ∀ storage message, replay.taken = some (storage, message) →
      ∀ call, σ.rowCall storage message.id = some call → call ∈ σ.handed) :
    OrderInv { σ with replay } :=
  ⟨h.captured, hpass, h.started, h.known, h.settled, h.pending, h.waiting, h.publishing,
    htaken, h.order⟩

/-- The replay thread gives up, or goes on to a point where libmosquitto has no row of it. -/
theorem OrderInv.leaveRow {σ : MqttState Thread} (h : OrderInv σ) (replay : ReplayPc)
    (hpass : ∀ storage, replay.passStorage = some storage → σ.replay.passStorage = some storage)
    (htaken : replay.taken = none) : OrderInv { σ with replay } :=
  h.moveReplay replay (fun storage heq => h.pass storage (hpass storage heq))
    fun storage message heq => by rw [htaken] at heq; exact nomatch heq

/-- libmosquitto gets a message whose older messages it has got. -/
theorem OrderInv.handOver {σ : MqttState Thread} (h : OrderInv σ)
    (source : PublicationSource Thread) (calls : List (CallId Thread))
    (hcalls : calls = [] ∨ calls = (σ.callOf source).toList)
    (hknown : ∀ call, σ.callOf source = some call →
      call.number < (σ.puts call.thread).length)
    (holder : ∀ call, σ.callOf source = some call →
      ∀ older, σ.Older older call → older ∈ σ.handed) :
    OrderInv { σ with handed := σ.handed ++ calls } := by
  -- libmosquitto gets the message of one call or of none
  have hone : calls = [] ∨ ∃ call, calls = [call] ∧ σ.callOf source = some call := by
    cases hcall : σ.callOf source with
    | none => simpa [hcall] using hcalls
    | some call => simpa [hcall] using hcalls
  rcases hone with rfl | ⟨call, rfl, hcall⟩
  · rw [List.append_nil]
    exact h
  · refine ⟨h.captured, h.pass, h.started, fun c hc => ?_, fun c hc => ?_, h.pending, h.waiting,
      fun t m s hpc older hold => List.mem_append_left _ (h.publishing t m s hpc older hold),
      fun s m htaken c hc => List.mem_append_left _ (h.taken s m htaken c hc), ?_⟩
    · rcases hc with hmem | hmem
      · rcases List.mem_append.mp hmem with hmem | hmem
        · exact h.known c (.inl hmem)
        · rw [List.mem_singleton.mp hmem]
          exact hknown call hcall
      · exact h.known c (.inr hmem)
    · exact (h.settled c hc).imp_right (Or.imp_left (List.mem_append_left _))
    · exact (List.chronicle_append_singleton _ _).mpr ⟨h.order, holder call hcall⟩

/-- What `publish` leaves alone. -/
theorem OrderInv.publish {σ : MqttState Thread} (h : OrderInv σ) (topic payload : Bytes)
    (retain : Bool) (source : PublicationSource Thread) (result : PublishResult)
    (hknown : ∀ call, σ.callOf source = some call →
      call.number < (σ.puts call.thread).length)
    (holder : ∀ call, σ.callOf source = some call →
      ∀ older, σ.Older older call → older ∈ σ.handed) :
    OrderInv (σ.publish topic payload retain source result).1 := by
  obtain ⟨connected, new, handed, events, hstate, -, -, -, hhanded, -⟩ :=
    σ.publish_spec topic payload retain source result
  rw [hstate]
  exact (h.handOver source handed hhanded hknown holder).frame

/-! ## Publishers -/

variable [DecidableEq Thread]

/-- A publisher moves on with its message, or is done with a message that libmosquitto has
    got or that waits. -/
theorem OrderInv.setForward {σ : MqttState Thread} (h : OrderInv σ) (thread : Thread)
    (pc : ForwardPc)
    (hcaptured : ∀ storage, pc.captured = some storage → storage = σ.offlineStorage)
    (hunsettled : pc.unsettled = true → (σ.forwards thread).unsettled = true)
    (hsettled : (σ.forwards thread).unsettled = true → pc.unsettled = true ∨
      σ.currentCall thread ∈ σ.handed ∨ σ.currentCall thread ∈ σ.waitingCalls)
    (hpublishing : ∀ message storage, pc = .publish message storage →
      ∀ older, σ.Older older (σ.currentCall thread) → older ∈ σ.handed) :
    OrderInv (σ.setForward thread pc) := by
  have hother {thread'} (hne : thread' ≠ thread) :
      (σ.setForward thread pc).forwards thread' = σ.forwards thread' :=
    Function.update_of_ne hne _ _
  have hself : (σ.setForward thread pc).forwards thread = pc := Function.update_self ..
  -- no thread has a call that it did not have before
  have hbusy (thread') (hbusy : ((σ.setForward thread pc).forwards thread').unsettled = true) :
      (σ.forwards thread').unsettled = true := by
    by_cases heq : thread' = thread
    · rw [heq] at hbusy ⊢
      rw [hself] at hbusy
      exact hunsettled hbusy
    · rwa [hother heq] at hbusy
  refine ⟨fun thread' storage hcap => ?_, h.pass, fun thread' hun => h.started _ (hbusy _ hun),
    h.known, fun call hlt => ?_, fun thread' hun => h.pending _ (hbusy _ hun), h.waiting,
    fun thread' message storage hpc => ?_, h.taken, h.order⟩
  · -- captured
    by_cases heq : thread' = thread
    · rw [heq, hself] at hcap
      exact hcaptured storage hcap
    · rw [hother heq] at hcap
      exact h.captured thread' storage hcap
  · -- settled: only the current call of the thread can change its place
    refine (h.settled call hlt).elim (fun ⟨hun, hcall⟩ => ?_) .inr
    by_cases heq : call.thread = thread
    · rw [heq] at hun hcall
      rw [hcall]
      exact (hsettled hun).imp_left fun hpc => ⟨by rw [← hself] at hpc; exact hpc, rfl⟩
    · exact .inl ⟨by rw [hother heq]; exact hun, hcall⟩
  · -- publishing
    by_cases heq : thread' = thread
    · rw [heq, hself] at hpc
      rw [heq]
      exact hpublishing message storage hpc
    · rw [hother heq] at hpc
      exact h.publishing thread' message storage hpc

/-- The decision keeps the invariant, if no older message waits where it is to publish. -/
theorem OrderInv.forwardDecide {σ : MqttState Thread} (h : OrderInv σ) (thread : Thread)
    (message : Message) (hforward : σ.forwards thread = .decide message)
    (hok : σ.DecidesInOrder (.forwardDecide thread)) :
    OrderInv (σ.forwardDecide thread message) := by
  have hunsettled : (σ.forwards thread).unsettled = true := by rw [hforward]; rfl
  refine h.setForward thread _ ?_ (fun _ => hunsettled) (fun _ => .inl ?_) ?_
  · intro storage hcaptured
    split at hcaptured <;> exact (Option.some.inj hcaptured).symm
  · split <;> rfl
  · intro message' storage hpc older holder
    split at hpc
    · exact nomatch hpc
    · rename_i hbuffer
      simp only [Bool.or_eq_true, Bool.not_eq_true', not_or, Bool.not_eq_true,
        Bool.not_eq_false] at hbuffer
      -- the condition rules out that an older message waits
      cases h.older_settled (h.currentCall_lt thread hunsettled) holder with
      | inl hhanded => exact hhanded
      | inr hwaits => exact hok hbuffer.1 hbuffer.2 older hwaits holder

/-- Publishing the message of a call keeps the invariant. -/
theorem OrderInv.forwardPublish {σ : MqttState Thread} (h : OrderInv σ) (config : MqttConfig)
    (format : FloatFormat) (thread : Thread) (message : Message)
    (offlineStorage : Option StorageId) (result : PublishResult)
    (hforward : σ.forwards thread = .publish message offlineStorage) :
    OrderInv (σ.forwardPublish config format thread message offlineStorage result) := by
  have hunsettled : (σ.forwards thread).unsettled = true := by rw [hforward]; rfl
  have hcaptured : offlineStorage = σ.offlineStorage :=
    h.captured thread offlineStorage (by rw [hforward]; rfl)
  -- while this thread publishes, all older calls are handed over
  have hpublished := h.publish (forwardTopic config.topicPrefix message)
    (messageToJson format message) false (.forwarded (σ.currentCall thread)) result
    (fun call hcall => by
      obtain rfl := Option.some.inj hcall
      exact h.currentCall_lt thread hunsettled)
    (fun call hcall => by
      obtain rfl := Option.some.inj hcall
      exact h.publishing thread message offlineStorage hforward)
  obtain ⟨connected, new, handed, events, hstate, -, -, -, -, htrue, -⟩ :=
    σ.publish_spec (forwardTopic config.topicPrefix message) (messageToJson format message)
      false (.forwarded (σ.currentCall thread)) result
  unfold MqttState.forwardPublish
  split <;> rename_i published hresult <;> rw [hresult] at hpublished hstate htrue <;>
    dsimp only at hstate <;> subst hstate
  · -- libmosquitto has the message, and the call is over
    refine hpublished.setForward thread .idle (fun _ heq => nomatch heq) (fun heq => nomatch heq)
      (fun _ => .inr (.inl ?_)) (fun _ _ heq => nomatch heq)
    show σ.currentCall thread ∈ σ.handed ++ handed
    rw [htrue rfl]
    exact List.mem_append_right _ (List.mem_singleton.mpr rfl)
  · -- the message still has to be buffered
    exact hpublished.setForward thread (.enqueue message offlineStorage)
      (fun _ heq => (Option.some.inj heq).symm.trans hcaptured) (fun _ => hunsettled)
      (fun _ => .inl rfl) (fun _ _ heq => nomatch heq)

/-- A new message of one thread, which is idle: what another thread can see. -/
theorem MqttState.forward_other (σ : MqttState Thread) {thread thread' : Thread} (message : Message)
    (hne : thread' ≠ thread) :
    (σ.forward thread message).forwards thread' = σ.forwards thread' ∧
      (σ.forward thread message).puts thread' = σ.puts thread' := by
  unfold MqttState.forward
  split
  · exact ⟨rfl, rfl⟩
  · exact ⟨Function.update_of_ne hne _ _, Function.update_of_ne hne _ _⟩

/-- A new message is ignored, or it is the last one that its thread has put on the bus. -/
theorem MqttState.forward_self (σ : MqttState Thread) (thread : Thread) (message : Message) :
    σ.forward thread message = σ ∨
      (σ.forward thread message).forwards thread = .decide message ∧
        (σ.forward thread message).puts thread = σ.puts thread ++ [message] := by
  unfold MqttState.forward
  split
  · exact .inl rfl
  · exact .inr ⟨Function.update_self .., Function.update_self ..⟩

/-- A new message does not change where the others are. -/
theorem MqttState.forward_rest (σ : MqttState Thread) (thread : Thread) (message : Message) :
    (σ.forward thread message).handed = σ.handed ∧
      (σ.forward thread message).waitingCalls = σ.waitingCalls ∧
      (σ.forward thread message).rowCall = σ.rowCall ∧
      (σ.forward thread message).replay = σ.replay ∧
      (σ.forward thread message).offlineStorage = σ.offlineStorage := by
  unfold MqttState.forward
  split <;> exact ⟨rfl, rfl, rfl, rfl, rfl⟩

/-- A new message does not change which messages are older than another one. -/
theorem MqttState.forward_older {σ : MqttState Thread} (thread : Thread) (message : Message)
    {older call : CallId Thread} (hlt : call.number < (σ.puts call.thread).length) :
    (σ.forward thread message).Older older call ↔ σ.Older older call := by
  have htag {call : CallId Thread} (hlt : call.number < (σ.puts call.thread).length) :
      (σ.forward thread message).tagOf call = σ.tagOf call := by
    unfold MqttState.tagOf
    by_cases heq : call.thread = thread
    · rw [heq] at hlt ⊢
      rcases σ.forward_self thread message with hignored | ⟨-, hputs⟩
      · rw [hignored]
      · rw [hputs, List.getElem?_append_left hlt]
    · rw [(σ.forward_other message heq).2]
  refine and_congr_right fun hthread => and_congr_right fun hnumber => ?_
  rw [htag hlt, htag (by rw [hthread]; exact Nat.lt_trans hnumber hlt)]

/-- A new message keeps the invariant. -/
theorem OrderInv.forward {σ : MqttState Thread} (h : OrderInv σ) (thread : Thread)
    (message : Message) (hforward : σ.forwards thread = .idle) :
    OrderInv (σ.forward thread message) := by
  rcases σ.forward_self thread message with hignored | ⟨hpc, hputs⟩
  · rw [hignored]
    exact h
  obtain ⟨hhanded, hwaiting, hrow, hreplay, hoffline⟩ := σ.forward_rest thread message
  have hother {thread'} (hne : thread' ≠ thread) := σ.forward_other message hne
  constructor
  case pass => rw [hreplay, hoffline]; exact h.pass
  case waiting => rw [hwaiting]; exact h.waiting
  case taken => rw [hreplay, hrow, hhanded]; exact h.taken
  case captured =>
    intro thread' storage hcaptured
    rw [hoffline]
    by_cases heq : thread' = thread
    · rw [heq, hpc] at hcaptured
      exact nomatch hcaptured
    · rw [(hother heq).1] at hcaptured
      exact h.captured thread' storage hcaptured
  case started =>
    intro thread' hunsettled
    by_cases heq : thread' = thread
    · rw [heq, hputs]
      exact List.append_ne_nil_of_right_ne_nil _ (List.cons_ne_nil _ _)
    · rw [(hother heq).1] at hunsettled
      rw [(hother heq).2]
      exact h.started thread' hunsettled
  case known =>
    intro call hcall
    rw [hhanded, hwaiting] at hcall
    have hlt := h.known call hcall
    by_cases heq : call.thread = thread
    · rw [heq] at hlt ⊢
      rw [hputs, List.length_append]
      exact Nat.lt_add_right _ hlt
    · rwa [(hother heq).2]
  case settled =>
    intro call hlt
    rw [hhanded, hwaiting]
    by_cases heq : call.thread = thread
    · rw [heq, hputs, List.length_append] at hlt
      rcases Nat.lt_or_eq_of_le (Nat.le_of_lt_succ hlt) with hold | hnew
      · -- the thread was idle, so its older calls are settled
        refine .inr ((h.settled call (heq ▸ hold)).resolve_left fun ⟨hunsettled, _⟩ => ?_)
        rw [heq, hforward] at hunsettled
        exact nomatch hunsettled
      · refine .inl ⟨by rw [heq, hpc]; rfl, ?_⟩
        rw [heq, MqttState.currentCall, hputs, List.length_append, List.length_singleton,
          Nat.add_sub_cancel, ← hnew, ← heq]
    · rw [(hother heq).2] at hlt
      refine (h.settled call hlt).imp_left fun ⟨hunsettled, hcall⟩ => ⟨?_, ?_⟩
      · rwa [(hother heq).1]
      · rwa [MqttState.currentCall, (hother heq).2]
  case pending =>
    intro thread' hunsettled hwaits
    rw [hwaiting] at hwaits
    by_cases heq : thread' = thread
    · -- the new call cannot wait in the outbox already
      have hlt := h.known _ (.inr hwaits)
      rw [heq] at hlt
      simp [MqttState.currentCall, hputs] at hlt
    · rw [(hother heq).1] at hunsettled
      rw [MqttState.currentCall, (hother heq).2] at hwaits
      exact h.pending thread' hunsettled hwaits
  case publishing =>
    intro thread' message' storage hpublish older holder
    rw [hhanded]
    by_cases heq : thread' = thread
    · rw [heq, hpc] at hpublish
      exact nomatch hpublish
    · rw [(hother heq).1] at hpublish
      rw [MqttState.currentCall, (hother heq).2] at holder
      have hlt := h.currentCall_lt thread' (by rw [hpublish]; rfl)
      exact h.publishing thread' message' storage hpublish older
        ((MqttState.forward_older thread message hlt).mp holder)
  case order =>
    unfold MqttState.HandedInOrder
    rw [hhanded]
    intro past call future heq older holder
    -- the new call is not older than one that was handed over
    have hmem : call ∈ σ.handed := heq ▸ List.mem_append_right _ List.mem_cons_self
    exact h.order past call future heq older
      ((MqttState.forward_older thread message (h.known call (.inl hmem))).mp holder)

/-- What an enqueue touches: the new row is the last one of its outbox and belongs to the
    call; the calls of the other rows stay. -/
theorem MqttState.forwardEnqueue_spec {σ : MqttState Thread} {config : MqttConfig}
    {format : FloatFormat} (thread : Thread) {message : Message} {storage : StorageId}
    {now : Int64} {sqlite : Bool} {service : StorageService}
    (henqueue : (σ.storages storage).enqueueMqttMessage
      (forwardTopic config.topicPrefix message) (messageToJson format message) false now sqlite =
        (service, true)) :
    ∃ storages rowCall enqueued pending,
      σ.forwardEnqueue config format thread message (some storage) now sqlite =
        { σ with
          storages, rowCall, enqueued
          forwards := Function.update σ.forwards thread (.request message) } ∧
      (storages storage).outbox = (σ.storages storage).outbox ++ [pending] ∧
      rowCall storage pending.id = some (σ.currentCall thread) ∧
      ∀ storage', ∀ row ∈ (σ.storages storage').outbox,
        rowCall storage' row.id = σ.rowCall storage' row.id := by
  obtain ⟨hsequence, houtbox⟩ := enqueue_outbox _ service _ _ _ _ _ henqueue
  unfold MqttState.forwardEnqueue
  dsimp only
  rw [henqueue]
  refine ⟨_, _, _, _, rfl, by rw [Function.update_self, houtbox], ?_, ?_⟩
  · rw [Function.update_self]
    exact Function.update_self ..
  · intro storage' row hmem
    by_cases heq : storage' = storage
    · subst heq
      -- the new id is larger than those of the other rows
      have hrow : row.id ∈ (σ.storages storage').mqttOutbox.ids :=
        outbox_ids (σ.storages storage') ▸ List.mem_map_of_mem hmem
      have hle := ((σ.storages storage').mqttOutbox.bounded _ hrow).2
      rw [Function.update_self, Function.update_of_ne (by omega)]
    · rw [Function.update_of_ne heq]

/-- A message that has been enqueued waits behind all others. -/
theorem OrderInv.enqueue {σ : MqttState Thread} (h : OrderInv σ) (hthread : ReplayInv σ)
    (config : MqttConfig) (format : FloatFormat) (thread : Thread) (message : Message)
    {storage : StorageId} (now : Int64) (sqlite : Bool) {service : StorageService}
    (hforward : σ.forwards thread = .enqueue message (some storage))
    (henqueue : (σ.storages storage).enqueueMqttMessage
      (forwardTopic config.topicPrefix message) (messageToJson format message) false now sqlite =
        (service, true)) :
    OrderInv (σ.forwardEnqueue config format thread message (some storage) now sqlite) := by
  have hunsettled : (σ.forwards thread).unsettled = true := by rw [hforward]; rfl
  have hstorage : σ.offlineStorage = some storage :=
    (h.captured thread (some storage) (by rw [hforward]; rfl)).symm
  obtain ⟨storages, rowCall, enqueued, pending, hstate, houtbox, hpending, hrows⟩ :=
    MqttState.forwardEnqueue_spec thread henqueue
  have hwaiting :
      (σ.forwardEnqueue config format thread message (some storage) now sqlite).waitingCalls =
        σ.waitingCalls ++ [σ.currentCall thread] := by
    rw [hstate]
    unfold MqttState.waitingCalls
    dsimp only
    rw [hstorage]
    dsimp only
    rw [houtbox, List.filterMap_append, List.filterMap_congr (hrows storage)]
    simp [hpending]
  have hself : (σ.forwardEnqueue config format thread message (some storage) now
      sqlite).forwards thread = .request message := by
    rw [hstate]
    exact Function.update_self ..
  have hother {thread'} (hne : thread' ≠ thread) : (σ.forwardEnqueue config format thread message
      (some storage) now sqlite).forwards thread' = σ.forwards thread' := by
    rw [hstate]
    exact Function.update_of_ne hne _ _
  have hbusy {thread'} (hun : ((σ.forwardEnqueue config format thread message (some storage) now
      sqlite).forwards thread').unsettled = true) :
      thread' ≠ thread ∧ (σ.forwards thread').unsettled = true := by
    have hne : thread' ≠ thread := by
      rintro rfl
      rw [hself] at hun
      exact nomatch hun
    exact ⟨hne, by rwa [hother hne] at hun⟩
  rw [hstate] at hwaiting hother hbusy ⊢
  constructor
  case pass => exact h.pass
  case order => exact h.order
  case started => exact fun thread' hbusy' => h.started thread' (hbusy hbusy').2
  case captured =>
    intro thread' storage' hcaptured
    rw [hother (hbusy (ForwardPc.unsettled_of_captured hcaptured)).1] at hcaptured
    exact h.captured thread' storage' hcaptured
  case known =>
    intro call hcall
    rw [hwaiting, List.mem_append, List.mem_singleton, ← or_assoc] at hcall
    rcases hcall with hcall | rfl
    · exact h.known call hcall
    · exact h.currentCall_lt thread hunsettled
  case settled =>
    intro call hlt
    rw [hwaiting, List.mem_append, List.mem_singleton]
    rcases h.settled call hlt with ⟨hbusy', hcall⟩ | hhanded | hwaits
    · by_cases heq : call.thread = thread
      · rw [heq] at hcall
        exact .inr (.inr (.inr hcall))
      · exact .inl ⟨by rw [hother heq]; exact hbusy', hcall⟩
    · exact .inr (.inl hhanded)
    · exact .inr (.inr (.inl hwaits))
  case pending =>
    intro thread' hbusy' hwaits
    rw [hwaiting, List.mem_append, List.mem_singleton] at hwaits
    obtain ⟨hne, hunsettled'⟩ := hbusy hbusy'
    exact hwaits.elim (h.pending thread' hunsettled') fun heq => hne (congrArg CallId.thread heq)
  case waiting =>
    rw [hwaiting]
    refine List.pairwise_append.mpr ⟨h.waiting, List.pairwise_singleton _ _, ?_⟩
    rintro ⟨thread', number⟩ hmem later hlater hsame
    obtain rfl := List.mem_singleton.mp hlater
    obtain rfl : thread' = thread := hsame
    -- the call is not the pending one, which is the last of its thread
    have hlt : number < (σ.puts thread').length := h.known _ (.inr hmem)
    have hne : number ≠ (σ.puts thread').length - 1 := fun heq =>
      h.pending thread' hunsettled (by rw [MqttState.currentCall, ← heq]; exact hmem)
    show number < (σ.puts thread').length - 1
    omega
  case publishing =>
    intro thread' message' storage' hpublish
    rw [hother (hbusy (by rw [hpublish]; rfl)).1] at hpublish
    exact h.publishing thread' message' storage' hpublish
  case taken =>
    intro storage' row htaken call hcall
    obtain ⟨tail, hhead⟩ := hthread.head storage' row (ReplayPc.current_of_taken htaken)
    have hmem : row ∈ (σ.storages storage').outbox := hhead ▸ List.mem_cons_self
    exact h.taken storage' row htaken call (hrows storage' row hmem ▸ hcall)

/-- Buffering a message keeps the invariant, if it succeeds. -/
theorem OrderInv.forwardEnqueue {σ : MqttState Thread} (h : OrderInv σ) (hthread : ReplayInv σ)
    (config : MqttConfig) (format : FloatFormat) (thread : Thread) (message : Message)
    (offlineStorage : Option StorageId) (now : Int64) (sqlite : Bool)
    (hforward : σ.forwards thread = .enqueue message offlineStorage)
    (hok : σ.enqueueSucceeds config format (.forwardEnqueue thread now sqlite)) :
    OrderInv (σ.forwardEnqueue config format thread message offlineStorage now sqlite) := by
  unfold MqttState.enqueueSucceeds at hok
  cases offlineStorage with
  | none => simp [hforward] at hok
  | some storage =>
    simp only [hforward] at hok
    generalize henqueue : (σ.storages storage).enqueueMqttMessage
      (forwardTopic config.topicPrefix message) (messageToJson format message) false now
        sqlite = result at hok
    obtain ⟨service, stored⟩ := result
    obtain rfl : stored = true := hok
    exact h.enqueue hthread config format thread message now sqlite hforward henqueue

/-! ## The replay thread -/

omit [DecidableEq Thread] in
/-- The oldest row of the outbox, and the calls of the others. -/
theorem MqttState.waitingCalls_of_head {σ : MqttState Thread} {storage : StorageId}
    {row : PendingMqttMessage} {tail : List PendingMqttMessage}
    (hstorage : σ.offlineStorage = some storage)
    (hhead : (σ.storages storage).outbox = row :: tail) :
    σ.waitingCalls = (σ.rowCall storage row.id).toList ++
      tail.filterMap fun message => σ.rowCall storage message.id := by
  unfold MqttState.waitingCalls
  rw [hstorage]
  dsimp only
  rw [hhead, List.filterMap_eq_flatMap_toList, List.flatMap_cons,
    ← List.filterMap_eq_flatMap_toList]

omit [DecidableEq Thread] in
/-- libmosquitto has got all messages that are older than the one of the oldest row. -/
theorem OrderInv.older_of_head {σ : MqttState Thread} (h : OrderInv σ) {storage : StorageId}
    {row : PendingMqttMessage} {tail : List PendingMqttMessage} {call : CallId Thread}
    (hstorage : σ.offlineStorage = some storage)
    (hhead : (σ.storages storage).outbox = row :: tail)
    (hcall : σ.rowCall storage row.id = some call) :
    call.number < (σ.puts call.thread).length ∧
      ∀ older, σ.Older older call → older ∈ σ.handed := by
  have hwaiting := MqttState.waitingCalls_of_head hstorage hhead
  rw [hcall, Option.toList_some, List.singleton_append] at hwaiting
  have hlt := h.known call (.inr (hwaiting ▸ List.mem_cons_self))
  refine ⟨hlt, fun older holder => (h.older_settled hlt holder).resolve_right fun hwaits => ?_⟩
  -- an older message cannot wait behind a newer one
  have hnumber := holder.2.1
  have hqueue := h.waiting
  rw [hwaiting] at hwaits hqueue
  rcases List.mem_cons.mp hwaits with rfl | htail
  · exact Nat.lt_irrefl _ hnumber
  · exact Nat.lt_asymm hnumber (List.rel_of_pairwise_cons hqueue htail holder.1.symm)

omit [DecidableEq Thread] in
/-- Publishing the oldest row keeps the invariant. -/
theorem OrderInv.replayPublish {σ : MqttState Thread} (h : OrderInv σ) (hthread : ReplayInv σ)
    (storage : StorageId) (message : PendingMqttMessage) (result : PublishResult)
    (hreplay : σ.replay = .publish storage message) :
    OrderInv (σ.replayPublish storage message result) := by
  have hstorage : σ.offlineStorage = some storage := h.pass storage (by rw [hreplay]; rfl)
  obtain ⟨tail, hhead⟩ := hthread.head storage message (by rw [hreplay]; rfl)
  have hgiveUp := h.leaveRow .endPass (fun _ heq => nomatch heq) rfl
  unfold MqttState.replayPublish
  split
  · exact hgiveUp
  · rename_i client hclient
    split
    · exact hgiveUp
    · -- the oldest row belongs to the oldest call that is not settled
      have hhandOver := fun calls hcalls => h.handOver (.outboxRow storage message.id) calls hcalls
        (fun call hcall => (h.older_of_head hstorage hhead hcall).1)
        (fun call hcall => (h.older_of_head hstorage hhead hcall).2)
      cases result with
      | success messageId =>
        have hpublished := hhandOver (σ.rowCall storage message.id).toList (.inr rfl)
        refine (hpublished.moveReplay (.awaitAck storage message) ?_ ?_).frame
        · intro storage' hpass
          obtain rfl := Option.some.inj hpass
          exact hstorage
        · intro storage' message' htaken call hcall
          obtain ⟨rfl, rfl⟩ := Prod.mk.inj (Option.some.inj htaken)
          exact List.mem_append_right _ (Option.mem_toList.mpr hcall)
      | failure connectionLost queued =>
        obtain ⟨new, handed, hstate, -, -, hhanded⟩ :=
          σ.mosquittoPublish_spec client 1 message.topic message.payload message.retain
            (.outboxRow storage message.id) (.failure connectionLost queued)
        dsimp only
        rw [hstate]
        exact ((hhandOver handed hhanded).leaveRow .endPass (fun _ heq => nomatch heq) rfl).frame

omit [DecidableEq Thread] in
/-- Removing the row of a message that libmosquitto has got keeps the invariant. -/
theorem OrderInv.replayRemove {σ : MqttState Thread} (h : OrderInv σ) (hthread : ReplayInv σ)
    (storage : StorageId) (message : PendingMqttMessage) (sqlite : Bool)
    (hreplay : σ.replay = .remove storage message) :
    OrderInv (σ.replayRemove storage message sqlite) := by
  have hstorage : σ.offlineStorage = some storage := h.pass storage (by rw [hreplay]; rfl)
  obtain ⟨tail, hhead⟩ := hthread.head storage message (by rw [hreplay]; rfl)
  unfold MqttState.replayRemove
  split
  · rename_i service hremove
    obtain ⟨-, ⟨-, houtbox⟩ | ⟨hfalse, -⟩⟩ :=
      remove_outbox _ service message tail sqlite true hhead hremove
    swap
    · exact nomatch hfalse
    -- the outbox loses the call of its first row
    have hwaiting : σ.waitingCalls = (σ.rowCall storage message.id).toList ++
        { σ with storages := Function.update σ.storages storage service }.waitingCalls := by
      rw [MqttState.waitingCalls_of_head hstorage hhead]
      congr 1
      unfold MqttState.waitingCalls
      dsimp only
      rw [hstorage]
      dsimp only
      rw [Function.update_self, houtbox]
    have hsub : { σ with storages := Function.update σ.storages storage service
        }.waitingCalls.Sublist σ.waitingCalls := by
      rw [hwaiting]
      exact List.sublist_append_right _ _
    refine ⟨h.captured, fun storage' hpass => ?_, h.started,
      fun call hcall => h.known call (hcall.imp_right (hsub.mem ·)), fun call hlt => ?_,
      fun thread hbusy hwaits => h.pending thread hbusy (hsub.mem hwaits),
      h.waiting.sublist hsub, h.publishing, fun _ _ htaken => (nomatch htaken), h.order⟩
    · obtain rfl := Option.some.inj hpass
      exact hstorage
    · refine (h.settled call hlt).imp_right fun hwhere => ?_
      rw [hwaiting, List.mem_append] at hwhere
      rcases hwhere with hhanded | hrow | hwaits
      · exact .inl hhanded
      · -- the row that is removed was handed over before
        exact .inl (h.taken storage message (by rw [hreplay]; rfl) call (Option.mem_toList.mp hrow))
      · exact .inr hwaits
  · rename_i service hremove
    obtain ⟨-, ⟨htrue, -⟩ | ⟨-, rfl⟩⟩ :=
      remove_outbox _ service message tail sqlite false hhead hremove
    · exact nomatch htrue
    · rw [Function.update_eq_self]
      exact h.leaveRow .endPass (fun _ heq => nomatch heq) rfl

/-! ## Runs -/

/-- Every step of an ordered run keeps the invariant. -/
theorem OrderInv.step {config : MqttConfig} {format : FloatFormat} {σ σ' : MqttState Thread}
    {action : MqttAction Thread} (h : OrderInv σ) (hthread : ReplayInv σ)
    (hok : σ.OrderedForwarding config format action)
    (hstep : σ.step config format action = some σ') : OrderInv σ' := by
  obtain ⟨henqueue, hdecide⟩ := hok
  cases MqttState.step_cases hstep with
  | setOfflineStorage storage =>
    obtain rfl := of_decide_eq_true henqueue
    exact h.frame
  | connect outcome hcontroller =>
    unfold MqttState.connect
    split
    · exact h
    · cases outcome with
      | libraryNotReady => exact h
      | clientNotCreated | connectFailed | loopFailed => exact h.frame
      | started => exact (h.leaveRow .wait (fun _ heq => nomatch heq) rfl).frame
  | connectReturn timedOut hcontroller => exact h.frame
  | disconnect hcontroller => exact h.frame
  | join client hcontroller hreplay =>
    exact (h.leaveRow .none (fun _ heq => nomatch heq) rfl).frame
  | destroy client hcontroller => exact h.frame
  | handleConnect client accepted =>
    unfold MqttState.handleConnect
    split
    · exact h
    · exact h.frame
  | handleDisconnect client =>
    unfold MqttState.handleDisconnect
    split
    · exact h
    · exact h.frame
  | handlePublish client messageId => exact h.frame
  | publish topic payload retain result =>
    exact h.publish topic payload retain .other result (fun _ heq => nomatch heq)
      (fun _ heq => nomatch heq)
  | forward thread message hforward => exact h.forward thread message hforward
  | forwardDecide thread message hforward => exact h.forwardDecide thread message hforward hdecide
  | forwardPublish thread message offlineStorage result hforward =>
    exact h.forwardPublish config format thread message offlineStorage result hforward
  | forwardEnqueue thread message offlineStorage now sqlite hforward =>
    exact h.forwardEnqueue hthread config format thread message offlineStorage now sqlite hforward
      henqueue
  | forwardRequest thread message hforward =>
    have hidle := h.setForward thread .idle (fun _ heq => nomatch heq) (fun heq => nomatch heq)
      (fun hunsettled => by rw [hforward] at hunsettled; exact nomatch hunsettled)
      (fun _ _ heq => nomatch heq)
    exact hidle.frame
  | replayWait hreplay =>
    unfold MqttState.replayWait
    split
    · exact (h.leaveRow .finished (fun _ heq => nomatch heq) rfl).frame
    · split
      · exact h.leaveRow .blocked (fun _ heq => nomatch heq) rfl
      · rename_i storage hstorage
        split
        · refine (h.moveReplay (.checkConnected storage) (fun storage' hpass => ?_)
            fun _ _ heq => nomatch heq).frame
          obtain rfl := Option.some.inj hpass
          exact hstorage
        · exact h.leaveRow .blocked (fun _ heq => nomatch heq) rfl
  | replayWake hreplay => exact h.leaveRow .wait (fun _ heq => nomatch heq) rfl
  | replayCheck storage hreplay =>
    unfold MqttState.replayCheck
    split
    · exact h.leaveRow (.load storage) (fun _ hpass => by rw [hreplay]; exact hpass) rfl
    · exact h.leaveRow .endPass (fun _ heq => nomatch heq) rfl
  | replayLoad storage sqlite hreplay =>
    unfold MqttState.replayLoad
    split
    · exact h.leaveRow .endPass (fun _ heq => nomatch heq) rfl
    · exact h.leaveRow (.publish storage _) (fun _ hpass => by rw [hreplay]; exact hpass) rfl
  | replayPublish storage message result hreplay =>
    exact h.replayPublish hthread storage message result hreplay
  | replayAwake storage message timedOut hreplay hawake =>
    split
    · refine (h.moveReplay (.remove storage message) (fun storage' hpass => ?_)
        fun storage' message' htaken => ?_).frame
      · exact h.pass storage' (by rw [hreplay]; exact hpass)
      · exact h.taken storage' message' (by rw [hreplay]; exact htaken)
    · exact (h.leaveRow .endPass (fun _ heq => nomatch heq) rfl).frame
  | replayRemove storage message sqlite hreplay =>
    exact h.replayRemove hthread storage message sqlite hreplay
  | replayEndPass hreplay => exact (h.leaveRow .wait (fun _ heq => nomatch heq) rfl).frame

/-- In every run in which `forwardMessage` never decides to publish past an older message in
    the outbox, libmosquitto gets the messages of a device and tag in the order in which
    their publisher put them on the bus. -/
theorem forwarded_in_order (config : MqttConfig) (format : FloatFormat) (σ : MqttState Thread)
    (hreach : (mqttSystem config format Thread).Reachable
      (MqttState.OrderedForwarding config format) σ) : σ.HandedInOrder := by
  refine (hreach.invariant OrderInv ?_ ?_).order
  · exact fun σ hinit => OrderInv.initial hinit
  · intro σ action σ' hreach hinv hok hstep
    exact hinv.step (replayInv_of_reachable hreach) hok hstep

instance (σ : MqttState Thread) (older call : CallId Thread) : Decidable (σ.Older older call) :=
  inferInstanceAs (Decidable (_ ∧ _ ∧ _))

instance (σ : MqttState Thread) (action : MqttAction Thread) :
    Decidable (σ.DecidesInOrder action) := by
  cases action with
  | forwardDecide thread =>
    exact inferInstanceAs (Decidable (_ → _ → ∀ older ∈ σ.waitingCalls, _ → _))
  | _ => exact inferInstanceAs (Decidable True)

instance (config : MqttConfig) (format : FloatFormat) (σ : MqttState Thread)
    (action : MqttAction Thread) : Decidable (σ.OrderedForwarding config format action) :=
  inferInstanceAs (Decidable (_ ∧ _))

/-- A second message comes in before the replay thread has started its pass. -/
def overtakeSteps : List (MqttAction Bool) :=
  [backlogSteps, publishSteps false (tagMessage (.int8 2)) 1].flatten

/-- A message is buffered while the connection is down. After the CONNACK, and before the
    replay thread has started its pass, a newer one is published. -/
theorem newer_message_overtakes :
    ∃ σ : MqttState Bool,
      (mqttSystem {} oneFormat Bool).Reachable
        (fun σ action => σ.enqueueSucceeds {} oneFormat action) σ ∧
      ¬ σ.HandedInOrder := by
  obtain ⟨σ, -, hreach, hσ⟩ := TransitionSystem.exists_of_run
    (mqttSystem {} oneFormat Bool) (fun σ action => σ.enqueueSucceeds {} oneFormat action)
    overtakeSteps
    (fun σ => σ.handed = [⟨false, 1⟩] ∧ σ.Older ⟨false, 0⟩ ⟨false, 1⟩)
    MqttState.fresh_initial (by decide)
  rw [decide_eq_true_eq] at hσ
  obtain ⟨hhanded, holder⟩ := hσ
  exact ⟨σ, hreach, fun horder => nomatch horder [] ⟨false, 1⟩ [] hhanded ⟨false, 0⟩ holder⟩

/-- A second message comes in after the pass. -/
def afterPassSteps : List (MqttAction Bool) :=
  [backlogSteps, replaySteps 1, acknowledgeSteps 1, [.replayEndPass],
    publishSteps false (tagMessage (.int8 2)) 2].flatten

/-- The order along `afterPassSteps`: the buffered message is replayed, and then the newer one
    is published. -/
theorem forwarded_in_order_after_pass :
    ∃ σ, (mqttSystem {} oneFormat Bool).run (MqttState.OrderedForwarding {} oneFormat) .fresh
        afterPassSteps = some σ ∧
      σ.handed = [⟨false, 0⟩, ⟨false, 1⟩] ∧ σ.HandedInOrder := by
  obtain ⟨σ, hrun, hreach, hσ⟩ := TransitionSystem.exists_of_run
    (mqttSystem {} oneFormat Bool) (MqttState.OrderedForwarding {} oneFormat) afterPassSteps
    (fun σ => σ.handed = [⟨false, 0⟩, ⟨false, 1⟩])
    MqttState.fresh_initial (by decide)
  rw [decide_eq_true_eq] at hσ
  exact ⟨σ, hrun, hσ, forwarded_in_order {} oneFormat σ hreach⟩

end EdgeLink
