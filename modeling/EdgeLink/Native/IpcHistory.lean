import EdgeLink.Native.MessageBus
import EdgeLink.Native.SharedMemoryMessageBridge
import EdgeLink.Native.StorageService

/-! # From a sender process to the message history

A sender process, the shared-memory bridge of the receiver process, its message bus and a
storage service that `attachMessageBus` has attached to it, put together. What
`handleNotification` publishes is delivered to the callbacks of the topic before the next step
of the receiver; the callback of the service stores the message. Other subscribers come and go
and change nothing that is modelled here.

`stored` and `storeFailures` record what `storeMessage` returned to the callback. -/

namespace EdgeLink

/-- The callback of the storage service, or another one. -/
inductive HistorySubscriber (Other : Type) where
  | storage
  | other (callback : Other)

/-- The callback is the one of the storage service. -/
def HistorySubscriber.isStorage {Other : Type} : HistorySubscriber Other → Bool
  | .storage => true
  | .other _ => false

/-- Both processes, the slot between them, the bus and the database. `subscriptionId` is the
    `subscriptionId_` of the service. -/
structure HistoryState (Other : Type) where
  bridge : BridgeState
  bus : MessageBus (HistorySubscriber Other)
  subscriptionId : UInt64
  storage : StorageService
  /-- The stored messages, each with the number of slot writes before its publication. -/
  stored : List (Nat × Message)
  storeFailures : Nat

/-- The steps: those of the two processes, with what SQLite does if a message is stored, and
    calls of the bus by others. -/
inductive HistoryAction (Other : Type) where
  | bridge (action : BridgeAction) (sqlite : Bool)
  | subscribe (topic : Bytes) (callback : Option Other)
  | unsubscribe (subscriptionId : UInt64)

namespace HistoryState

variable {Other : Type} (format : FloatFormat)

/-- One callback of the loop of `publish`. -/
def deliver (publication : Nat × Message) (sqlite : Bool) (σ : HistoryState Other)
    (subscription : Subscription (HistorySubscriber Other)) : HistoryState Other :=
  if subscription.callback.isStorage then
    match σ.storage.storeMessage format publication.2 sqlite with
    | (storage, true) => { σ with storage, stored := σ.stored ++ [publication] }
    -- the callback logs that the message is lost
    | (storage, false) => { σ with storage, storeFailures := σ.storeFailures + 1 }
  else σ

/-- `MessageBus::publish` in the receiver process. -/
def publish (σ : HistoryState Other) (publication : Nat × Message) (sqlite : Bool) :
    HistoryState Other :=
  if publication.2.topic.isEmpty then σ
  else
    match σ.bus.snapshot publication.2.topic with
    | none => σ
    | some subscriptions => subscriptions.foldl (deliver format publication sqlite) σ

/-- A step of the sender or of the bridge, and the delivery of what it has published. -/
def bridgeStep (σ : HistoryState Other) (action : BridgeAction) (sqlite : Bool) :
    Option (HistoryState Other) :=
  (σ.bridge.step action).map fun bridge =>
    (bridge.published.drop σ.bridge.published.length).foldl
      (fun σ publication => σ.publish format publication sqlite) { σ with bridge }

/-- One step. The others unsubscribe what they have subscribed. -/
def step (σ : HistoryState Other) : HistoryAction Other → Option (HistoryState Other)
  | .bridge action sqlite => σ.bridgeStep format action sqlite
  | .subscribe topic callback =>
    some { σ with bus := (σ.bus.subscribe topic (callback.map .other)).1 }
  | .unsubscribe subscriptionId =>
    if subscriptionId = σ.subscriptionId then none
    else some { σ with bus := (σ.bus.unsubscribe subscriptionId).1 }

/-- The bus has no callback of the service yet. -/
def Unattached (bus : MessageBus (HistorySubscriber Other)) : Prop :=
  ∀ topic subscriptions, bus.subscribers topic = some subscriptions →
    ∀ subscription ∈ subscriptions, subscription.callback.isStorage = false

/-- Before the first step: an open database without messages, and `attachMessageBus` has
    returned true. -/
structure Initial (sourceTopic : Bytes) (σ : HistoryState Other) : Prop where
  bridge : BridgeState.Initial σ.bridge
  lastHandled : σ.bridge.lastHandled = none
  attached : ∃ bus, Unattached bus ∧
    bus.subscribe sourceTopic (some .storage) = (σ.bus, σ.subscriptionId)
  accepted : σ.subscriptionId ≠ InvalidSubscriptionId
  database : σ.storage.database = true
  rows : σ.storage.tagMessages.rows = []
  stored : σ.stored = []
  storeFailures : σ.storeFailures = 0

end HistoryState

/-- Both processes and the other users of the bus, in any interleaving. -/
def historySystem {Other : Type} (format : FloatFormat) (sourceTopic : Bytes) :
    TransitionSystem (HistoryState Other) (HistoryAction Other) where
  init := HistoryState.Initial sourceTopic
  step := HistoryState.step format

end EdgeLink
