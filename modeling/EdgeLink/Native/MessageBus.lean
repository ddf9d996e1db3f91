import Mathlib.Logic.Function.Basic
import EdgeLink.ForStd.TransitionSystem
import EdgeLink.Native.Message

/-! # Message bus

The publish/subscribe bus of `message_bus.cpp`. `MessageBus` holds the two indexes
that `mutex_` protects; its functions are the critical sections of the source.

`publish` copies the subscription list under the lock and runs the callbacks after
releasing it, so other threads, and the callbacks themselves, can call the bus in
between. `BusState` therefore gives every thread a stack of publish calls in progress,
and `BusState.step` performs one critical section or one start or end of a callback. A
callback may do anything: call the bus again to any depth, return, or throw.

The unordered maps are partial functions: nothing depends on their iteration order. -/

namespace EdgeLink

/-- `MessageBus::InvalidSubscriptionId`. -/
def InvalidSubscriptionId : UInt64 := 0

/-- An entry of a topic's subscription list. -/
structure Subscription (Callback : Type) where
  id : UInt64
  callback : Callback
deriving DecidableEq

/-- The subscription tables. -/
structure MessageBus (Callback : Type) where
  nextSubscriptionId : UInt64
  subscribers : Bytes → Option (List (Subscription Callback))
  subscriptionTopics : UInt64 → Option Bytes

namespace MessageBus

variable {Callback : Type}

/-- A bus without subscriptions. -/
def empty : MessageBus Callback where
  nextSubscriptionId := 1
  subscribers := fun _ => none
  subscriptionTopics := fun _ => none

/-- The argument check of `subscribe`: an empty topic or an empty `std::function`
    (`none`) is refused. -/
def checkedCallback (topic : Bytes) (callback : Option Callback) : Option Callback :=
  if topic.isEmpty then none else callback

/-- `MessageBus::subscribe`: the bus and the returned id. -/
def subscribe (bus : MessageBus Callback) (topic : Bytes) (callback : Option Callback) :
    MessageBus Callback × UInt64 :=
  match checkedCallback topic callback with
  | none => (bus, InvalidSubscriptionId)
  | some callback =>
    let subscriptionId := bus.nextSubscriptionId
    -- `operator[]` makes an empty list for a new topic
    let subscriptions := (bus.subscribers topic).getD []
    ({ nextSubscriptionId := bus.nextSubscriptionId + 1
       subscribers := Function.update bus.subscribers topic
         (some (subscriptions ++ [⟨subscriptionId, callback⟩]))
       subscriptionTopics :=
         Function.update bus.subscriptionTopics subscriptionId (some topic) },
      subscriptionId)

/-- `MessageBus::unsubscribe`: the bus and the returned flag. -/
def unsubscribe (bus : MessageBus Callback) (subscriptionId : UInt64) :
    MessageBus Callback × Bool :=
  match bus.subscriptionTopics subscriptionId with
  | none => (bus, false)
  | some topic =>
    -- the id is forgotten before its list is searched
    let subscriptionTopics := Function.update bus.subscriptionTopics subscriptionId none
    match bus.subscribers topic with
    | none => ({ bus with subscriptionTopics }, false)
    | some subscriptions =>
      -- `remove_if` followed by `erase`
      let remaining := subscriptions.filter fun subscription =>
        subscription.id ≠ subscriptionId
      let removed := remaining.length != subscriptions.length
      -- a topic without subscriptions has no entry
      let subscribers :=
        if remaining.isEmpty then Function.update bus.subscribers topic none
        else Function.update bus.subscribers topic (some remaining)
      ({ bus with subscribers, subscriptionTopics }, removed)

/-- The critical section of `publish`: the snapshot of the topic's list. -/
def snapshot (bus : MessageBus Callback) (topic : Bytes) :
    Option (List (Subscription Callback)) :=
  bus.subscribers topic

/-- `MessageBus::subscriberCount`. -/
def subscriberCount (bus : MessageBus Callback) (topic : Bytes) : Nat :=
  match bus.subscribers topic with
  | none => 0
  | some subscriptions => subscriptions.length

/-- `MessageBus::clear`. Ids are not given out again. -/
def clear (bus : MessageBus Callback) : MessageBus Callback :=
  { bus with subscribers := fun _ => none, subscriptionTopics := fun _ => none }

end MessageBus

/-! ## Threads in the bus -/

/-- A `publish` call in progress: what is left of its snapshot, the callback that is
    running, and how many callbacks have returned normally. -/
structure PublishFrame (Callback : Type) where
  number : Nat
  message : Message
  remaining : List (Subscription Callback)
  current : Option (Subscription Callback)
  deliveredCount : Nat
deriving DecidableEq

/-- The `number`-th `publish` call of a thread. -/
structure PublishId (Thread : Type) where
  thread : Thread
  number : Nat
deriving DecidableEq

/-- What happened on the bus, in the order of the critical sections and of the starts
    and ends of callbacks. -/
inductive BusEvent (Thread Callback : Type) where
  | subscribed (id : UInt64) (topic : Bytes) (callback : Callback)
  | unsubscribed (id : UInt64) (removed : Bool)
  | cleared
  | started (publish : PublishId Thread) (message : Message)
  | called (publish : PublishId Thread) (subscription : Subscription Callback)
  | finished (publish : PublishId Thread) (threw : Bool)
  | returned (publish : PublishId Thread) (deliveredCount : Nat)
deriving DecidableEq

/-- The bus, the publish calls in progress on each thread (innermost first), and the
    history of the run. -/
structure BusState (Thread Callback : Type) where
  bus : MessageBus Callback
  frames : Thread → List (PublishFrame Callback)
  publishCount : Thread → Nat
  history : List (BusEvent Thread Callback)

/-- The steps of a thread. The first four are calls made by its own code or by the
    callback it is running; the last three are the loop of its innermost `publish`. -/
inductive BusAction (Thread Callback : Type) where
  | subscribe (thread : Thread) (topic : Bytes) (callback : Option Callback)
  | unsubscribe (thread : Thread) (subscriptionId : UInt64)
  | clear (thread : Thread)
  | publish (thread : Thread) (message : Message)
  | call (thread : Thread)
  | finish (thread : Thread) (threw : Bool)
  | endPublish (thread : Thread)

namespace BusState

variable {Thread Callback : Type}

/-- No subscriptions and no publish call in progress. -/
def start : BusState Thread Callback where
  bus := .empty
  frames := fun _ => []
  publishCount := fun _ => 0
  history := []

/-- Whether a thread is in its own code or in a callback, and not in the loop of a
    `publish` call. -/
def canCall (σ : BusState Thread Callback) (thread : Thread) : Bool :=
  match σ.frames thread with
  | [] => true
  | frame :: _ => frame.current.isSome

def subscribe (σ : BusState Thread Callback) (topic : Bytes) (callback : Option Callback) :
    BusState Thread Callback :=
  let (bus, id) := σ.bus.subscribe topic callback
  match MessageBus.checkedCallback topic callback with
  | none => { σ with bus }
  | some callback => { σ with bus, history := σ.history ++ [.subscribed id topic callback] }

def unsubscribe (σ : BusState Thread Callback) (subscriptionId : UInt64) :
    BusState Thread Callback :=
  let (bus, removed) := σ.bus.unsubscribe subscriptionId
  { σ with bus, history := σ.history ++ [.unsubscribed subscriptionId removed] }

def clear (σ : BusState Thread Callback) : BusState Thread Callback :=
  { σ with bus := σ.bus.clear, history := σ.history ++ [.cleared] }

variable [DecidableEq Thread]

/-- `publish` up to the end of its critical section: it returns 0 at once where the
    topic is empty or has no subscribers, and enters its loop otherwise. -/
def publish (σ : BusState Thread Callback) (thread : Thread) (message : Message) :
    BusState Thread Callback :=
  let number := σ.publishCount thread
  let publishCount := Function.update σ.publishCount thread (number + 1)
  let started := σ.history ++ [.started ⟨thread, number⟩ message]
  if message.topic.isEmpty then
    { σ with publishCount, history := started ++ [.returned ⟨thread, number⟩ 0] }
  else match σ.bus.snapshot message.topic with
  | none => { σ with publishCount, history := started ++ [.returned ⟨thread, number⟩ 0] }
  | some subscriptions =>
    -- the lock is released here, and the loop runs on the copy
    let frame : PublishFrame Callback :=
      { number, message, remaining := subscriptions, current := none, deliveredCount := 0 }
    { σ with
      publishCount
      frames := Function.update σ.frames thread (frame :: σ.frames thread)
      history := started }

/-- The loop starts the next callback. -/
def call (σ : BusState Thread Callback) (thread : Thread) :
    Option (BusState Thread Callback) :=
  match σ.frames thread with
  | ⟨number, message, subscription :: remaining, none, deliveredCount⟩ :: outer =>
    let frame : PublishFrame Callback :=
      { number, message, remaining, current := some subscription, deliveredCount }
    some { σ with
      frames := Function.update σ.frames thread (frame :: outer)
      history := σ.history ++ [.called ⟨thread, number⟩ subscription] }
  | _ => none

/-- The running callback returns, or throws and is caught. -/
def finish (σ : BusState Thread Callback) (thread : Thread) (threw : Bool) :
    Option (BusState Thread Callback) :=
  match σ.frames thread with
  | ⟨number, message, remaining, some _, deliveredCount⟩ :: outer =>
    -- an exception is caught and logged; the loop goes on
    let frame : PublishFrame Callback :=
      { number, message, remaining, current := none
        deliveredCount := if threw then deliveredCount else deliveredCount + 1 }
    some { σ with
      frames := Function.update σ.frames thread (frame :: outer)
      history := σ.history ++ [.finished ⟨thread, number⟩ threw] }
  | _ => none

/-- The loop is done and `publish` returns the count. -/
def endPublish (σ : BusState Thread Callback) (thread : Thread) :
    Option (BusState Thread Callback) :=
  match σ.frames thread with
  | ⟨number, _, [], none, deliveredCount⟩ :: outer =>
    some { σ with
      frames := Function.update σ.frames thread outer
      history := σ.history ++ [.returned ⟨thread, number⟩ deliveredCount] }
  | _ => none

/-- One step of a thread; `none` where the thread is not at that point. -/
def step (σ : BusState Thread Callback) : BusAction Thread Callback →
    Option (BusState Thread Callback)
  | .subscribe thread topic callback =>
    if σ.canCall thread then some (σ.subscribe topic callback) else none
  | .unsubscribe thread subscriptionId =>
    if σ.canCall thread then some (σ.unsubscribe subscriptionId) else none
  | .clear thread => if σ.canCall thread then some σ.clear else none
  | .publish thread message =>
    if σ.canCall thread then some (σ.publish thread message) else none
  | .call thread => σ.call thread
  | .finish thread threw => σ.finish thread threw
  | .endPublish thread => σ.endPublish thread

end BusState

/-- Any number of threads on one bus, in any interleaving. -/
def busSystem (Thread Callback : Type) [DecidableEq Thread] :
    TransitionSystem (BusState Thread Callback) (BusAction Thread Callback) where
  init := fun σ => σ = BusState.start
  step := BusState.step

end EdgeLink
