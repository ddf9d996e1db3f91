import EdgeLink.Native.MessageBus

/-! # Services on the bus

How `StorageService` and `MqttService` attach to the message bus and detach from it.
Both do it the same way; the storage service also checks that its database is open. The
callback of a service holds a pointer to the service.

`messageBus_` and `subscriptionId_` are not protected by a lock, so a second attach or
detach of a service during an attach is a data race and not a step here. Everything
else interleaves: publish calls on any thread, other subscribers, and other services. -/

namespace EdgeLink

/-- A service that forwards what it hears on the bus. -/
inductive BusService where
  | storage (number : Nat)
  | mqtt (number : Nat)
deriving DecidableEq

/-- Whether `attachMessageBus` of the service calls `isOpen` first. -/
def BusService.checksOpen : BusService → Bool
  | .storage _ => true
  | .mqtt _ => false

/-- A bus callback: the lambda of a service, which captures `this`, or another one. -/
inductive BusCallback (Other : Type) where
  | service (service : BusService)
  | other (callback : Other)
deriving DecidableEq

/-- The members `messageBus_` (null or not) and `subscriptionId_`. -/
structure Attachment where
  messageBus : Bool
  subscriptionId : UInt64
deriving DecidableEq

/-- No attachment. -/
def Attachment.none : Attachment := ⟨false, InvalidSubscriptionId⟩

/-- The bus with its services. `attaching` is set between the two bus calls of
    `attachMessageBus`; `detachedAt` is the length of the history when
    `detachMessageBus` last returned, until the service is attached again. -/
structure ServicesState (Thread Other : Type) where
  bus : BusState Thread (BusCallback Other)
  attachment : BusService → Attachment
  attaching : BusService → Option Bytes
  detachedAt : BusService → Option Nat

/-- The steps: those of the bus for everyone else, and the calls of the services. -/
inductive ServicesAction (Thread Other : Type) where
  | subscribe (thread : Thread) (topic : Bytes) (callback : Option Other)
  | unsubscribe (thread : Thread) (subscriptionId : UInt64)
  | clear (thread : Thread)
  | publish (thread : Thread) (message : Message)
  | call (thread : Thread)
  | finish (thread : Thread) (threw : Bool)
  | endPublish (thread : Thread)
  | detach (thread : Thread) (service : BusService)
  | attach (thread : Thread) (service : BusService) (topic : Bytes)
  | attachSubscribe (thread : Thread) (service : BusService) (isOpen : Bool)

namespace ServicesState

variable {Thread Other : Type}

/-- Nothing attached. -/
def start : ServicesState Thread Other where
  bus := .start
  attachment := fun _ => .none
  attaching := fun _ => none
  detachedAt := fun _ => none

/-- `detachMessageBus`. -/
def detachMessageBus (σ : ServicesState Thread Other) (service : BusService) :
    ServicesState Thread Other :=
  let attachment := σ.attachment service
  -- `unsubscribe` does not wait for publish calls that have copied the list
  let bus :=
    if attachment.messageBus && attachment.subscriptionId != InvalidSubscriptionId then
      σ.bus.unsubscribe attachment.subscriptionId
    else σ.bus
  { σ with
    bus
    attachment := Function.update σ.attachment service .none
    detachedAt := Function.update σ.detachedAt service (some bus.history.length) }

/-- `attachMessageBus`, up to the return of its `detachMessageBus`. -/
def attachMessageBus (σ : ServicesState Thread Other) (service : BusService)
    (topic : Bytes) : ServicesState Thread Other :=
  let detached := σ.detachMessageBus service
  { detached with attaching := Function.update detached.attaching service (some topic) }

/-- The rest of `attachMessageBus`. -/
def attachSubscribe (σ : ServicesState Thread Other) (service : BusService)
    (topic : Bytes) (isOpen : Bool) : ServicesState Thread Other :=
  let attaching := Function.update σ.attaching service none
  if service.checksOpen && !isOpen then { σ with attaching }
  else
    let callback := some (BusCallback.service service)
    let subscriptionId := (σ.bus.bus.subscribe topic callback).2
    let bus := σ.bus.subscribe topic callback
    -- `messageBus_` stays null, as `detachMessageBus` has left it
    if subscriptionId == InvalidSubscriptionId then { σ with bus, attaching }
    else
      { bus
        attachment := Function.update σ.attachment service ⟨true, subscriptionId⟩
        attaching
        detachedAt := Function.update σ.detachedAt service none }

/-- The step of the bus that a step performs, if it is not a call of a service. -/
def busAction : ServicesAction Thread Other →
    Option (BusAction Thread (BusCallback Other))
  | .subscribe thread topic callback =>
    some (.subscribe thread topic (callback.map BusCallback.other))
  | .unsubscribe thread subscriptionId => some (.unsubscribe thread subscriptionId)
  | .clear thread => some (.clear thread)
  | .publish thread message => some (.publish thread message)
  | .call thread => some (.call thread)
  | .finish thread threw => some (.finish thread threw)
  | .endPublish thread => some (.endPublish thread)
  | _ => none

variable [DecidableEq Thread]

/-- One step; `none` where the thread or the service is not at that point. -/
def step (σ : ServicesState Thread Other) (action : ServicesAction Thread Other) :
    Option (ServicesState Thread Other) :=
  match action with
  -- not during an attach of the same service, which would be a data race
  | .detach thread service =>
    if σ.bus.canCall thread && (σ.attaching service).isNone then
      some (σ.detachMessageBus service)
    else none
  | .attach thread service topic =>
    if σ.bus.canCall thread && (σ.attaching service).isNone then
      some (σ.attachMessageBus service topic)
    else none
  | .attachSubscribe thread service isOpen =>
    match σ.attaching service with
    | some topic =>
      if σ.bus.canCall thread then some (σ.attachSubscribe service topic isOpen) else none
    | none => none
  | action =>
    match busAction action with
    | some busAction => (σ.bus.step busAction).map fun bus => { σ with bus }
    | none => none

end ServicesState

/-- Services and other threads on one bus, in any interleaving. -/
def servicesSystem (Thread Other : Type) [DecidableEq Thread] :
    TransitionSystem (ServicesState Thread Other) (ServicesAction Thread Other) where
  init := fun σ => σ = ServicesState.start
  step := ServicesState.step

end EdgeLink
