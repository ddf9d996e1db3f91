import EdgeLink.ForStd.TransitionSystem
import EdgeLink.Native.IpcMessageCodec

/-! # Shared-memory message bridge

One sender process and one receiver process share a memory slot
(`shared_memory_buffer.cpp`) and an eventfd (`eventfd_notifier.cpp`).
`SharedMemoryMessageBridge::send` encodes a message into the slot and notifies;
`handleNotification` reads the slot, decodes and publishes on the `MessageBus`.

The two processes do not synchronise, so every access to the slot is an atomic step
of its own:

* sender: copy of the bytes, store of `dataSize`, `notify`;
* receiver: `read` of the eventfd, header check with the fetch of the size, copy of
  that many bytes (decoding and publishing touch nothing shared and go with the copy).

Buffers and notifier stay open and `msync` succeeds. -/

namespace EdgeLink

/-! ## The slot -/

def SharedMemoryMagic : UInt32 := 0x45444C4B
def SharedMemoryVersion : UInt32 := 1

/-- The mapping: `SharedMemoryHeader` and the data area behind it. -/
structure SharedMemory where
  magic : UInt32
  version : UInt32
  capacity : Nat
  dataSize : Nat
  data : Bytes

namespace SharedMemory

/-- `hasValidHeader`. The handles of both processes compute `expectedCapacity` from
    the length of the mapping. -/
def hasValidHeader (memory : SharedMemory) (expectedCapacity : Nat) : Prop :=
  memory.magic = SharedMemoryMagic ∧ memory.version = SharedMemoryVersion ∧
  memory.capacity = expectedCapacity ∧ memory.dataSize ≤ expectedCapacity

instance (memory : SharedMemory) (expectedCapacity : Nat) :
    Decidable (memory.hasValidHeader expectedCapacity) :=
  inferInstanceAs (Decidable (_ ∧ _ ∧ _ ∧ _))

/-- `SharedMemoryBuffer::create`: an empty slot. -/
def create (capacity : Nat) : SharedMemory where
  magic := SharedMemoryMagic
  version := SharedMemoryVersion
  capacity := capacity
  dataSize := 0
  data := List.replicate capacity 0

/-- First half of `SharedMemoryBuffer::write`: `memcpy` to the start of the data area. -/
def copyData (memory : SharedMemory) (bytes : Bytes) : SharedMemory :=
  { memory with data := bytes ++ memory.data.drop bytes.length }

/-- Second half of `SharedMemoryBuffer::write`: publish the new length. -/
def storeDataSize (memory : SharedMemory) (size : Nat) : SharedMemory :=
  { memory with dataSize := size }

/-- The `memcpy` of `SharedMemoryBuffer::read`. -/
def copyOut (memory : SharedMemory) (size : Nat) : Bytes :=
  memory.data.take size

end SharedMemory

/-! ## The eventfd -/

/-- The largest value an eventfd counter can hold. -/
def eventfdMax : Nat := 2 ^ 64 - 2

/-- `EventFdNotifier::notify(1)`: the counter after the write, or `none` where the
    write reports `EAGAIN` because the counter would overflow. -/
def eventfdNotify (counter : Nat) : Option Nat :=
  if counter + 1 ≤ eventfdMax then some (counter + 1) else none

/-- The `read` of `EventFdNotifier::handleRead`: the accumulated count, which also
    resets the counter, or `none` where the read reports `EAGAIN`. -/
def eventfdRead (counter : Nat) : Option Nat :=
  if counter = 0 then none else some counter

/-! ## The two processes -/

/-- Where the sender stands in `SharedMemoryMessageBridge::send`. -/
inductive SenderPc where
  | idle
  | copyData (message : Message) (encodedMessage : Bytes)
  | storeDataSize (message : Message) (encodedMessage : Bytes)
  | notify (message : Message)
deriving DecidableEq

/-- Where the receiver stands in `handleRead` and `handleNotification`. -/
inductive ReceiverPc where
  | idle
  | checkHeader
  | copyOut (dataSize : Nat)
deriving DecidableEq

/-- Both processes, the slot and the eventfd, with the history of the run. -/
structure BridgeState where
  memory : SharedMemory
  counter : Nat
  sender : SenderPc
  receiver : ReceiverPc
  forwardedMessageCount : Nat
  failedMessageCount : Nat
  /-- The messages whose bytes were copied into the slot, in order. -/
  written : List Message
  /-- The number of successful `notify` calls, that is of successful `send` calls. -/
  notified : Nat
  /-- The published messages, each with the number of slot writes before it. -/
  published : List (Nat × Message)
  /-- What the last finished `handleNotification` published, if anything. -/
  lastHandled : Option Message

/-- The steps of the two processes. -/
inductive BridgeAction where
  | send (message : Message)
  | copyData
  | storeDataSize
  | notify
  | handleRead
  | checkHeader
  | copyOut

namespace BridgeState

/-- Entry of `send`: encode, and the argument check of `write`. Where either fails,
    `send` returns `false` and nothing shared has changed. -/
def send (σ : BridgeState) (message : Message) : BridgeState :=
  match IpcMessageCodec.encode message with
  | none => σ
  | some encodedMessage =>
    -- `size > capacity_` in `write`
    if encodedMessage.length > σ.memory.data.length then σ
    else { σ with sender := .copyData message encodedMessage }

/-- The sender copies the encoded bytes into the slot. -/
def copyData (σ : BridgeState) (message : Message) (encodedMessage : Bytes) : BridgeState :=
  { σ with
    memory := σ.memory.copyData encodedMessage
    sender := .storeDataSize message encodedMessage
    written := σ.written ++ [message] }

/-- The sender stores the new length. -/
def storeDataSize (σ : BridgeState) (message : Message) (encodedMessage : Bytes) :
    BridgeState :=
  { σ with
    memory := σ.memory.storeDataSize encodedMessage.length
    sender := .notify message }

/-- The sender notifies; `send` returns whether that worked. -/
def notify (σ : BridgeState) : BridgeState :=
  match eventfdNotify σ.counter with
  | some counter => { σ with counter, sender := .idle, notified := σ.notified + 1 }
  -- the bytes stay in the slot although `send` returns `false`
  | none => { σ with sender := .idle }

/-- The receiver reads the eventfd. The callback runs only after a successful read,
    whose count is never 0. -/
def handleRead (σ : BridgeState) : BridgeState :=
  match eventfdRead σ.counter with
  | some _ => { σ with counter := 0, receiver := .checkHeader }
  | none => σ

/-- The bookkeeping of a `handleNotification` that publishes nothing. -/
def failNotification (σ : BridgeState) : BridgeState :=
  { σ with
    receiver := .idle
    failedMessageCount := σ.failedMessageCount + 1
    lastHandled := none }

/-- The bookkeeping of a `handleNotification` that publishes `message`. -/
def forwardMessage (σ : BridgeState) (message : Message) : BridgeState :=
  { σ with
    receiver := .idle
    forwardedMessageCount := σ.forwardedMessageCount + 1
    published := σ.published ++ [(σ.written.length, message)]
    lastHandled := some message }

/-- `SharedMemoryBuffer::read` up to the fetch of the size. -/
def checkHeader (σ : BridgeState) : BridgeState :=
  if σ.memory.hasValidHeader σ.memory.data.length then
    { σ with receiver := .copyOut σ.memory.dataSize }
  else σ.failNotification

/-- The rest of `handleNotification`: copy, decode into a fresh message, publish. -/
def copyOut (σ : BridgeState) (dataSize : Nat) : BridgeState :=
  -- bytes that the sender is just overwriting are not noticed here
  match IpcMessageCodec.decode (σ.memory.copyOut dataSize) Message.empty with
  | (true, message) => σ.forwardMessage message
  | (false, _) => σ.failNotification

/-- One step of either process; `none` where the process is not at that point. -/
def step (σ : BridgeState) : BridgeAction → Option BridgeState
  | .send message => if σ.sender = .idle then some (σ.send message) else none
  | .copyData => match σ.sender with
    | .copyData message encodedMessage => some (σ.copyData message encodedMessage)
    | _ => none
  | .storeDataSize => match σ.sender with
    | .storeDataSize message encodedMessage => some (σ.storeDataSize message encodedMessage)
    | _ => none
  | .notify => match σ.sender with
    | .notify _ => some σ.notify
    | _ => none
  | .handleRead => if σ.receiver = .idle then some σ.handleRead else none
  | .checkHeader => if σ.receiver = .checkHeader then some σ.checkHeader else none
  | .copyOut => match σ.receiver with
    | .copyOut dataSize => some (σ.copyOut dataSize)
    | _ => none

/-- Before the first step: any slot with a valid header, and nothing in progress. -/
structure Initial (σ : BridgeState) : Prop where
  validHeader : σ.memory.hasValidHeader σ.memory.data.length
  counter : σ.counter = 0
  sender : σ.sender = .idle
  receiver : σ.receiver = .idle
  forwardedMessageCount : σ.forwardedMessageCount = 0
  failedMessageCount : σ.failedMessageCount = 0
  written : σ.written = []
  notified : σ.notified = 0
  published : σ.published = []

/-- A fresh slot between two idle processes. -/
def start (capacity : Nat) : BridgeState where
  memory := SharedMemory.create capacity
  counter := 0
  sender := .idle
  receiver := .idle
  forwardedMessageCount := 0
  failedMessageCount := 0
  written := []
  notified := 0
  published := []
  lastHandled := none

theorem initial_start (capacity : Nat) : Initial (start capacity) where
  validHeader := by simp [start, SharedMemory.create, SharedMemory.hasValidHeader]
  counter := rfl
  sender := rfl
  receiver := rfl
  forwardedMessageCount := rfl
  failedMessageCount := rfl
  written := rfl
  notified := rfl
  published := rfl

end BridgeState

/-- Sender and receiver in any interleaving. -/
def bridgeSystem : TransitionSystem BridgeState BridgeAction where
  init := BridgeState.Initial
  step := BridgeState.step

end EdgeLink
