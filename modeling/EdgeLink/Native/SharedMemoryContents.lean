import EdgeLink.Native.SharedMemoryBuffer
import EdgeLink.Native.SharedMemoryMessageBridge

/-! # What shared-memory buffers hold

`shared_memory_buffer.cpp` with the bytes of the objects: any number of handles, in any
processes, create, open, write, read, close and remove objects of one name.

An object outlives its name as long as it is mapped, so the name can refer to another object
than the one a handle has. `create`, `open`, `write` and `read` are split where another
process can see or change something in between: `create` at every store to the header, `open`
after `shm_open`, `write` and `read` at their copies. The stores of a process are seen in the
order of the program. -/

namespace EdgeLink

/-- An object, by the order of creation. -/
abbrev ObjectId := Nat

/-- Where `create` is. -/
inductive CreatePoint where
  | resize
  | storeMagic
  | storeVersion
  | storeCapacity
  | storeDataSize
  | sync
deriving DecidableEq

/-- Where the process of a handle is inside a function of it. -/
inductive HandlePc where
  | idle
  /-- In `create`, after `shm_open`. -/
  | creating (capacity : Nat) (point : CreatePoint)
  /-- In `open`, after `shm_open`. -/
  | opening
  /-- In `write`, after the copy. -/
  | writing (bytes : Bytes)
  /-- In `read`, after the check of the header; the size was fetched. -/
  | reading (dataSize : Nat)
deriving DecidableEq

/-- A handle, the object that its descriptor or mapping refers to, and where its process is. -/
structure ContentHandle where
  buffer : SharedMemoryBuffer
  mapped : Option ObjectId
  pc : HandlePc
deriving DecidableEq

/-- An object: its bytes, `none` where it is smaller than a header, and what was last written
    to it. -/
structure StoredObject where
  memory : Option SharedMemory
  contents : Bytes

/-- The object that the name refers to, all objects, and the living handles. -/
structure SharedContents where
  named : Option ObjectId
  objects : ObjectId → StoredObject
  nextObject : ObjectId
  handles : BufferHandle → Option ContentHandle
  nextHandle : BufferHandle

/-- A step of the process of a handle. -/
inductive ContentAction where
  | construct
  | create (handle : BufferHandle) (capacity : Nat) (granted : Bool)
  /-- `ftruncate`, and the stores to the header. -/
  | createStep (handle : BufferHandle)
  | finishCreate (handle : BufferHandle) (outcome : CreateOutcome) (denied : Bool)
  | open (handle : BufferHandle) (granted : Bool)
  | finishOpen (handle : BufferHandle) (statted mapped : Bool)
  | write (handle : BufferHandle) (bytes : Bytes)
  | finishWrite (handle : BufferHandle)
  | read (handle : BufferHandle)
  | finishRead (handle : BufferHandle)
  | close (handle : BufferHandle)
  | remove (handle : BufferHandle) (denied : Bool)
  | destroy (handle : BufferHandle) (denied : Bool)
  | crash (handle : BufferHandle)
deriving DecidableEq

/-- `ftruncate`: zero bytes. -/
def SharedMemory.zeroed (capacity : Nat) : SharedMemory where
  magic := 0
  version := 0
  capacity := 0
  dataSize := 0
  data := List.replicate capacity 0

/-- An object with any bytes. -/
def StoredObject.leftover (memory : Option SharedMemory) : StoredObject where
  memory := memory
  contents :=
    match memory with
    | none => []
    | some memory => memory.copyOut memory.dataSize

/-- The size that `fstat` reports. -/
def StoredObject.size (object : StoredObject) : Nat :=
  match object.memory with
  | none => 0
  | some memory => sharedMemoryHeaderSize + memory.data.length

namespace SharedContents

/-- No handle yet; the name may refer to an object from an earlier time. -/
def initial (leftover : Option (Option SharedMemory)) : SharedContents where
  named := leftover.map fun _ => 0
  objects := fun _ => .leftover leftover.join
  nextObject := 1
  handles := fun _ => none
  nextHandle := 0

/-- The name as `create`, `open` and `remove` find it. -/
def shm (state : SharedContents) : Option SharedMemoryObject := state.named.map fun _ => ⟨none⟩

/-- The handle afterwards. -/
def put (state : SharedContents) (handle : BufferHandle) (living : Option ContentHandle) :
    SharedContents :=
  { state with handles := Function.update state.handles handle living }

/-- The name after a call that may have unlinked it. -/
def unlink (state : SharedContents) (shm : Option SharedMemoryObject) : SharedContents :=
  { state with named := if shm.isSome then state.named else none }

/-- An object afterwards. -/
def setObject (state : SharedContents) (id : ObjectId) (object : StoredObject) :
    SharedContents :=
  { state with objects := Function.update state.objects id object }

/-- The bytes of an object afterwards. -/
def setMemory (state : SharedContents) (id : ObjectId) (memory : SharedMemory) :
    SharedContents :=
  state.setObject id { state.objects id with memory := some memory }

/-- `create` up to `shm_open`. -/
def create (state : SharedContents) (handle : BufferHandle) (self : ContentHandle)
    (name : Bytes) (capacity : Nat) (granted : Bool) : SharedContents :=
  match self.buffer.beginCreate handle name capacity state.shm granted with
  | (buffer, _, false) => state.put handle (some { self with buffer })
  | (buffer, _, true) =>
    { state with
      named := some state.nextObject
      objects := Function.update state.objects state.nextObject ⟨none, []⟩
      nextObject := state.nextObject + 1
      handles := Function.update state.handles handle
        (some ⟨buffer, some state.nextObject, .creating capacity .resize⟩) }

/-- `create` between `shm_open` and `msync`: what is done at a point, and the next point. -/
def createStep (capacity : Nat) :
    CreatePoint → Option SharedMemory → Option (SharedMemory × CreatePoint)
  | .resize, _ => some (.zeroed capacity, .storeMagic)
  | .storeMagic, some memory => some ({ memory with magic := SharedMemoryMagic }, .storeVersion)
  | .storeVersion, some memory =>
    some ({ memory with version := SharedMemoryVersion }, .storeCapacity)
  | .storeCapacity, some memory => some ({ memory with capacity }, .storeDataSize)
  | .storeDataSize, some memory => some ({ memory with dataSize := 0 }, .sync)
  | _, _ => none

/-- The outcomes that `create` can have at a point. -/
def CanFinish : CreatePoint → CreateOutcome → Bool
  | .resize, .resizeFailed | .storeMagic, .mapFailed | .sync, .syncFailed
  | .sync, .created => true
  | _, _ => false

/-- The end of `create`. -/
def finishCreate (state : SharedContents) (handle : BufferHandle) (self : ContentHandle)
    (capacity : Nat) (outcome : CreateOutcome) (denied : Bool) : SharedContents :=
  let (buffer, shm) := self.buffer.finishCreate capacity state.shm outcome denied
  let mapped := if buffer.isOpen then self.mapped else none
  (state.put handle (some ⟨buffer, mapped, .idle⟩)).unlink shm

/-- `open` up to `shm_open`. -/
def «open» (state : SharedContents) (handle : BufferHandle) (self : ContentHandle)
    (name : Bytes) (granted : Bool) : SharedContents :=
  if self.buffer.isOpen || !isValidSharedMemoryName name then state
  else
    match state.named, granted with
    | some id, true => state.put handle (some { self with mapped := some id, pc := .opening })
    | _, _ => state.put handle (some { self with buffer := { self.buffer with fd := false } })

/-- The rest of `open`: `fstat`, `mmap` and the check of the header. -/
def finishOpen (state : SharedContents) (handle : BufferHandle) (self : ContentHandle)
    (id : ObjectId) (name : Bytes) (statted mapped : Bool) : SharedContents :=
  let object := state.objects id
  let outcome : OpenOutcome :=
    { granted := true
      size := if statted then some object.size else none
      mapped
      validHeader :=
        object.memory.any fun memory => memory.hasValidHeader memory.data.length }
  let (buffer, opened) := self.buffer.open name (some ⟨none⟩) outcome
  state.put handle (some ⟨buffer, if opened then some id else none, .idle⟩)

/-- `write` up to the copy. -/
def write (state : SharedContents) (handle : BufferHandle) (self : ContentHandle)
    (bytes : Bytes) : SharedContents :=
  if !self.buffer.isOpen || bytes.length > self.buffer.capacity then state
  else
    match self.mapped.bind fun id => (state.objects id).memory.map (id, ·) with
    | none => state
    | some (id, memory) =>
      (state.setMemory id (memory.copyData bytes)).put handle
        (some { self with pc := .writing bytes })

/-- The rest of `write`, whatever `msync` says. -/
def finishWrite (state : SharedContents) (handle : BufferHandle) (self : ContentHandle)
    (id : ObjectId) (memory : SharedMemory) (bytes : Bytes) : SharedContents :=
  (state.setObject id ⟨some (memory.storeDataSize bytes.length), bytes⟩).put handle
    (some { self with pc := .idle })

/-- `read` up to the check of the header: the size that it fetches, `none` where it returns
    `false`. `size` returns the same number, and 0 for `none`. -/
def readSize (state : SharedContents) (self : ContentHandle) : Option Nat :=
  if !self.buffer.isOpen then none
  else
    match self.mapped.bind fun id => (state.objects id).memory with
    | none => none
    | some memory =>
      if memory.hasValidHeader self.buffer.capacity then some memory.dataSize else none

/-- The bytes that `read` copies. -/
def readBytes (state : SharedContents) (self : ContentHandle) (dataSize : Nat) :
    Option Bytes :=
  (self.mapped.bind fun id => (state.objects id).memory).map fun memory =>
    memory.copyOut dataSize

/-- One action. -/
def step (name : Bytes) (state : SharedContents) : ContentAction → Option SharedContents
  | .construct =>
    some
      { state.put state.nextHandle (some ⟨{}, none, .idle⟩) with
        nextHandle := state.nextHandle + 1 }
  | .create handle capacity granted =>
    match state.handles handle with
    | some ⟨buffer, mapped, .idle⟩ =>
      some (state.create handle ⟨buffer, mapped, .idle⟩ name capacity granted)
    | _ => none
  | .createStep handle =>
    match state.handles handle with
    | some ⟨buffer, some id, .creating capacity point⟩ =>
      (createStep capacity point (state.objects id).memory).map fun (memory, point) =>
        (state.setMemory id memory).put handle
          (some ⟨buffer, some id, .creating capacity point⟩)
    | _ => none
  | .finishCreate handle outcome denied =>
    match state.handles handle with
    | some ⟨buffer, mapped, .creating capacity point⟩ =>
      if CanFinish point outcome then
        some (state.finishCreate handle ⟨buffer, mapped, .creating capacity point⟩ capacity
          outcome denied)
      else none
    | _ => none
  | .open handle granted =>
    match state.handles handle with
    | some ⟨buffer, mapped, .idle⟩ =>
      some (state.open handle ⟨buffer, mapped, .idle⟩ name granted)
    | _ => none
  | .finishOpen handle statted mapped =>
    match state.handles handle with
    | some ⟨buffer, some id, .opening⟩ =>
      some (state.finishOpen handle ⟨buffer, some id, .opening⟩ id name statted mapped)
    | _ => none
  | .write handle bytes =>
    match state.handles handle with
    | some ⟨buffer, mapped, .idle⟩ => some (state.write handle ⟨buffer, mapped, .idle⟩ bytes)
    | _ => none
  | .finishWrite handle =>
    match state.handles handle with
    | some ⟨buffer, some id, .writing bytes⟩ =>
      (state.objects id).memory.map fun memory =>
        state.finishWrite handle ⟨buffer, some id, .writing bytes⟩ id memory bytes
    | _ => none
  | .read handle =>
    match state.handles handle with
    | some ⟨buffer, mapped, .idle⟩ =>
      match state.readSize ⟨buffer, mapped, .idle⟩ with
      | some dataSize => some (state.put handle (some ⟨buffer, mapped, .reading dataSize⟩))
      | none => some state
    | _ => none
  | .finishRead handle =>
    match state.handles handle with
    | some ⟨buffer, mapped, .reading _⟩ => some (state.put handle (some ⟨buffer, mapped, .idle⟩))
    | _ => none
  | .close handle =>
    match state.handles handle with
    | some ⟨buffer, _, .idle⟩ => some (state.put handle (some ⟨buffer.close, none, .idle⟩))
    | _ => none
  | .remove handle denied =>
    match state.handles handle with
    | some ⟨buffer, mapped, .idle⟩ =>
      let (buffer, shm, _) := buffer.remove state.shm denied
      some ((state.put handle (some ⟨buffer, mapped, .idle⟩)).unlink shm)
    | _ => none
  | .destroy handle denied =>
    match state.handles handle with
    | some ⟨buffer, _, .idle⟩ =>
      some ((state.put handle none).unlink (buffer.destroy state.shm denied))
    | _ => none
  | .crash handle => (state.handles handle).map fun _ => state.put handle none

end SharedContents

/-- The handles of a name, and what the objects hold. -/
def contentsSystem (name : Bytes) : TransitionSystem SharedContents ContentAction where
  init state := ∃ leftover, state = .initial leftover
  step := SharedContents.step name

end EdgeLink
