import Mathlib.Logic.Function.Basic
import EdgeLink.ForStd.TransitionSystem
import EdgeLink.Native.Message

/-! # Shared-memory buffers

`shared_memory_buffer.cpp`, as far as it touches the name of the shared memory: any number of
`SharedMemoryBuffer` handles, in any processes, for one name.

A function of a handle takes what the name refers to and returns what it refers to
afterwards. `create` is split after `shm_open`, its only call before the end of which another
handle can see something; between the two parts, as between any two calls, other handles
can move. Calls of the kernel can fail at any time: the action says so. -/

namespace EdgeLink

/-- `isValidSharedMemoryName`. -/
def isValidSharedMemoryName (name : Bytes) : Bool :=
  match name with
  | 47 :: rest => !rest.isEmpty && !rest.contains 47
  | _ => false

/-- `sizeof(SharedMemoryHeader)`. -/
def sharedMemoryHeaderSize : Nat := 24

/-- A handle, by the order of construction. -/
abbrev BufferHandle := Nat

/-- A shared-memory object and the handle that created it; `none` for one that was there
    before all handles. -/
structure SharedMemoryObject where
  creator : Option BufferHandle
deriving DecidableEq

/-- The members of a handle. `fd` and `mapping` tell whether `fd_` is not -1 and `mapping_`
    is not null. -/
structure SharedMemoryBuffer where
  fd : Bool := false
  mapping : Bool := false
  mappingSize : Nat := 0
  capacity : Nat := 0
  ownsName : Bool := false
deriving DecidableEq

/-- How `create` goes on after `shm_open`. -/
inductive CreateOutcome where
  | resizeFailed
  | mapFailed
  | syncFailed
  | created
deriving DecidableEq

/-- What `open` is told: whether `shm_open` is granted for an existing name, the size that
    `fstat` reports, whether `mmap` succeeds and what `hasValidHeader` returns. -/
structure OpenOutcome where
  granted : Bool
  size : Option Nat
  mapped : Bool
  validHeader : Bool
deriving DecidableEq

namespace SharedMemoryBuffer

/-- `SharedMemoryBuffer::isOpen`. -/
def isOpen (buffer : SharedMemoryBuffer) : Bool := buffer.mapping

/-- `SharedMemoryBuffer::close`. -/
def close (buffer : SharedMemoryBuffer) : SharedMemoryBuffer :=
  { buffer with fd := false, mapping := false, mappingSize := 0, capacity := 0 }

/-- `SharedMemoryBuffer::remove`. With `denied`, `shm_unlink` fails for another reason than a
    missing name. -/
def remove (buffer : SharedMemoryBuffer) (shm : Option SharedMemoryObject) (denied : Bool) :
    SharedMemoryBuffer × Option SharedMemoryObject × Bool :=
  if denied then (buffer, shm, false)
  -- a missing name counts as removed
  else ({ buffer with ownsName := false }, none, true)

/-- `SharedMemoryBuffer::create` up to `shm_open`, which creates an object only where the name
    is free. -/
def beginCreate (buffer : SharedMemoryBuffer) (handle : BufferHandle) (name : Bytes)
    (capacity : Nat) (shm : Option SharedMemoryObject) (granted : Bool) :
    SharedMemoryBuffer × Option SharedMemoryObject × Bool :=
  if buffer.isOpen || !isValidSharedMemoryName name || capacity = 0 then (buffer, shm, false)
  else if capacity > 2 ^ 64 - 1 - sharedMemoryHeaderSize then (buffer, shm, false)
  else
    let mappingSize := sharedMemoryHeaderSize + capacity
    if mappingSize > 2 ^ 63 - 1 then ({ buffer with mappingSize := 0 }, shm, false)
    else if shm.isSome || !granted then
      ({ buffer with fd := false, mappingSize := 0 }, shm, false)
    else
      ({ buffer with fd := true, mappingSize, ownsName := true }, some ⟨some handle⟩, true)

/-- The rest of `create`. -/
def finishCreate (buffer : SharedMemoryBuffer) (capacity : Nat)
    (shm : Option SharedMemoryObject) (outcome : CreateOutcome) (denied : Bool) :
    SharedMemoryBuffer × Option SharedMemoryObject :=
  match outcome with
  | .created => ({ buffer with mapping := true, capacity }, shm)
  | .resizeFailed | .mapFailed | .syncFailed =>
    let (buffer, shm, _) := buffer.close.remove shm denied
    (buffer, shm)

/-- `SharedMemoryBuffer::open`. -/
def «open» (buffer : SharedMemoryBuffer) (name : Bytes) (shm : Option SharedMemoryObject)
    (outcome : OpenOutcome) : SharedMemoryBuffer × Bool :=
  if buffer.isOpen || !isValidSharedMemoryName name then (buffer, false)
  else if shm.isNone || !outcome.granted then ({ buffer with fd := false }, false)
  else
    match outcome.size with
    | none => (buffer.close, false)
    | some size =>
      if size < sharedMemoryHeaderSize then (buffer.close, false)
      else if !outcome.mapped then (buffer.close, false)
      else if !outcome.validHeader then (buffer.close, false)
      else
        ({ buffer with
           fd := true
           mapping := true
           mappingSize := size
           capacity := size - sharedMemoryHeaderSize }, true)

/-- The destructor: what the name refers to afterwards. -/
def destroy (buffer : SharedMemoryBuffer) (shm : Option SharedMemoryObject) (denied : Bool) :
    Option SharedMemoryObject :=
  let buffer := buffer.close
  if buffer.ownsName then (buffer.remove shm denied).2.1 else shm

end SharedMemoryBuffer

/-! ## Handles of one name -/

/-- A living handle; `creating` is the capacity of a `create` that has passed `shm_open`. -/
structure LivingHandle where
  buffer : SharedMemoryBuffer
  creating : Option Nat
deriving DecidableEq

/-- What the name refers to, and the living handles. -/
structure SharedMemoryState where
  shm : Option SharedMemoryObject
  handles : BufferHandle → Option LivingHandle
  nextHandle : BufferHandle

/-- A call on a handle, or the end of its process without a call of the destructor. -/
inductive SharedMemoryAction where
  | construct
  | create (handle : BufferHandle) (capacity : Nat) (granted : Bool)
  | finishCreate (handle : BufferHandle) (outcome : CreateOutcome) (denied : Bool)
  | open (handle : BufferHandle) (outcome : OpenOutcome)
  | close (handle : BufferHandle)
  | remove (handle : BufferHandle) (denied : Bool)
  | destroy (handle : BufferHandle) (denied : Bool)
  | crash (handle : BufferHandle)
deriving DecidableEq

namespace SharedMemoryState

/-- No handle yet; the name may be left over from an earlier time. -/
def initial (leftover : Bool) : SharedMemoryState where
  shm := if leftover then some ⟨none⟩ else none
  handles := fun _ => none
  nextHandle := 0

/-- The buffer of a handle that is not in the middle of a `create`. -/
def idle (state : SharedMemoryState) (handle : BufferHandle) : Option SharedMemoryBuffer :=
  match state.handles handle with
  | some ⟨buffer, none⟩ => some buffer
  | _ => none

/-- The handle has another buffer afterwards, and the name refers to `shm`. -/
def put (state : SharedMemoryState) (handle : BufferHandle) (living : Option LivingHandle)
    (shm : Option SharedMemoryObject) : SharedMemoryState :=
  { state with shm, handles := Function.update state.handles handle living }

/-- One action. -/
def step (name : Bytes) (state : SharedMemoryState) :
    SharedMemoryAction → Option SharedMemoryState
  | .construct =>
    some
      { state.put state.nextHandle (some ⟨{}, none⟩) state.shm with
        nextHandle := state.nextHandle + 1 }
  | .create handle capacity granted =>
    (state.idle handle).map fun buffer =>
      let (buffer, shm, opened) := buffer.beginCreate handle name capacity state.shm granted
      state.put handle (some ⟨buffer, if opened then some capacity else none⟩) shm
  | .finishCreate handle outcome denied =>
    match state.handles handle with
    | some ⟨buffer, some capacity⟩ =>
      let (buffer, shm) := buffer.finishCreate capacity state.shm outcome denied
      some (state.put handle (some ⟨buffer, none⟩) shm)
    | _ => none
  | .open handle outcome =>
    (state.idle handle).map fun buffer =>
      state.put handle (some ⟨(buffer.open name state.shm outcome).1, none⟩) state.shm
  | .close handle =>
    (state.idle handle).map fun buffer =>
      state.put handle (some ⟨buffer.close, none⟩) state.shm
  | .remove handle denied =>
    (state.idle handle).map fun buffer =>
      let (buffer, shm, _) := buffer.remove state.shm denied
      state.put handle (some ⟨buffer, none⟩) shm
  | .destroy handle denied =>
    (state.idle handle).map fun buffer =>
      state.put handle none (buffer.destroy state.shm denied)
  | .crash handle =>
    (state.handles handle).map fun _ => state.put handle none state.shm

end SharedMemoryState

/-- The handles of a name. -/
def sharedMemorySystem (name : Bytes) : TransitionSystem SharedMemoryState SharedMemoryAction where
  init state := ∃ leftover, state = .initial leftover
  step := SharedMemoryState.step name

end EdgeLink
