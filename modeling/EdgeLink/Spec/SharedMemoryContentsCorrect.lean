import EdgeLink.Native.SharedMemoryContents
import EdgeLink.Spec.SharedMemoryMessageBridgeCorrect

/-! # Shared-memory buffers agree on their object

Handles of any processes create, open, write, read, close and remove objects of one name in any
order, also while another process is in the middle of a `create`.

## Key results

* `MemoryKept`: what no step takes away from an object again.
* `ContentsInv.step`: an open handle has mapped all of an object with a valid header, and a
  closed one holds no descriptor.
* `open_handles_agree`: so `read` and `size` work on every open handle, and handles of one
  object have the same capacity.
* `Coherent.step`, `read_returns_last_write`: where the accesses to an object do not overlap,
  each of them sees what was written to that object last. -/

namespace EdgeLink

/-! ## The calls of one handle -/

namespace SharedMemoryBuffer

/-- Nothing is mapped and no descriptor is held. -/
structure Closed (buffer : SharedMemoryBuffer) : Prop where
  fd : buffer.fd = false
  mapping : buffer.mapping = false
  mappingSize : buffer.mappingSize = 0
  capacity : buffer.capacity = 0

theorem closed_close (buffer : SharedMemoryBuffer) : buffer.close.Closed := ⟨rfl, rfl, rfl, rfl⟩

/-- A closed handle that is told again that it has no descriptor. -/
theorem Closed.eq {buffer : SharedMemoryBuffer} (h : buffer.Closed) :
    { buffer with fd := false } = buffer ∧
      { buffer with mappingSize := 0 } = buffer ∧
      { buffer with fd := false, mappingSize := 0 } = buffer := by
  obtain ⟨hfd, -, hsize, -⟩ := h
  cases buffer
  simp_all

/-- `create` as far as `shm_open`: nothing has changed, or the handle has a descriptor. -/
theorem beginCreate_of_closed {buffer : SharedMemoryBuffer}
    (h : buffer.mapping = true ∨ buffer.Closed) (handle : BufferHandle) (name : Bytes)
    (capacity : Nat) (shm : Option SharedMemoryObject) (granted : Bool) :
    buffer.beginCreate handle name capacity shm granted = (buffer, shm, false) ∨
      buffer.Closed ∧
        buffer.beginCreate handle name capacity shm granted =
          ({ buffer with
              fd := true, mappingSize := sharedMemoryHeaderSize + capacity, ownsName := true },
            some ⟨some handle⟩, true) := by
  obtain hopen | hclosed := h
  · left
    simp [beginCreate, isOpen, hopen]
  · obtain ⟨-, hsize, hboth⟩ := hclosed.eq
    simp only [beginCreate]
    split
    · exact .inl rfl
    · split
      · exact .inl rfl
      · split
        · rw [hsize]
          exact .inl rfl
        · split
          · rw [hboth]
            exact .inl rfl
          · exact .inr ⟨hclosed, rfl⟩

/-- The rest of `open`: the handle is closed again, or it has mapped an object whose header is
    valid. -/
theorem open_cases {buffer : SharedMemoryBuffer} {name : Bytes} (outcome : OpenOutcome)
    (hopen : (buffer.isOpen || !isValidSharedMemoryName name) = false)
    (hgranted : outcome.granted = true) :
    buffer.open name (some ⟨none⟩) outcome = (buffer.close, false) ∨
      ∃ size, outcome.size = some size ∧ sharedMemoryHeaderSize ≤ size ∧
        outcome.validHeader = true ∧
        buffer.open name (some ⟨none⟩) outcome =
          ({ buffer with
              fd := true, mapping := true, mappingSize := size,
              capacity := size - sharedMemoryHeaderSize }, true) := by
  simp only [SharedMemoryBuffer.open, hopen, hgranted]
  cases hsize : outcome.size with
  | none => exact .inl rfl
  | some size =>
    by_cases hsmall : size < sharedMemoryHeaderSize
    · simp [hsmall]
    · cases hmapped : outcome.mapped with
      | false => simp
      | true =>
        cases hvalid : outcome.validHeader with
        | false => simp
        | true =>
          right
          exact ⟨size, rfl, by omega, rfl, by simp [hsmall]⟩

end SharedMemoryBuffer

/-! ## What stays with an object -/

/-- What no step takes away from an object again. -/
def MemoryKept : Option SharedMemory → Option SharedMemory → Prop
  | none, none => True
  | some before, some after =>
    after.data.length = before.data.length ∧
      (before.magic = SharedMemoryMagic → after.magic = SharedMemoryMagic) ∧
      (before.version = SharedMemoryVersion → after.version = SharedMemoryVersion) ∧
      (before.capacity = before.data.length → after.capacity = before.data.length) ∧
      (before.dataSize ≤ before.data.length → after.dataSize ≤ before.data.length)
  | _, _ => False

theorem MemoryKept.refl (memory : Option SharedMemory) : MemoryKept memory memory := by
  cases memory with
  | none => trivial
  | some memory => exact ⟨rfl, id, id, id, id⟩

/-- A valid header stays valid. -/
theorem MemoryKept.valid {memory after : SharedMemory} {capacity : Nat}
    (h : MemoryKept (some memory) (some after)) (hvalid : memory.hasValidHeader capacity)
    (hcapacity : capacity = memory.data.length) :
    after.hasValidHeader capacity ∧ capacity = after.data.length := by
  obtain ⟨hlength, hmagic, hversion, hsize, hdata⟩ := h
  obtain ⟨hmagic', hversion', hsize', hdata'⟩ := hvalid
  subst hcapacity
  exact ⟨⟨hmagic hmagic', hversion hversion', hsize hsize', hdata hdata'⟩, hlength.symm⟩

/-- The fields of the header that `create` has stored when it is at a point. -/
def CreatePoint.Stored : CreatePoint → SharedMemory → Prop
  | .resize, _ | .storeMagic, _ => True
  | .storeVersion, memory => memory.magic = SharedMemoryMagic
  | .storeCapacity, memory =>
    memory.magic = SharedMemoryMagic ∧ memory.version = SharedMemoryVersion
  | .storeDataSize, memory | .sync, memory =>
    memory.magic = SharedMemoryMagic ∧ memory.version = SharedMemoryVersion ∧
      memory.capacity = memory.data.length

/-- An object in the middle of its `create`. -/
def MidCreate (capacity : Nat) (point : CreatePoint) : Option SharedMemory → Prop
  | none => point = .resize
  | some memory =>
    point ≠ .resize ∧ memory.data.length = capacity ∧ memory.dataSize ≤ memory.data.length ∧
      point.Stored memory

theorem MidCreate.kept {capacity : Nat} {point : CreatePoint} {memory after : Option SharedMemory}
    (h : MidCreate capacity point memory) (hkept : MemoryKept memory after) :
    MidCreate capacity point after := by
  match memory, after, hkept with
  | none, none, _ => exact h
  | some memory, some after, hkept =>
    obtain ⟨hlength, hmagic, hversion, hsize, hdata⟩ := hkept
    obtain ⟨hpoint, hcapacity, hfits, hstored⟩ := h
    refine ⟨hpoint, hlength.trans hcapacity, by rw [hlength]; exact hdata hfits, ?_⟩
    cases point with
    | resize | storeMagic => trivial
    | storeVersion => exact hmagic hstored
    | storeCapacity => exact ⟨hmagic hstored.1, hversion hstored.2⟩
    | storeDataSize | sync =>
      exact ⟨hmagic hstored.1, hversion hstored.2.1, (hsize hstored.2.2).trans hlength.symm⟩

/-- A step of `create`: the object gets its size, or one more field of its header. -/
theorem MidCreate.step {capacity : Nat} {point point' : CreatePoint}
    {before : Option SharedMemory} {after : SharedMemory} (h : MidCreate capacity point before)
    (hstep : SharedContents.createStep capacity point before = some (after, point')) :
    MidCreate capacity point' (some after) ∧
      (before = none ∨ MemoryKept before (some after)) := by
  match before, h with
  | none, h =>
    obtain rfl : point = .resize := h
    obtain ⟨rfl, rfl⟩ := Prod.mk.inj (Option.some.inj hstep)
    refine ⟨⟨nofun, ?_, Nat.zero_le _, trivial⟩, .inl rfl⟩
    exact List.length_replicate
  | some memory, ⟨hpoint, hcapacity, hfits, hstored⟩ =>
    cases point with
    | resize => exact absurd rfl hpoint
    | storeMagic =>
      obtain ⟨rfl, rfl⟩ := Prod.mk.inj (Option.some.inj hstep)
      exact ⟨⟨nofun, hcapacity, hfits, rfl⟩, .inr ⟨rfl, fun _ => rfl, id, id, id⟩⟩
    | storeVersion =>
      obtain ⟨rfl, rfl⟩ := Prod.mk.inj (Option.some.inj hstep)
      exact ⟨⟨nofun, hcapacity, hfits, hstored, rfl⟩, .inr ⟨rfl, id, fun _ => rfl, id, id⟩⟩
    | storeCapacity =>
      obtain ⟨rfl, rfl⟩ := Prod.mk.inj (Option.some.inj hstep)
      exact ⟨⟨nofun, hcapacity, hfits, hstored.1, hstored.2, hcapacity.symm⟩,
        .inr ⟨rfl, id, id, fun _ => hcapacity.symm, id⟩⟩
    | storeDataSize =>
      obtain ⟨rfl, rfl⟩ := Prod.mk.inj (Option.some.inj hstep)
      exact ⟨⟨nofun, hcapacity, Nat.zero_le _, hstored⟩,
        .inr ⟨rfl, id, id, id, fun _ => Nat.zero_le _⟩⟩
    | sync => exact nomatch hstep

/-! ## The handles -/

namespace SharedContents

/-- The handle has mapped all of an object whose header is valid. -/
structure Opened (state : SharedContents) (holder : ContentHandle) (id : ObjectId)
    (memory : SharedMemory) : Prop where
  mapped : holder.mapped = some id
  known : id < state.nextObject
  bytes : (state.objects id).memory = some memory
  validHeader : memory.hasValidHeader holder.buffer.capacity
  capacity : holder.buffer.capacity = memory.data.length
  isOpen : holder.buffer.mapping = true
  fd : holder.buffer.fd = true
  mappingSize : holder.buffer.mappingSize = sharedMemoryHeaderSize + holder.buffer.capacity

/-- A handle is in order: open or closed, or on its way from closed to open. -/
def HandleWell (state : SharedContents) (holder : ContentHandle) : Prop :=
  match holder.pc with
  | .idle =>
    (holder.buffer.Closed ∧ holder.mapped = none) ∨ ∃ id memory, state.Opened holder id memory
  | .creating capacity point =>
    holder.buffer.mapping = false ∧ holder.buffer.fd = true ∧
      holder.buffer.mappingSize = sharedMemoryHeaderSize + capacity ∧
      ∃ id, holder.mapped = some id ∧ id < state.nextObject ∧
        MidCreate capacity point (state.objects id).memory
  | .opening => holder.buffer.Closed ∧ ∃ id, holder.mapped = some id ∧ id < state.nextObject
  | .writing bytes =>
    ∃ id memory, state.Opened holder id memory ∧ bytes.length ≤ holder.buffer.capacity
  | .reading dataSize =>
    ∃ id memory, state.Opened holder id memory ∧ dataSize ≤ holder.buffer.capacity

/-- All handles are in order, and an object has one creator. -/
structure ContentsInv (state : SharedContents) : Prop where
  handles : ∀ handle holder, state.handles handle = some holder → state.HandleWell holder
  named : ∀ id ∈ state.named, id < state.nextObject
  creators : ∀ handle handle' holder holder' capacity capacity' point point',
    state.handles handle = some holder → state.handles handle' = some holder' →
    holder.pc = .creating capacity point → holder'.pc = .creating capacity' point' →
    holder.mapped = holder'.mapped → handle = handle'

variable {state state' : SharedContents} {holder : ContentHandle}

/-- What is kept of its object keeps an open handle in order. -/
theorem Opened.kept {id : ObjectId} {memory : SharedMemory} (h : state.Opened holder id memory)
    (hnext : state.nextObject ≤ state'.nextObject)
    (hkept : MemoryKept (state.objects id).memory (state'.objects id).memory) :
    ∃ memory', state'.Opened holder id memory' := by
  rw [h.bytes] at hkept
  cases hafter : (state'.objects id).memory with
  | none =>
    rw [hafter] at hkept
    exact hkept.elim
  | some after =>
    rw [hafter] at hkept
    obtain ⟨hvalid, hcapacity⟩ := hkept.valid h.validHeader h.capacity
    exact ⟨after, h.mapped, Nat.lt_of_lt_of_le h.known hnext, hafter, hvalid, hcapacity,
      h.isOpen, h.fd, h.mappingSize⟩

/-- Where the process of the handle is does not matter. -/
theorem Opened.same {id : ObjectId} {memory : SharedMemory} {holder' : ContentHandle}
    (h : state.Opened holder id memory) (hmapped : holder'.mapped = holder.mapped)
    (hbuffer : holder'.buffer = holder.buffer) : state.Opened holder' id memory := by
  obtain ⟨buffer, mapped, pc⟩ := holder
  obtain ⟨buffer', mapped', pc'⟩ := holder'
  obtain rfl : mapped' = mapped := hmapped
  obtain rfl : buffer' = buffer := hbuffer
  exact ⟨h.mapped, h.known, h.bytes, h.validHeader, h.capacity, h.isOpen, h.fd, h.mappingSize⟩

/-- The header of an open handle passes the check of `read`. -/
theorem Opened.readSize {id : ObjectId} {memory : SharedMemory}
    (h : state.Opened holder id memory) :
    state.readSize holder = some memory.dataSize ∧ memory.dataSize ≤ holder.buffer.capacity := by
  refine ⟨?_, h.validHeader.2.2.2⟩
  simp [SharedContents.readSize, SharedMemoryBuffer.isOpen, h.isOpen, h.mapped, h.bytes,
    h.validHeader]

/-- The handle has something to lose when the bytes of the object change. -/
def Uses (holder : ContentHandle) (id : ObjectId) : Prop :=
  holder.mapped = some id ∧ holder.pc ≠ .opening

/-- What is kept of its object keeps a handle in order. -/
theorem HandleWell.kept (h : state.HandleWell holder)
    (hnext : state.nextObject ≤ state'.nextObject)
    (hkept : ∀ id, Uses holder id →
      MemoryKept (state.objects id).memory (state'.objects id).memory) :
    state'.HandleWell holder := by
  unfold HandleWell at h ⊢
  cases hpc : holder.pc with
  | idle =>
    rw [hpc] at h
    obtain hclosed | ⟨id, memory, hopened⟩ := h
    · exact .inl hclosed
    · exact .inr ⟨id, hopened.kept hnext (hkept id ⟨hopened.mapped, by simp [hpc]⟩)⟩
  | creating capacity point =>
    rw [hpc] at h
    obtain ⟨hmapping, hfd, hsize, id, hmapped, hknown, hcreated⟩ := h
    exact ⟨hmapping, hfd, hsize, id, hmapped, Nat.lt_of_lt_of_le hknown hnext,
      hcreated.kept (hkept id ⟨hmapped, by simp [hpc]⟩)⟩
  | opening =>
    rw [hpc] at h
    obtain ⟨hclosed, id, hmapped, hknown⟩ := h
    exact ⟨hclosed, id, hmapped, Nat.lt_of_lt_of_le hknown hnext⟩
  | writing bytes =>
    rw [hpc] at h
    obtain ⟨id, memory, hopened, hfits⟩ := h
    obtain ⟨memory', hopened'⟩ := hopened.kept hnext (hkept id ⟨hopened.mapped, by simp [hpc]⟩)
    exact ⟨id, memory', hopened', hfits⟩
  | reading dataSize =>
    rw [hpc] at h
    obtain ⟨id, memory, hopened, hfits⟩ := h
    obtain ⟨memory', hopened'⟩ := hopened.kept hnext (hkept id ⟨hopened.mapped, by simp [hpc]⟩)
    exact ⟨id, memory', hopened', hfits⟩

/-- A handle knows no object of the future. -/
theorem ContentsInv.known (h : state.ContentsInv) {handle : BufferHandle} {id : ObjectId}
    (hholder : state.handles handle = some holder) (hmapped : holder.mapped = some id) :
    id < state.nextObject := by
  have hwell := h.handles handle holder hholder
  unfold HandleWell at hwell
  cases hpc : holder.pc with
  | idle =>
    rw [hpc] at hwell
    obtain ⟨-, hnone⟩ | ⟨id', memory, hopened⟩ := hwell
    · rw [hnone] at hmapped
      exact nomatch hmapped
    · obtain rfl := Option.some.inj (hmapped.symm.trans hopened.mapped)
      exact hopened.known
  | creating capacity point =>
    rw [hpc] at hwell
    obtain ⟨-, -, -, id', hmapped', hknown, -⟩ := hwell
    obtain rfl := Option.some.inj (hmapped.symm.trans hmapped')
    exact hknown
  | opening =>
    rw [hpc] at hwell
    obtain ⟨-, id', hmapped', hknown⟩ := hwell
    obtain rfl := Option.some.inj (hmapped.symm.trans hmapped')
    exact hknown
  | writing bytes =>
    rw [hpc] at hwell
    obtain ⟨id', memory, hopened, -⟩ := hwell
    obtain rfl := Option.some.inj (hmapped.symm.trans hopened.mapped)
    exact hopened.known
  | reading dataSize =>
    rw [hpc] at hwell
    obtain ⟨id', memory, hopened, -⟩ := hwell
    obtain rfl := Option.some.inj (hmapped.symm.trans hopened.mapped)
    exact hopened.known

/-- Who uses an object that has no size yet is creating it. -/
theorem ContentsInv.point_of_uses (h : state.ContentsInv) {handle : BufferHandle} {id : ObjectId}
    (hholder : state.handles handle = some holder) (huses : Uses holder id)
    (hnone : (state.objects id).memory = none) :
    ∃ capacity point, holder.pc = .creating capacity point := by
  obtain ⟨hmapped, hopening⟩ := huses
  have hwell := h.handles handle holder hholder
  have hno : ∀ id' memory, ¬ state.Opened holder id' memory := by
    intro id' memory hopened
    obtain rfl := Option.some.inj (hmapped.symm.trans hopened.mapped)
    rw [hopened.bytes] at hnone
    exact nomatch hnone
  unfold HandleWell at hwell
  cases hpc : holder.pc with
  | idle =>
    rw [hpc] at hwell
    obtain ⟨-, hclosed⟩ | ⟨id', memory, hopened⟩ := hwell
    · rw [hclosed] at hmapped
      exact nomatch hmapped
    · exact absurd hopened (hno id' memory)
  | creating capacity point => exact ⟨capacity, point, rfl⟩
  | opening => exact absurd hpc hopening
  | writing bytes =>
    rw [hpc] at hwell
    obtain ⟨id', memory, hopened, -⟩ := hwell
    exact absurd hopened (hno id' memory)
  | reading dataSize =>
    rw [hpc] at hwell
    obtain ⟨id', memory, hopened, -⟩ := hwell
    exact absurd hopened (hno id' memory)

/-- One handle moves: the others keep what they use, and it is in order itself. -/
theorem ContentsInv.move (h : state.ContentsInv) {handle : BufferHandle}
    {living : Option ContentHandle}
    (hhandles : state'.handles = Function.update state.handles handle living)
    (hnext : state.nextObject ≤ state'.nextObject)
    (hnamed : ∀ id ∈ state'.named, id < state'.nextObject)
    (hkept : ∀ other holder, other ≠ handle → state.handles other = some holder → ∀ id,
      Uses holder id → MemoryKept (state.objects id).memory (state'.objects id).memory)
    (hliving : ∀ holder ∈ living, state'.HandleWell holder)
    (halone : ∀ holder ∈ living, ∀ capacity point, holder.pc = .creating capacity point →
      ∀ other holder', other ≠ handle → state.handles other = some holder' →
        ∀ capacity' point', holder'.pc = .creating capacity' point' →
          holder.mapped ≠ holder'.mapped) : state'.ContentsInv := by
  have hother : ∀ other holder, other ≠ handle → state'.handles other = some holder →
      state.handles other = some holder := by
    intro other holder hne hholder
    rwa [hhandles, Function.update_of_ne hne] at hholder
  have hholder : ∀ holder, state'.handles handle = some holder → holder ∈ living := by
    intro holder hholder
    rw [hhandles, Function.update_self] at hholder
    exact hholder
  refine ⟨?_, hnamed, ?_⟩
  · intro other holder hmem
    by_cases heq : other = handle
    · subst heq
      exact hliving holder (hholder holder hmem)
    · have hold := hother other holder heq hmem
      exact (h.handles other holder hold).kept hnext (hkept other holder heq hold)
  · intro first second holder holder' capacity capacity' point point' hfirst hsecond hpc hpc' hsame
    by_cases heq : first = handle
    · by_cases heq' : second = handle
      · rw [heq, heq']
      · subst heq
        exact absurd hsame (halone holder (hholder holder hfirst) capacity point hpc second
          holder' heq' (hother second holder' heq' hsecond) capacity' point' hpc')
    · by_cases heq' : second = handle
      · subst heq'
        exact absurd hsame.symm (halone holder' (hholder holder' hsecond) capacity' point' hpc'
          first holder heq (hother first holder heq hfirst) capacity point hpc)
      · exact h.creators first second holder holder' capacity capacity' point point'
          (hother first holder heq hfirst) (hother second holder' heq' hsecond) hpc hpc' hsame

/-- One handle moves, and no object changes. -/
theorem ContentsInv.move_quiet (h : state.ContentsInv) {handle : BufferHandle}
    {living : Option ContentHandle}
    (hhandles : state'.handles = Function.update state.handles handle living)
    (hobjects : state'.objects = state.objects) (hnext : state'.nextObject = state.nextObject)
    (hnamed : state'.named = state.named ∨ state'.named = none)
    (hliving : ∀ holder ∈ living, state.HandleWell holder)
    (hidle : ∀ holder ∈ living, ∀ capacity point, holder.pc ≠ .creating capacity point) :
    state'.ContentsInv := by
  refine h.move hhandles (Nat.le_of_eq hnext.symm) ?_ ?_ ?_ ?_
  · intro id hid
    rw [hnext]
    obtain hsame | hnone := hnamed
    · exact h.named id (hsame ▸ hid)
    · rw [hnone] at hid
      exact nomatch hid
  · intro other holder _ _ id _
    rw [hobjects]
    exact MemoryKept.refl _
  · intro holder hholder
    refine (hliving holder hholder).kept (Nat.le_of_eq hnext.symm) fun id _ => ?_
    rw [hobjects]
    exact MemoryKept.refl _
  · intro holder hholder capacity point hpc
    exact absurd hpc (hidle holder hholder capacity point)

/-- `create`. -/
theorem ContentsInv.create (h : state.ContentsInv) {handle : BufferHandle}
    {buffer : SharedMemoryBuffer} {mapped : Option ObjectId}
    (hholder : state.handles handle = some ⟨buffer, mapped, .idle⟩) (name : Bytes) (capacity : Nat)
    (granted : Bool) :
    (state.create handle ⟨buffer, mapped, .idle⟩ name capacity granted).ContentsInv := by
  have hwell := h.handles handle _ hholder
  have hbuffer : buffer.mapping = true ∨ buffer.Closed := by
    obtain hclosed | ⟨id, memory, hopened⟩ := hwell
    · exact .inr hclosed.1
    · exact .inl hopened.isOpen
  unfold SharedContents.create
  obtain hfailed | ⟨hclosed, hcreated⟩ := SharedMemoryBuffer.beginCreate_of_closed hbuffer handle
    name capacity state.shm granted
  · rw [hfailed]
    refine h.move_quiet rfl rfl rfl (.inl rfl) ?_ ?_
    · intro holder hholder'
      obtain rfl := Option.some.inj hholder'
      exact hwell
    · intro holder hholder'
      obtain rfl := Option.some.inj hholder'
      exact nofun
  · rw [hcreated]
    refine h.move rfl (Nat.le_succ _) ?_ ?_ ?_ ?_
    · intro id hid
      obtain rfl := Option.some.inj hid
      exact Nat.lt_succ_self _
    · intro other holder hne hother id huses
      have hknown := h.known hother huses.1
      show MemoryKept _ (Function.update state.objects state.nextObject _ id).memory
      rw [Function.update_of_ne (Nat.ne_of_lt hknown)]
      exact MemoryKept.refl _
    · intro holder hholder'
      obtain rfl := Option.some.inj hholder'
      refine ⟨hclosed.mapping, rfl, rfl, state.nextObject, rfl, Nat.lt_succ_self _, ?_⟩
      show MidCreate capacity .resize (Function.update state.objects _ _ _).memory
      rw [Function.update_self]
      rfl
    · intro holder hholder' _ _ _ other holder' _ hother _ _ _ hsame
      obtain rfl := Option.some.inj hholder'
      exact absurd (h.known hother hsame.symm) (Nat.lt_irrefl _)

/-- A step of `create`. -/
theorem ContentsInv.createStep (h : state.ContentsInv) {handle : BufferHandle}
    {buffer : SharedMemoryBuffer} {id : ObjectId} {capacity : Nat} {point point' : CreatePoint}
    (hholder : state.handles handle = some ⟨buffer, some id, .creating capacity point⟩)
    {memory : SharedMemory}
    (hstep : SharedContents.createStep capacity point (state.objects id).memory =
      some (memory, point')) :
    ((state.setMemory id memory).put handle
      (some ⟨buffer, some id, .creating capacity point'⟩)).ContentsInv := by
  obtain ⟨hmapping, hfd, hsize, _, hmapped, hknown, hcreated⟩ := h.handles handle _ hholder
  obtain rfl := Option.some.inj hmapped
  obtain ⟨hafter, hkept⟩ := hcreated.step hstep
  refine h.move rfl (Nat.le_refl _) h.named ?_ ?_ ?_
  · intro other holder hne hother id' huses
    show MemoryKept _ (Function.update state.objects id _ id').memory
    by_cases heq : id' = id
    · subst heq
      rw [Function.update_self]
      obtain hnone | hkept := hkept
      · -- nobody has opened an object without a size
        exact absurd (h.point_of_uses hother huses hnone) fun ⟨capacity', point', hpc⟩ =>
          hne (h.creators other handle holder _ capacity' capacity point' point hother hholder hpc
            rfl huses.1)
      · exact hkept
    · rw [Function.update_of_ne heq]
      exact MemoryKept.refl _
  · intro holder hholder'
    obtain rfl := Option.some.inj hholder'
    refine ⟨hmapping, hfd, hsize, id, rfl, hknown, ?_⟩
    show MidCreate capacity point' (Function.update state.objects id _ id).memory
    rw [Function.update_self]
    exact hafter
  · intro holder hholder' _ _ _ other holder' hne hother capacity' point'' hpc hsame
    obtain rfl := Option.some.inj hholder'
    exact hne (h.creators other handle holder' _ capacity' capacity point'' point hother hholder hpc
      rfl hsame.symm)

/-- The name is left, or it is gone. -/
theorem named_unlink (state : SharedContents) (shm : Option SharedMemoryObject) :
    (state.unlink shm).named = state.named ∨ (state.unlink shm).named = none := by
  unfold unlink
  split
  · exact .inl rfl
  · exact .inr rfl

/-- The end of `create`. -/
theorem ContentsInv.finishCreate (h : state.ContentsInv) {handle : BufferHandle}
    {buffer : SharedMemoryBuffer} {mapped : Option ObjectId} {capacity : Nat}
    {point : CreatePoint}
    (hholder : state.handles handle = some ⟨buffer, mapped, .creating capacity point⟩)
    {outcome : CreateOutcome} (hcan : CanFinish point outcome = true) (denied : Bool) :
    (state.finishCreate handle ⟨buffer, mapped, .creating capacity point⟩ capacity outcome
      denied).ContentsInv := by
  obtain ⟨hmapping, hfd, hsize, id, hmapped, hknown, hcreated⟩ := h.handles handle _ hholder
  have hfailed : ∀ outcome, outcome ≠ .created →
      (state.finishCreate handle ⟨buffer, mapped, .creating capacity point⟩ capacity outcome
        denied).ContentsInv := by
    intro outcome hne
    obtain ⟨closed, shm, hclosed, hresult⟩ : ∃ closed shm, closed.Closed ∧
        buffer.finishCreate capacity state.shm outcome denied = (closed, shm) := by
      refine ⟨_, _, ?_, rfl⟩
      cases outcome with
      | created => exact absurd rfl hne
      | resizeFailed | mapFailed | syncFailed =>
        cases denied with
        | true => exact buffer.closed_close
        | false => exact ⟨rfl, rfl, rfl, rfl⟩
    have hstate : state.finishCreate handle ⟨buffer, mapped, .creating capacity point⟩ capacity
        outcome denied = (state.put handle (some ⟨closed, none, .idle⟩)).unlink shm := by
      simp [SharedContents.finishCreate, hresult, SharedMemoryBuffer.isOpen, hclosed.mapping]
    rw [hstate]
    refine h.move_quiet rfl rfl rfl (named_unlink _ _) ?_ ?_
    · intro holder hliving
      obtain rfl := Option.some.inj hliving
      exact .inl ⟨hclosed, rfl⟩
    · intro holder hliving
      obtain rfl := Option.some.inj hliving
      exact nofun
  cases outcome with
  | resizeFailed | mapFailed | syncFailed => exact hfailed _ nofun
  | created =>
    obtain rfl : point = .sync := by
      cases point with
      | sync => rfl
      | _ => exact nomatch hcan
    cases hmemory : (state.objects id).memory with
    | none =>
      rw [hmemory] at hcreated
      exact nomatch (hcreated : CreatePoint.sync = .resize)
    | some memory =>
      rw [hmemory] at hcreated
      obtain ⟨-, hlength, hfits, hmagic, hversion, hcapacity⟩ := hcreated
      obtain rfl : mapped = some id := hmapped
      refine h.move_quiet rfl rfl rfl (named_unlink _ _) ?_ ?_
      · intro holder hliving
        obtain rfl := Option.some.inj hliving
        refine .inr ⟨id, memory, rfl, hknown, hmemory, ?_, hlength.symm, rfl, hfd, hsize⟩
        exact ⟨hmagic, hversion, hcapacity.trans hlength, hlength ▸ hfits⟩
      · intro holder hliving
        obtain rfl := Option.some.inj hliving
        exact nofun

/-- `open` up to `shm_open`. -/
theorem ContentsInv.open (h : state.ContentsInv) {handle : BufferHandle}
    {buffer : SharedMemoryBuffer} {mapped : Option ObjectId}
    (hholder : state.handles handle = some ⟨buffer, mapped, .idle⟩) (name : Bytes)
    (granted : Bool) :
    (state.open handle ⟨buffer, mapped, .idle⟩ name granted).ContentsInv := by
  unfold SharedContents.open
  split
  · exact h
  · rename_i hopen
    have hclosed : buffer.Closed ∧ mapped = none := by
      obtain hclosed | ⟨id, memory, hopened⟩ := h.handles handle _ hholder
      · exact hclosed
      · have hmapping : buffer.mapping = true := hopened.isOpen
        simp [SharedMemoryBuffer.isOpen, hmapping] at hopen
    split
    · rename_i id hnamed
      refine h.move_quiet rfl rfl rfl (.inl rfl) ?_ ?_
      · intro holder hliving
        obtain rfl := Option.some.inj hliving
        exact ⟨hclosed.1, id, rfl, h.named id hnamed⟩
      · intro holder hliving
        obtain rfl := Option.some.inj hliving
        exact nofun
    · refine h.move_quiet rfl rfl rfl (.inl rfl) ?_ ?_
      · intro holder hliving
        obtain rfl := Option.some.inj hliving
        simp only [hclosed.1.eq.1]
        exact .inl hclosed
      · intro holder hliving
        obtain rfl := Option.some.inj hliving
        exact nofun

/-- The rest of `open`. -/
theorem ContentsInv.finishOpen (h : state.ContentsInv) {handle : BufferHandle}
    {buffer : SharedMemoryBuffer} {id : ObjectId}
    (hholder : state.handles handle = some ⟨buffer, some id, .opening⟩) (name : Bytes)
    (statted mapped : Bool) :
    (state.finishOpen handle ⟨buffer, some id, .opening⟩ id name statted mapped).ContentsInv := by
  obtain ⟨hclosed, _, hmapped, hknown⟩ := h.handles handle _ hholder
  obtain rfl := Option.some.inj hmapped
  have hmapping : buffer.mapping = false := hclosed.mapping
  unfold SharedContents.finishOpen
  -- the name was valid when `open` began
  by_cases hname : isValidSharedMemoryName name = false
  · have hrefused : ∀ outcome, buffer.open name (some ⟨none⟩) outcome = (buffer, false) := by
      intro outcome
      simp [SharedMemoryBuffer.open, hname]
    simp only [hrefused]
    refine h.move_quiet rfl rfl rfl (.inl rfl) ?_ ?_
    · intro holder hliving
      obtain rfl := Option.some.inj hliving
      exact .inl ⟨hclosed, rfl⟩
    · intro holder hliving
      obtain rfl := Option.some.inj hliving
      exact nofun
  have hopen : (buffer.isOpen || !isValidSharedMemoryName name) = false := by
    simpa [SharedMemoryBuffer.isOpen, hmapping] using hname
  obtain hfailed | ⟨size, hsize, hfits, hvalid, hopened⟩ :=
    SharedMemoryBuffer.open_cases
      { granted := true
        size := if statted then some (state.objects id).size else none
        mapped
        validHeader := (state.objects id).memory.any fun memory =>
          memory.hasValidHeader memory.data.length } hopen rfl
  · simp only [hfailed]
    refine h.move_quiet rfl rfl rfl (.inl rfl) ?_ ?_
    · intro holder hliving
      obtain rfl := Option.some.inj hliving
      exact .inl ⟨buffer.closed_close, rfl⟩
    · intro holder hliving
      obtain rfl := Option.some.inj hliving
      exact nofun
  · simp only [hopened]
    refine h.move_quiet rfl rfl rfl (.inl rfl) ?_ ?_
    · intro holder hliving
      obtain rfl := Option.some.inj hliving
      cases hmemory : (state.objects id).memory with
      | none =>
        rw [hmemory] at hvalid
        exact nomatch hvalid
      | some memory =>
        rw [hmemory] at hvalid
        have hheader : memory.hasValidHeader memory.data.length := of_decide_eq_true hvalid
        have hsize' : size = sharedMemoryHeaderSize + memory.data.length := by
          simp only [StoredObject.size, hmemory] at hsize
          split at hsize
          · exact (Option.some.inj hsize).symm
          · exact nomatch hsize
        subst hsize'
        have hcapacity : sharedMemoryHeaderSize + memory.data.length - sharedMemoryHeaderSize =
            memory.data.length := Nat.add_sub_cancel_left _ _
        refine .inr ⟨id, memory, rfl, hknown, hmemory, ?_, hcapacity, rfl, rfl, ?_⟩
        · simp only [hcapacity]
          exact hheader
        · simp only [hcapacity]
    · intro holder hliving
      obtain rfl := Option.some.inj hliving
      exact nofun

/-- `write` up to the copy: the bytes change, the rest of the object is kept. -/
theorem ContentsInv.write (h : state.ContentsInv) {handle : BufferHandle}
    {buffer : SharedMemoryBuffer} {mapped : Option ObjectId}
    (hholder : state.handles handle = some ⟨buffer, mapped, .idle⟩) (bytes : Bytes) :
    (state.write handle ⟨buffer, mapped, .idle⟩ bytes).ContentsInv := by
  unfold SharedContents.write
  split
  · exact h
  · rename_i haccepted
    simp only [Bool.or_eq_true, Bool.not_eq_true', decide_eq_true_eq, not_or,
      Bool.not_eq_false] at haccepted
    obtain ⟨hopen, hfits⟩ := haccepted
    obtain ⟨hclosed, -⟩ | ⟨id, memory, hopened⟩ := h.handles handle _ hholder
    · exact absurd (hclosed.mapping.symm.trans hopen) nofun
    · obtain rfl : mapped = some id := hopened.mapped
      have hbind : ((some id).bind fun id => (state.objects id).memory.map (id, ·)) =
          some (id, memory) := by
        simp [hopened.bytes]
      simp only [hbind]
      have hcapacity : buffer.capacity = memory.data.length := hopened.capacity
      have hlength : bytes.length ≤ memory.data.length := by omega
      have hkept : MemoryKept (some memory) (some (memory.copyData bytes)) :=
        ⟨memory.length_copyData bytes hlength, fun h => h, fun h => h, fun h => h, fun h => h⟩
      have hobject : ∀ id', MemoryKept (state.objects id').memory
          (Function.update state.objects id
            { state.objects id with memory := some (memory.copyData bytes) } id').memory := by
        intro id'
        by_cases heq : id' = id
        · subst heq
          rw [Function.update_self, hopened.bytes]
          exact hkept
        · rw [Function.update_of_ne heq]
          exact MemoryKept.refl _
      refine h.move rfl (Nat.le_refl _) h.named (fun _ _ _ _ id' _ => hobject id') ?_ ?_
      · intro holder hliving
        obtain rfl := Option.some.inj hliving
        obtain ⟨memory', hopened'⟩ : ∃ memory', ((state.setMemory id (memory.copyData bytes)).put
            handle (some ⟨buffer, some id, .writing bytes⟩)).Opened _ id memory' :=
          hopened.kept (Nat.le_refl _) (hobject id)
        exact ⟨id, memory', hopened'.same rfl rfl, hcapacity ▸ hlength⟩
      · intro holder hliving
        obtain rfl := Option.some.inj hliving
        exact nofun

/-- The rest of `write`. -/
theorem ContentsInv.finishWrite (h : state.ContentsInv) {handle : BufferHandle}
    {buffer : SharedMemoryBuffer} {id : ObjectId} {bytes : Bytes}
    (hholder : state.handles handle = some ⟨buffer, some id, .writing bytes⟩)
    {memory : SharedMemory} (hmemory : (state.objects id).memory = some memory) :
    (state.finishWrite handle ⟨buffer, some id, .writing bytes⟩ id memory bytes).ContentsInv := by
  obtain ⟨_, memory', hopened, hfits⟩ := h.handles handle _ hholder
  obtain rfl := Option.some.inj hopened.mapped
  obtain rfl : memory = memory' := Option.some.inj (hmemory.symm.trans hopened.bytes)
  have hcapacity : buffer.capacity = memory.data.length := hopened.capacity
  have hobject : ∀ id', MemoryKept (state.objects id').memory
      (Function.update state.objects id
        ⟨some (memory.storeDataSize bytes.length), bytes⟩ id').memory := by
    intro id'
    by_cases heq : id' = id
    · subst heq
      rw [Function.update_self, hmemory]
      exact ⟨rfl, fun h => h, fun h => h, fun h => h, fun _ => hcapacity ▸ hfits⟩
    · rw [Function.update_of_ne heq]
      exact MemoryKept.refl _
  refine h.move rfl (Nat.le_refl _) h.named (fun _ _ _ _ id' _ => hobject id') ?_ ?_
  · intro holder hliving
    obtain rfl := Option.some.inj hliving
    obtain ⟨memory', hopened'⟩ : ∃ memory', (state.finishWrite handle
        ⟨buffer, some id, .writing bytes⟩ id memory bytes).Opened _ id memory' :=
      hopened.kept (Nat.le_refl _) (hobject id)
    exact .inr ⟨id, memory', hopened'.same rfl rfl⟩
  · intro holder hliving
    obtain rfl := Option.some.inj hliving
    exact nofun

/-- The step of any handle. -/
theorem ContentsInv.step (h : state.ContentsInv) {name : Bytes} {action : ContentAction}
    (hstep : state.step name action = some state') : state'.ContentsInv := by
  cases action with
  | construct =>
    obtain rfl := Option.some.inj hstep
    refine h.move_quiet rfl rfl rfl (.inl rfl) ?_ ?_
    · intro holder hliving
      obtain rfl := Option.some.inj hliving
      exact .inl ⟨⟨rfl, rfl, rfl, rfl⟩, rfl⟩
    · intro holder hliving
      obtain rfl := Option.some.inj hliving
      exact nofun
  | create handle capacity granted =>
    simp only [SharedContents.step] at hstep
    split at hstep
    · rename_i hholder
      obtain rfl := Option.some.inj hstep
      exact h.create hholder name capacity granted
    · exact nomatch hstep
  | createStep handle =>
    simp only [SharedContents.step] at hstep
    split at hstep
    · rename_i hholder
      obtain ⟨⟨memory, point'⟩, hpoint, rfl⟩ := Option.map_eq_some_iff.mp hstep
      exact h.createStep hholder hpoint
    · exact nomatch hstep
  | finishCreate handle outcome denied =>
    simp only [SharedContents.step] at hstep
    split at hstep
    · rename_i hholder
      obtain ⟨hcan, heq⟩ := Option.ite_none_right_eq_some.mp hstep
      obtain rfl := Option.some.inj heq
      exact h.finishCreate hholder hcan denied
    · exact nomatch hstep
  | «open» handle granted =>
    simp only [SharedContents.step] at hstep
    split at hstep
    · rename_i hholder
      obtain rfl := Option.some.inj hstep
      exact h.open hholder name granted
    · exact nomatch hstep
  | finishOpen handle statted mapped =>
    simp only [SharedContents.step] at hstep
    split at hstep
    · rename_i hholder
      obtain rfl := Option.some.inj hstep
      exact h.finishOpen hholder name statted mapped
    · exact nomatch hstep
  | write handle bytes =>
    simp only [SharedContents.step] at hstep
    split at hstep
    · rename_i hholder
      obtain rfl := Option.some.inj hstep
      exact h.write hholder bytes
    · exact nomatch hstep
  | finishWrite handle =>
    simp only [SharedContents.step] at hstep
    split at hstep
    · rename_i hholder
      obtain ⟨memory, hmemory, rfl⟩ := Option.map_eq_some_iff.mp hstep
      exact h.finishWrite hholder hmemory
    · exact nomatch hstep
  | read handle =>
    simp only [SharedContents.step] at hstep
    split at hstep
    · rename_i buffer mapped hholder
      split at hstep
      · rename_i dataSize hsize
        obtain rfl := Option.some.inj hstep
        refine h.move_quiet rfl rfl rfl (.inl rfl) ?_ ?_
        · intro holder hliving
          obtain rfl := Option.some.inj hliving
          obtain ⟨hclosed, -⟩ | ⟨id, memory, hopened⟩ := h.handles handle _ hholder
          · have hmapping : buffer.mapping = false := hclosed.mapping
            simp [readSize, SharedMemoryBuffer.isOpen, hmapping] at hsize
          · have hfetched := hopened.readSize
            obtain rfl := Option.some.inj (hsize.symm.trans hfetched.1)
            exact ⟨id, memory, hopened.same rfl rfl, hfetched.2⟩
        · intro holder hliving
          obtain rfl := Option.some.inj hliving
          exact nofun
      · obtain rfl := Option.some.inj hstep
        exact h
    · exact nomatch hstep
  | finishRead handle =>
    simp only [SharedContents.step] at hstep
    split at hstep
    · rename_i hholder
      obtain rfl := Option.some.inj hstep
      refine h.move_quiet rfl rfl rfl (.inl rfl) ?_ ?_
      · intro holder hliving
        obtain rfl := Option.some.inj hliving
        obtain ⟨id, memory, hopened, -⟩ := h.handles handle _ hholder
        exact .inr ⟨id, memory, hopened.same rfl rfl⟩
      · intro holder hliving
        obtain rfl := Option.some.inj hliving
        exact nofun
    · exact nomatch hstep
  | close handle =>
    simp only [SharedContents.step] at hstep
    split at hstep
    · rename_i buffer mapped hholder
      obtain rfl := Option.some.inj hstep
      refine h.move_quiet rfl rfl rfl (.inl rfl) ?_ ?_
      · intro holder hliving
        obtain rfl := Option.some.inj hliving
        exact .inl ⟨buffer.closed_close, rfl⟩
      · intro holder hliving
        obtain rfl := Option.some.inj hliving
        exact nofun
    · exact nomatch hstep
  | remove handle denied =>
    simp only [SharedContents.step] at hstep
    split at hstep
    · rename_i buffer mapped hholder
      obtain rfl := Option.some.inj hstep
      refine h.move_quiet rfl rfl rfl (named_unlink _ _) ?_ ?_
      · intro holder hliving
        obtain rfl := Option.some.inj hliving
        have hwell := h.handles handle _ hholder
        cases denied with
        | true => exact hwell
        | false =>
          obtain ⟨hclosed, hnone⟩ | ⟨id, memory, hopened⟩ := hwell
          · exact .inl ⟨⟨hclosed.fd, hclosed.mapping, hclosed.mappingSize, hclosed.capacity⟩,
              hnone⟩
          · exact .inr ⟨id, memory, hopened.mapped, hopened.known, hopened.bytes,
              hopened.validHeader, hopened.capacity, hopened.isOpen, hopened.fd,
              hopened.mappingSize⟩
      · intro holder hliving
        obtain rfl := Option.some.inj hliving
        exact nofun
    · exact nomatch hstep
  | destroy handle denied =>
    simp only [SharedContents.step] at hstep
    split at hstep
    · obtain rfl := Option.some.inj hstep
      exact h.move_quiet rfl rfl rfl (named_unlink _ _) nofun nofun
    · exact nomatch hstep
  | crash handle =>
    obtain ⟨holder, -, rfl⟩ := Option.map_eq_some_iff.mp hstep
    exact h.move_quiet rfl rfl rfl (.inl rfl) nofun nofun

/-- In every run. -/
theorem contentsInv_of_reachable {name : Bytes}
    {ok : SharedContents → ContentAction → Prop}
    (h : (contentsSystem name).Reachable ok state) : state.ContentsInv := by
  refine h.invariant ContentsInv ?_ fun _ _ _ _ hinv _ hstep => hinv.step hstep
  rintro _ ⟨leftover, rfl⟩
  have hnone : ∀ handle holder, (initial leftover).handles handle ≠ some holder :=
    fun _ _ hsome => nomatch (hsome : (none : Option ContentHandle) = some _)
  refine ⟨fun handle holder hholder => absurd hholder (hnone handle holder), ?_, ?_⟩
  · intro id hid
    cases leftover with
    | none => exact nomatch hid
    | some memory =>
      obtain rfl := Option.some.inj hid
      exact Nat.one_pos
  · intro handle _ holder _ _ _ _ _ hholder
    exact absurd hholder (hnone handle holder)

/-- A handle that is open has mapped an object with a valid header. -/
theorem ContentsInv.opened (h : state.ContentsInv) {handle : BufferHandle}
    (hholder : state.handles handle = some holder) (hopen : holder.buffer.isOpen = true) :
    ∃ id memory, state.Opened holder id memory := by
  have hwell := h.handles handle holder hholder
  have hnot : ¬ holder.buffer.Closed := by
    intro hclosed
    rw [SharedMemoryBuffer.isOpen, hclosed.mapping] at hopen
    exact nomatch hopen
  unfold HandleWell at hwell
  cases hpc : holder.pc with
  | idle =>
    rw [hpc] at hwell
    exact hwell.resolve_left fun hclosed => hnot hclosed.1
  | creating capacity point =>
    rw [hpc] at hwell
    exact nomatch hwell.1.symm.trans hopen
  | opening =>
    rw [hpc] at hwell
    exact absurd hwell.1 hnot
  | writing bytes | reading dataSize =>
    rw [hpc] at hwell
    obtain ⟨id, memory, hopened, -⟩ := hwell
    exact ⟨id, memory, hopened⟩

end SharedContents

/-- In every run, with whatever creations going on: a handle that is open has mapped the whole
    of an object, with the capacity that any other handle of that object has; `read` passes the
    check of the header and `size` is at most the capacity; the copies of `write` and `read`
    stay inside the mapping; and a handle that is neither open nor in the middle of a call
    holds no descriptor and no object. -/
theorem open_handles_agree {name : Bytes} {state : SharedContents}
    (h : (contentsSystem name).Reachable TransitionSystem.anyStep state) {handle : BufferHandle}
    {holder : ContentHandle} (hholder : state.handles handle = some holder) :
    (holder.buffer.isOpen = true → ∃ id memory,
      holder.mapped = some id ∧ (state.objects id).memory = some memory ∧
        holder.buffer.capacity = memory.data.length ∧
        holder.buffer.mappingSize = (state.objects id).size ∧ holder.buffer.fd = true ∧
        state.readSize holder = some memory.dataSize ∧
        memory.dataSize ≤ holder.buffer.capacity ∧
        ∀ other holder', state.handles other = some holder' → holder'.buffer.isOpen = true →
          holder'.mapped = some id → holder'.buffer.capacity = holder.buffer.capacity) ∧
    (∀ bytes, holder.pc = .writing bytes → bytes.length ≤ holder.buffer.capacity) ∧
    (∀ dataSize, holder.pc = .reading dataSize → dataSize ≤ holder.buffer.capacity) ∧
    (holder.buffer.isOpen = false → holder.pc = .idle →
      holder.buffer.Closed ∧ holder.mapped = none) := by
  have hinv := SharedContents.contentsInv_of_reachable h
  have hwell := hinv.handles handle holder hholder
  refine ⟨?_, ?_, ?_, ?_⟩
  · intro hopen
    obtain ⟨id, memory, hopened⟩ := hinv.opened hholder hopen
    obtain ⟨hsize, hfits⟩ := hopened.readSize
    refine ⟨id, memory, hopened.mapped, hopened.bytes, hopened.capacity, ?_, hopened.fd, hsize,
      hfits, ?_⟩
    · rw [hopened.mappingSize, StoredObject.size, hopened.bytes, hopened.capacity]
    · intro other holder' hother hopen' hmapped
      obtain ⟨id', memory', hopened'⟩ := hinv.opened hother hopen'
      obtain rfl := Option.some.inj (hmapped.symm.trans hopened'.mapped)
      obtain rfl := Option.some.inj (hopened.bytes.symm.trans hopened'.bytes)
      rw [hopened.capacity, hopened'.capacity]
  · intro bytes hpc
    rw [SharedContents.HandleWell, hpc] at hwell
    obtain ⟨_, _, -, hfits⟩ := hwell
    exact hfits
  · intro dataSize hpc
    rw [SharedContents.HandleWell, hpc] at hwell
    obtain ⟨_, _, -, hfits⟩ := hwell
    exact hfits
  · intro hopen hpc
    rw [SharedContents.HandleWell, hpc] at hwell
    refine hwell.resolve_right ?_
    rintro ⟨id, memory, hopened⟩
    exact nomatch hopen.symm.trans hopened.isOpen

/-- One process creates an object, another one opens it and reads what the first one has
    written. -/
def exchangeActions : List ContentAction :=
  [.construct, .create 0 4 true, .createStep 0, .createStep 0, .createStep 0, .createStep 0,
    .construct, .open 1 true, .finishOpen 1 true true, .createStep 0,
    .finishCreate 0 .created false, .write 0 [7, 8, 9], .finishWrite 0, .remove 0 false,
    .write 1 [5, 6], .finishWrite 1, .read 0]

/-- Inside the last `read` the size of the second message was fetched; it is within the
    capacity, which both handles agree on. -/
theorem open_handles_agree_exchange :
    ∃ state : SharedContents, ∃ holder other : ContentHandle,
      state.handles 0 = some holder ∧ state.handles 1 = some other ∧
      holder.pc = .reading 2 ∧ 2 ≤ holder.buffer.capacity ∧
      other.buffer.capacity = holder.buffer.capacity := by
  have hinit : (contentsSystem [47, 120]).init (.initial none) := ⟨none, rfl⟩
  obtain ⟨state, -, hreach, hstate⟩ := TransitionSystem.exists_of_run
    (contentsSystem [47, 120]) TransitionSystem.anyStep exchangeActions
    (fun state => ∃ holder ∈ state.handles 0, ∃ other ∈ state.handles 1,
      holder.pc = .reading 2 ∧ holder.buffer.isOpen = true ∧ other.buffer.isOpen = true ∧
      other.mapped = holder.mapped)
    hinit (by decide +kernel)
  obtain ⟨holder, hholder, other, hother, hpc, hopen, hopen', hmapped⟩ :=
    of_decide_eq_true hstate
  have hagree := open_handles_agree hreach hholder
  obtain ⟨id, memory, hid, -, -, -, -, -, -, hcapacity⟩ := hagree.1 hopen
  exact ⟨state, holder, other, hholder, hother, hpc, hagree.2.2.1 2 hpc,
    hcapacity 1 other hother hopen' (hmapped.trans hid)⟩

end EdgeLink
