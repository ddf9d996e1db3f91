import EdgeLink.Spec.SharedMemoryContentsCorrect

/-! # Shared memory as a register

Nothing keeps two processes from writing at the same time. Where they do not, an object is a
register: every `read` returns what was written to that object last, in whatever processes and
through whatever handles, also after the name was removed or given to another object.

* `Serialised`: the accesses to one object do not overlap, and no process ends inside `write`.
* `Coherent`: the bytes of an object against what was written to it last, with an access going
  on or not.
* `read_returns_last_write`: what the bytes of a `read` are. -/

namespace EdgeLink

namespace HandlePc

/-- In the middle of `write`. -/
def isWriting : HandlePc → Bool
  | .writing _ => true
  | _ => false

/-- In the middle of a function that uses the bytes of the object. -/
def isBusy : HandlePc → Bool
  | .creating _ _ | .writing _ | .reading _ => true
  | .idle | .opening => false

theorem isBusy_of_isWriting {pc : HandlePc} (h : pc.isWriting = true) : pc.isBusy = true := by
  cases pc with
  | writing bytes => rfl
  | _ => exact nomatch h

end HandlePc

namespace SharedContents

/-- Where the processes are whose handles refer to an object. -/
def accesses (state : SharedContents) (id : ObjectId) : List HandlePc :=
  (List.range state.nextHandle).filterMap fun handle =>
    (state.handles handle).bind fun holder =>
      if holder.mapped = some id then some holder.pc else none

/-- The object that a handle refers to. -/
def objectOf (state : SharedContents) (handle : BufferHandle) : Option ObjectId :=
  (state.handles handle).bind (·.mapped)

/-- A `write` begins while no other access to its object is going on, a `read` while no `write`
    is, and no process ends inside `write`. -/
def Serialised (state : SharedContents) : ContentAction → Prop
  | .write handle _ =>
    ∀ id ∈ state.objectOf handle, ∀ pc ∈ state.accesses id, pc.isBusy = false
  | .read handle =>
    ∀ id ∈ state.objectOf handle, ∀ pc ∈ state.accesses id, pc.isWriting = false
  | .crash handle => ∀ holder ∈ state.handles handle, holder.pc.isWriting = false
  | _ => True

instance (state : SharedContents) (action : ContentAction) :
    Decidable (state.Serialised action) := by
  unfold Serialised
  cases action <;> infer_instance

/-- A handle agrees with what was last written to its object. -/
def Agrees (object : StoredObject) : HandlePc → Prop
  | .creating _ _ => object.contents = []
  | .writing bytes => ∀ memory ∈ object.memory, memory.copyOut bytes.length = bytes
  | .reading dataSize => ∀ memory ∈ object.memory, memory.copyOut dataSize = object.contents
  | .idle | .opening => True

/-- The bytes of an object are what was last written to it. -/
def Settled (object : StoredObject) : Prop :=
  ∀ memory ∈ object.memory, memory.copyOut memory.dataSize = object.contents

/-- All objects agree with what was last written to them, as far as no `write` is going on, and
    no `write` goes on beside another access. -/
structure Coherent (state : SharedContents) : Prop where
  below : ∀ handle holder, state.handles handle = some holder → handle < state.nextHandle
  agrees : ∀ handle holder id, state.handles handle = some holder → holder.mapped = some id →
    Agrees (state.objects id) holder.pc
  exclusive : ∀ handle holder id other holder', state.handles handle = some holder →
    holder.mapped = some id → holder.pc.isWriting = true → other ≠ handle →
    state.handles other = some holder' → holder'.mapped = some id → holder'.pc.isBusy = false
  settled : ∀ id,
    (∀ handle holder, state.handles handle = some holder → holder.mapped = some id →
      holder.pc.isWriting = false) → Settled (state.objects id)

variable {state state' : SharedContents}

/-- The handles of an object are among its accesses. -/
theorem Coherent.mem_accesses (h : state.Coherent) {handle : BufferHandle}
    {holder : ContentHandle} {id : ObjectId} (hholder : state.handles handle = some holder)
    (hmapped : holder.mapped = some id) : holder.pc ∈ state.accesses id := by
  refine List.mem_filterMap.mpr ⟨handle, List.mem_range.mpr (h.below handle holder hholder), ?_⟩
  simp [hholder, hmapped]

/-- One handle moves, and perhaps one object changes. -/
theorem Coherent.move (h : state.Coherent) {handle : BufferHandle}
    {living : Option ContentHandle}
    (hhandles : state'.handles = Function.update state.handles handle living)
    (hbelow : handle < state'.nextHandle ∧ state.nextHandle ≤ state'.nextHandle)
    (hagrees : ∀ other holder id, other ≠ handle → state.handles other = some holder →
      holder.mapped = some id → Agrees (state'.objects id) holder.pc)
    (hliving : ∀ holder ∈ living, ∀ id, holder.mapped = some id →
      Agrees (state'.objects id) holder.pc ∧
        (holder.pc.isBusy = true → ∀ other holder', other ≠ handle →
          state.handles other = some holder' → holder'.mapped = some id →
          holder'.pc.isWriting = false ∧
            (holder.pc.isWriting = true → holder'.pc.isBusy = false)))
    (hsettled : ∀ id,
      (∀ other holder, other ≠ handle → state.handles other = some holder →
        holder.mapped = some id → holder.pc.isWriting = false) →
      (∀ holder ∈ living, holder.mapped = some id → holder.pc.isWriting = false) →
      Settled (state'.objects id)) : state'.Coherent := by
  have hother : ∀ {other holder}, other ≠ handle → state'.handles other = some holder →
      state.handles other = some holder := by
    intro other holder hne hholder
    rwa [hhandles, Function.update_of_ne hne] at hholder
  have hself : ∀ {holder}, state'.handles handle = some holder → holder ∈ living := by
    intro holder hholder
    rw [hhandles, Function.update_self] at hholder
    exact hholder
  refine ⟨?_, ?_, ?_, ?_⟩
  · intro other holder hholder
    by_cases heq : other = handle
    · rw [heq]
      exact hbelow.1
    · exact Nat.lt_of_lt_of_le (h.below other holder (hother heq hholder)) hbelow.2
  · intro other holder id hholder hmapped
    by_cases heq : other = handle
    · subst heq
      exact (hliving holder (hself hholder) id hmapped).1
    · exact hagrees other holder id heq (hother heq hholder) hmapped
  · intro first holder id second holder' hholder hmapped hwriting hne hholder' hmapped'
    by_cases hfirst : first = handle
    · subst hfirst
      exact ((hliving holder (hself hholder) id hmapped).2
        (HandlePc.isBusy_of_isWriting hwriting) second holder' hne (hother hne hholder')
        hmapped').2 hwriting
    · have hold := hother hfirst hholder
      by_cases hsecond : second = handle
      · subst hsecond
        -- the handle that moves may not become busy beside a write
        cases hbusy : holder'.pc.isBusy with
        | false => rfl
        | true =>
          have hquiet := ((hliving holder' (hself hholder') id hmapped').2 hbusy first holder
            hfirst hold hmapped).1
          exact nomatch hquiet.symm.trans hwriting
      · exact h.exclusive first holder id second holder' hold hmapped hwriting hne
          (hother hsecond hholder') hmapped'
  · intro id hquiet
    refine hsettled id ?_ ?_
    · intro other holder hne hholder hmapped
      refine hquiet other holder ?_ hmapped
      rwa [hhandles, Function.update_of_ne hne]
    · intro holder hholder hmapped
      refine hquiet handle holder ?_ hmapped
      rw [hhandles, Function.update_self]
      exact hholder

/-- One handle moves that was not writing and does not write, and no object changes. -/
theorem Coherent.move_quiet (h : state.Coherent) {handle : BufferHandle}
    {living : Option ContentHandle}
    (hhandles : state'.handles = Function.update state.handles handle living)
    (hbelow : handle < state'.nextHandle ∧ state.nextHandle ≤ state'.nextHandle)
    (hobjects : state'.objects = state.objects)
    (hbefore : ∀ holder, state.handles handle = some holder → holder.pc.isWriting = false)
    (hliving : ∀ holder ∈ living, holder.pc.isBusy = false) : state'.Coherent := by
  refine h.move hhandles hbelow ?_ ?_ ?_
  · intro other holder id _ hholder hmapped
    rw [hobjects]
    exact h.agrees other holder id hholder hmapped
  · intro holder hholder id _
    have hidle := hliving holder hholder
    constructor
    · cases hpc : holder.pc with
      | idle | opening => trivial
      | _ =>
        rw [hpc] at hidle
        exact nomatch hidle
    · intro hbusy
      exact nomatch hidle.symm.trans hbusy
  · intro id hquiet _
    rw [hobjects]
    refine h.settled id fun other holder hholder hmapped => ?_
    by_cases heq : other = handle
    · subst heq
      exact hbefore holder hholder
    · exact hquiet other holder heq hholder hmapped

/-- `create` that has made an object: it is empty. -/
theorem Coherent.create (h : state.Coherent) (hinv : state.ContentsInv) {handle : BufferHandle}
    {buffer : SharedMemoryBuffer} {mapped : Option ObjectId}
    (hholder : state.handles handle = some ⟨buffer, mapped, .idle⟩) (name : Bytes) (capacity : Nat)
    (granted : Bool) :
    (state.create handle ⟨buffer, mapped, .idle⟩ name capacity granted).Coherent := by
  have hbelow := h.below handle _ hholder
  have hbefore : ∀ holder, state.handles handle = some holder → holder.pc.isWriting = false := by
    intro holder hsame
    obtain rfl := Option.some.inj (hholder.symm.trans hsame)
    rfl
  unfold SharedContents.create
  split
  · refine h.move_quiet rfl ⟨hbelow, Nat.le_refl _⟩ rfl hbefore fun holder hliving => ?_
    obtain rfl := Option.some.inj hliving
    rfl
  · refine h.move rfl ⟨hbelow, Nat.le_refl _⟩ ?_ ?_ ?_
    · intro other holder id _ hother hmapped
      show Agrees (Function.update state.objects state.nextObject _ id) _
      rw [Function.update_of_ne (Nat.ne_of_lt (hinv.known hother hmapped))]
      exact h.agrees other holder id hother hmapped
    · intro holder hliving id hmapped
      obtain rfl := Option.some.inj hliving
      obtain rfl := Option.some.inj hmapped
      constructor
      · show (Function.update state.objects _ _ _).contents = []
        rw [Function.update_self]
      · intro _ other holder' _ hother hsame
        exact absurd (hinv.known hother hsame) (Nat.lt_irrefl _)
    · intro id hquiet _
      show Settled (Function.update state.objects state.nextObject _ id)
      by_cases heq : id = state.nextObject
      · subst heq
        rw [Function.update_self]
        exact nofun
      · rw [Function.update_of_ne heq]
        refine h.settled id fun other holder hother hmapped => ?_
        by_cases hsame : other = handle
        · subst hsame
          exact hbefore holder hother
        · exact hquiet other holder hsame hother hmapped

/-- A step of `create` leaves the bytes, and the size is what it was or zero. -/
theorem createStep_bytes {capacity : Nat} {point point' : CreatePoint}
    {before : Option SharedMemory} {after : SharedMemory}
    (hcreated : MidCreate capacity point before)
    (hstep : SharedContents.createStep capacity point before = some (after, point')) :
    (∀ memory ∈ before, after.data = memory.data) ∧
      (after.dataSize = 0 ∨ ∃ memory ∈ before, after.dataSize = memory.dataSize) := by
  match before, hcreated with
  | none, hcreated =>
    obtain rfl : point = .resize := hcreated
    obtain ⟨rfl, -⟩ := Prod.mk.inj (Option.some.inj hstep)
    exact ⟨nofun, .inl rfl⟩
  | some memory, ⟨hpoint, _⟩ =>
    cases point with
    | resize => exact absurd rfl hpoint
    | storeMagic | storeVersion | storeCapacity =>
      obtain ⟨rfl, -⟩ := Prod.mk.inj (Option.some.inj hstep)
      refine ⟨fun memory' hmemory => ?_, .inr ⟨memory, rfl, rfl⟩⟩
      obtain rfl := Option.some.inj hmemory
      rfl
    | storeDataSize =>
      obtain ⟨rfl, -⟩ := Prod.mk.inj (Option.some.inj hstep)
      refine ⟨fun memory' hmemory => ?_, .inl rfl⟩
      obtain rfl := Option.some.inj hmemory
      rfl
    | sync => exact nomatch hstep

/-- A step of `create`: nothing was written to the object yet. -/
theorem Coherent.createStep (h : state.Coherent) (hinv : state.ContentsInv)
    {handle : BufferHandle} {buffer : SharedMemoryBuffer} {id : ObjectId} {capacity : Nat}
    {point point' : CreatePoint}
    (hholder : state.handles handle = some ⟨buffer, some id, .creating capacity point⟩)
    {memory : SharedMemory}
    (hstep : SharedContents.createStep capacity point (state.objects id).memory =
      some (memory, point')) :
    ((state.setMemory id memory).put handle
      (some ⟨buffer, some id, .creating capacity point'⟩)).Coherent := by
  obtain ⟨-, -, -, _, hmapped, -, hcreated⟩ := hinv.handles handle _ hholder
  obtain rfl := Option.some.inj hmapped
  obtain ⟨hdata, hsize⟩ := createStep_bytes hcreated hstep
  have hempty : (state.objects id).contents = [] := h.agrees handle _ id hholder rfl
  -- a write beside the creator would be beside a busy handle
  have hnowriter : ∀ other holder, state.handles other = some holder →
      holder.mapped = some id → holder.pc.isWriting = false := by
    intro other holder hother hmapped'
    cases hwriting : holder.pc.isWriting with
    | false => rfl
    | true =>
      by_cases heq : other = handle
      · subst heq
        obtain rfl := Option.some.inj (hholder.symm.trans hother)
        exact nomatch hwriting
      · exact nomatch h.exclusive other holder id handle _ hother hmapped' hwriting (Ne.symm heq)
          hholder rfl
  refine h.move rfl ⟨h.below handle _ hholder, Nat.le_refl _⟩ ?_ ?_ ?_
  · intro other holder id' hne hother hmapped'
    have hagrees := h.agrees other holder id' hother hmapped'
    show Agrees (Function.update state.objects id _ id') _
    by_cases heq : id' = id
    · subst heq
      rw [Function.update_self]
      cases hpc : holder.pc with
      | idle | opening => trivial
      | creating capacity' point'' => exact hempty
      | writing bytes =>
        have hquiet := hnowriter other holder hother hmapped'
        rw [hpc] at hquiet
        exact nomatch hquiet
      | reading dataSize =>
        rw [hpc] at hagrees
        intro memory' hmemory'
        obtain rfl := Option.some.inj hmemory'
        cases hbefore : (state.objects id').memory with
        | none =>
          obtain ⟨_, _, hcreating⟩ := hinv.point_of_uses hother ⟨hmapped', by simp [hpc]⟩ hbefore
          exact nomatch hcreating.symm.trans hpc
        | some before =>
          have hcopied := hagrees before hbefore
          rw [SharedMemory.copyOut, hdata before hbefore]
          exact hcopied
    · rw [Function.update_of_ne heq]
      exact hagrees
  · intro holder hliving id' hmapped'
    obtain rfl := Option.some.inj hliving
    obtain rfl := Option.some.inj hmapped'
    constructor
    · show (Function.update state.objects id _ id).contents = []
      rw [Function.update_self]
      exact hempty
    · intro _ other holder' _ hother hsame
      exact ⟨hnowriter other holder' hother hsame, nofun⟩
  · intro id' hquiet _
    show Settled (Function.update state.objects id _ id')
    by_cases heq : id' = id
    · subst heq
      rw [Function.update_self]
      intro memory' hmemory'
      obtain rfl := Option.some.inj hmemory'
      show memory.copyOut memory.dataSize = (state.objects id').contents
      obtain hzero | ⟨before, hbefore, hsame⟩ := hsize
      · rw [hzero, hempty, SharedMemory.copyOut, List.take_zero]
      · rw [hsame, SharedMemory.copyOut, hdata before hbefore]
        exact h.settled id' hnowriter before hbefore
    · rw [Function.update_of_ne heq]
      refine h.settled id' fun other holder hother hmapped' => ?_
      by_cases hsame : other = handle
      · subst hsame
        obtain rfl := Option.some.inj (hholder.symm.trans hother)
        rfl
      · exact hquiet other holder hsame hother hmapped'

/-- `write` up to the copy. -/
theorem Coherent.write (h : state.Coherent) {handle : BufferHandle}
    {buffer : SharedMemoryBuffer} {mapped : Option ObjectId}
    (hholder : state.handles handle = some ⟨buffer, mapped, .idle⟩) {bytes : Bytes}
    (hserialised : state.Serialised (.write handle bytes)) :
    (state.write handle ⟨buffer, mapped, .idle⟩ bytes).Coherent := by
  unfold SharedContents.write
  split
  · exact h
  · split
    · exact h
    · rename_i id' memory' hbind
      obtain ⟨id, hmapped, hmap⟩ := Option.bind_eq_some_iff.mp hbind
      obtain ⟨memory, -, heq⟩ := Option.map_eq_some_iff.mp hmap
      obtain ⟨rfl, rfl⟩ := Prod.mk.inj heq
      obtain rfl : mapped = some id := hmapped
      have hidle : ∀ other holder, state.handles other = some holder →
          holder.mapped = some id → holder.pc.isBusy = false := by
        intro other holder hother hmapped
        refine hserialised id ?_ holder.pc (h.mem_accesses hother hmapped)
        simp [objectOf, hholder]
      refine h.move rfl ⟨h.below handle _ hholder, Nat.le_refl _⟩ ?_ ?_ ?_
      · intro other holder id' _ hother hmapped
        show Agrees (Function.update state.objects id _ id') _
        by_cases heq : id' = id
        · subst heq
          have hquiet := hidle other holder hother hmapped
          cases hpc : holder.pc with
          | idle | opening => trivial
          | _ =>
            rw [hpc] at hquiet
            exact nomatch hquiet
        · rw [Function.update_of_ne heq]
          exact h.agrees other holder id' hother hmapped
      · intro holder hliving id' hmapped
        obtain rfl := Option.some.inj hliving
        obtain rfl := Option.some.inj hmapped
        constructor
        · show Agrees (Function.update state.objects id _ id) (.writing bytes)
          rw [Function.update_self]
          intro memory' hmemory'
          obtain rfl := Option.some.inj hmemory'
          exact List.take_left
        · intro _ other holder' _ hother hsame
          have hquiet := hidle other holder' hother hsame
          refine ⟨?_, fun _ => hquiet⟩
          cases hwriting : holder'.pc.isWriting with
          | false => rfl
          | true => exact nomatch hquiet.symm.trans (HandlePc.isBusy_of_isWriting hwriting)
      · intro id' hquiet hself
        show Settled (Function.update state.objects id _ id')
        by_cases heq : id' = id
        · subst heq
          exact nomatch hself _ rfl rfl
        · rw [Function.update_of_ne heq]
          refine h.settled id' fun other holder hother hmapped => ?_
          by_cases hsame : other = handle
          · subst hsame
            obtain rfl := Option.some.inj (hholder.symm.trans hother)
            rfl
          · exact hquiet other holder hsame hother hmapped

/-- The rest of `write`: the object holds what was written. -/
theorem Coherent.finishWrite (h : state.Coherent) {handle : BufferHandle}
    {buffer : SharedMemoryBuffer} {id : ObjectId} {bytes : Bytes}
    (hholder : state.handles handle = some ⟨buffer, some id, .writing bytes⟩)
    {memory : SharedMemory} (hmemory : (state.objects id).memory = some memory) :
    (state.finishWrite handle ⟨buffer, some id, .writing bytes⟩ id memory bytes).Coherent := by
  have hcopied : memory.copyOut bytes.length = bytes :=
    h.agrees handle _ id hholder rfl memory hmemory
  refine h.move rfl ⟨h.below handle _ hholder, Nat.le_refl _⟩ ?_ ?_ ?_
  · intro other holder id' hne hother hmapped
    show Agrees (Function.update state.objects id _ id') _
    by_cases heq : id' = id
    · subst heq
      have hquiet := h.exclusive handle _ id' other holder hholder rfl rfl hne hother hmapped
      cases hpc : holder.pc with
      | idle | opening => trivial
      | _ =>
        rw [hpc] at hquiet
        exact nomatch hquiet
    · rw [Function.update_of_ne heq]
      exact h.agrees other holder id' hother hmapped
  · intro holder hliving id' _
    obtain rfl := Option.some.inj hliving
    exact ⟨trivial, nofun⟩
  · intro id' hquiet _
    show Settled (Function.update state.objects id _ id')
    by_cases heq : id' = id
    · subst heq
      rw [Function.update_self]
      intro memory' hmemory'
      obtain rfl := Option.some.inj hmemory'
      exact hcopied
    · rw [Function.update_of_ne heq]
      refine h.settled id' fun other holder hother hmapped => ?_
      by_cases hsame : other = handle
      · subst hsame
        obtain rfl := Option.some.inj (hholder.symm.trans hother)
        exact absurd (Option.some.inj hmapped).symm heq
      · exact hquiet other holder hsame hother hmapped

/-- `read` up to the check of the header: the size that it fetched is that of the last write. -/
theorem Coherent.read (h : state.Coherent) {handle : BufferHandle}
    {buffer : SharedMemoryBuffer} {mapped : Option ObjectId}
    (hholder : state.handles handle = some ⟨buffer, mapped, .idle⟩)
    (hserialised : state.Serialised (.read handle)) {dataSize : Nat}
    (hsize : state.readSize ⟨buffer, mapped, .idle⟩ = some dataSize) :
    (state.put handle (some ⟨buffer, mapped, .reading dataSize⟩)).Coherent := by
  have hquiet : ∀ id, mapped = some id → ∀ other holder, state.handles other = some holder →
      holder.mapped = some id → holder.pc.isWriting = false := by
    intro id hid other holder hother hmapped
    refine hserialised id ?_ holder.pc (h.mem_accesses hother hmapped)
    simp [objectOf, hholder, hid]
  refine h.move rfl ⟨h.below handle _ hholder, Nat.le_refl _⟩ ?_ ?_ ?_
  · intro other holder id _ hother hmapped
    exact h.agrees other holder id hother hmapped
  · intro holder hliving id hmapped
    obtain rfl := Option.some.inj hliving
    obtain rfl : mapped = some id := hmapped
    constructor
    · intro memory hmemory
      have hfetched : dataSize = memory.dataSize := by
        have hmemory' : (state.objects id).memory = some memory := hmemory
        simp only [readSize, Option.bind_some, hmemory'] at hsize
        split at hsize
        · cases hsize
        · exact (Option.some.inj (Option.ite_none_right_eq_some.mp hsize).2).symm
      rw [hfetched]
      exact h.settled id (hquiet id rfl) memory hmemory
    · intro _ other holder' _ hother hsame
      exact ⟨hquiet id rfl other holder' hother hsame, fun hwriting => by cases hwriting⟩
  · intro id hall _
    refine h.settled id fun other holder hother hmapped => ?_
    by_cases hsame : other = handle
    · subst hsame
      obtain rfl := Option.some.inj (hholder.symm.trans hother)
      rfl
    · exact hall other holder hsame hother hmapped

/-- The handle whose function returns has not written. -/
theorem not_writing_of_eq {handle : BufferHandle} {before : ContentHandle}
    (hbefore : state.handles handle = some before) (hpc : before.pc.isWriting = false) :
    ∀ holder, state.handles handle = some holder → holder.pc.isWriting = false := by
  intro holder hholder
  obtain rfl := Option.some.inj (hbefore.symm.trans hholder)
  exact hpc

/-- The step of any handle. -/
theorem Coherent.step (h : state.Coherent) (hinv : state.ContentsInv) {name : Bytes}
    {action : ContentAction} (hserialised : state.Serialised action)
    (hstep : state.step name action = some state') : state'.Coherent := by
  cases action with
  | construct =>
    obtain rfl := Option.some.inj hstep
    refine h.move_quiet rfl ⟨Nat.lt_succ_self _, Nat.le_succ _⟩ rfl ?_ ?_
    · intro holder hholder
      exact absurd (h.below _ holder hholder) (Nat.lt_irrefl _)
    · intro holder hliving
      obtain rfl := Option.some.inj hliving
      rfl
  | create handle capacity granted =>
    simp only [SharedContents.step] at hstep
    split at hstep
    · rename_i hholder
      obtain rfl := Option.some.inj hstep
      exact h.create hinv hholder name capacity granted
    · cases hstep
  | createStep handle =>
    simp only [SharedContents.step] at hstep
    split at hstep
    · rename_i hholder
      obtain ⟨⟨memory, point'⟩, hpoint, rfl⟩ := Option.map_eq_some_iff.mp hstep
      exact h.createStep hinv hholder hpoint
    · cases hstep
  | finishCreate handle outcome denied =>
    simp only [SharedContents.step] at hstep
    split at hstep
    · rename_i hholder
      obtain ⟨-, heq⟩ := Option.ite_none_right_eq_some.mp hstep
      obtain rfl := Option.some.inj heq
      refine h.move_quiet rfl ⟨h.below _ _ hholder, Nat.le_refl _⟩ rfl
        (not_writing_of_eq hholder rfl) fun holder hliving => ?_
      obtain rfl := Option.some.inj hliving
      rfl
    · cases hstep
  | «open» handle granted =>
    simp only [SharedContents.step] at hstep
    split at hstep
    · rename_i hholder
      obtain rfl := Option.some.inj hstep
      unfold SharedContents.open
      split
      · exact h
      · split <;>
        · refine h.move_quiet rfl ⟨h.below _ _ hholder, Nat.le_refl _⟩ rfl
            (not_writing_of_eq hholder rfl) fun holder hliving => ?_
          obtain rfl := Option.some.inj hliving
          rfl
    · cases hstep
  | finishOpen handle statted mapped =>
    simp only [SharedContents.step] at hstep
    split at hstep
    · rename_i hholder
      obtain rfl := Option.some.inj hstep
      refine h.move_quiet rfl ⟨h.below _ _ hholder, Nat.le_refl _⟩ rfl
        (not_writing_of_eq hholder rfl) fun holder hliving => ?_
      obtain rfl := Option.some.inj hliving
      rfl
    · cases hstep
  | write handle bytes =>
    simp only [SharedContents.step] at hstep
    split at hstep
    · rename_i hholder
      obtain rfl := Option.some.inj hstep
      exact h.write hholder hserialised
    · cases hstep
  | finishWrite handle =>
    simp only [SharedContents.step] at hstep
    split at hstep
    · rename_i hholder
      obtain ⟨memory, hmemory, rfl⟩ := Option.map_eq_some_iff.mp hstep
      exact h.finishWrite hholder hmemory
    · cases hstep
  | read handle =>
    simp only [SharedContents.step] at hstep
    split at hstep
    · rename_i hholder
      split at hstep
      · rename_i hsize
        obtain rfl := Option.some.inj hstep
        exact h.read hholder hserialised hsize
      · obtain rfl := Option.some.inj hstep
        exact h
    · cases hstep
  | finishRead handle | close handle | remove handle denied =>
    simp only [SharedContents.step] at hstep
    split at hstep
    · rename_i hholder
      obtain rfl := Option.some.inj hstep
      refine h.move_quiet rfl ⟨h.below _ _ hholder, Nat.le_refl _⟩ rfl
        (not_writing_of_eq hholder rfl) fun holder hliving => ?_
      obtain rfl := Option.some.inj hliving
      rfl
    · cases hstep
  | destroy handle denied =>
    simp only [SharedContents.step] at hstep
    split at hstep
    · rename_i hholder
      obtain rfl := Option.some.inj hstep
      exact h.move_quiet rfl ⟨h.below _ _ hholder, Nat.le_refl _⟩ rfl
        (not_writing_of_eq hholder rfl) fun _ hliving => absurd hliving (Option.not_mem_none _)
    · cases hstep
  | crash handle =>
    obtain ⟨holder, hholder, rfl⟩ := Option.map_eq_some_iff.mp hstep
    exact h.move_quiet rfl ⟨h.below _ _ hholder, Nat.le_refl _⟩ rfl
      (not_writing_of_eq hholder (hserialised holder hholder)) fun _ hliving =>
        absurd hliving (Option.not_mem_none _)

/-- In every run whose accesses do not overlap. -/
theorem coherent_of_reachable {name : Bytes}
    (h : (contentsSystem name).Reachable Serialised state) : state.Coherent := by
  refine h.invariant Coherent ?_ fun _ _ _ hreach hcoherent hserialised hstep =>
    hcoherent.step (contentsInv_of_reachable hreach) hserialised hstep
  rintro _ ⟨leftover, rfl⟩
  have hnone : ∀ handle holder, (initial leftover).handles handle ≠ some holder :=
    fun _ _ hsome => nomatch (hsome : (none : Option ContentHandle) = some _)
  refine ⟨fun handle holder hholder => absurd hholder (hnone handle holder),
    fun handle holder _ hholder => absurd hholder (hnone handle holder),
    fun handle holder _ _ _ hholder => absurd hholder (hnone handle holder), ?_⟩
  intro id _ memory hmemory
  have hleftover : leftover.join = some memory := hmemory
  show memory.copyOut memory.dataSize = (StoredObject.leftover leftover.join).contents
  rw [hleftover]
  rfl

end SharedContents

/-- Where the accesses to one object do not overlap, the object is a register: the bytes that a
    `read` copies are what was written to that object last, through whatever handle, or none
    where nothing was written since its creation; and so are those of a `read` that begins
    while no `write` is going on. -/
theorem read_returns_last_write {name : Bytes} {state : SharedContents}
    (h : (contentsSystem name).Reachable SharedContents.Serialised state)
    {handle : BufferHandle} {holder : ContentHandle} {id : ObjectId}
    (hholder : state.handles handle = some holder) (hmapped : holder.mapped = some id) :
    (∀ dataSize, holder.pc = .reading dataSize →
      state.readBytes holder dataSize = some (state.objects id).contents) ∧
    (holder.buffer.isOpen = true →
      (∀ pc ∈ state.accesses id, pc.isWriting = false) →
      ∃ dataSize, state.readSize holder = some dataSize ∧
        state.readBytes holder dataSize = some (state.objects id).contents) := by
  have hinv := SharedContents.contentsInv_of_reachable h
  have hcoherent := SharedContents.coherent_of_reachable h
  constructor
  · intro dataSize hpc
    have hwell := hinv.handles handle holder hholder
    rw [SharedContents.HandleWell, hpc] at hwell
    obtain ⟨id', memory, hopened, -⟩ := hwell
    obtain rfl := Option.some.inj (hmapped.symm.trans hopened.mapped)
    have hagrees := hcoherent.agrees handle holder id hholder hmapped
    rw [hpc] at hagrees
    simp only [SharedContents.readBytes, hmapped, Option.bind_some, hopened.bytes,
      Option.map_some]
    exact congrArg some (hagrees memory hopened.bytes)
  · intro hopen hquiet
    obtain ⟨id', memory, hopened⟩ := hinv.opened hholder hopen
    obtain rfl := Option.some.inj (hmapped.symm.trans hopened.mapped)
    refine ⟨memory.dataSize, hopened.readSize.1, ?_⟩
    simp only [SharedContents.readBytes, hmapped, Option.bind_some, hopened.bytes,
      Option.map_some]
    have hsettled := hcoherent.settled id fun other holder' hother hsame =>
      hquiet holder'.pc (hcoherent.mem_accesses hother hsame)
    exact congrArg some (hsettled memory hopened.bytes)

/-- The first process reads what the second one wrote, although the name is gone. -/
theorem read_returns_last_write_exchange :
    ∃ state : SharedContents, ∃ holder : ContentHandle, holder.pc = .reading 2 ∧
      state.readBytes holder 2 = some (state.objects 1).contents ∧
        (state.objects 1).contents = [5, 6] := by
  have hinit : (contentsSystem [47, 120]).init (.initial none) := ⟨none, rfl⟩
  obtain ⟨state, -, hreach, hend⟩ := TransitionSystem.exists_of_run
    (contentsSystem [47, 120]) SharedContents.Serialised exchangeActions
    (fun state => decide (((state.handles 0).map fun holder => (holder.mapped, holder.pc)) =
      some (some 1, .reading 2) ∧ (state.objects 1).contents = [5, 6])) hinit
    (by decide +kernel)
  obtain ⟨hhandle, hcontents⟩ := of_decide_eq_true hend
  obtain ⟨holder, hholder, hpair⟩ := Option.map_eq_some_iff.mp hhandle
  obtain ⟨hmapped, hpc⟩ := Prod.mk.inj hpair
  exact ⟨state, holder, hpc, (read_returns_last_write hreach hholder hmapped).1 2 hpc, hcontents⟩

end EdgeLink
