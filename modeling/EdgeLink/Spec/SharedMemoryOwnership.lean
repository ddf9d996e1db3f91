import EdgeLink.Native.SharedMemoryBuffer

/-! # Who owns the name of a shared memory

`ownsName_` is a flag of a handle, and the name is shared. Any handle may unlink the name and
create it again; the handle that created it before keeps its flag, and its destructor unlinks
the new object.

* `OwnersCreated`: whoever has the flag has created the object that the name refers to.
* `ownersCreated_step_iff`: the steps that keep this.
* `name_ownership_iff`: the runs after which every destructor unlinks an object of its own
  handle only. -/

namespace EdgeLink

namespace SharedMemoryBuffer

/-- `create` makes no object, or one of its own. -/
theorem beginCreate_cases (buffer : SharedMemoryBuffer) (handle : BufferHandle) (name : Bytes)
    (capacity : Nat) (shm : Option SharedMemoryObject) (granted : Bool) :
    (∃ buffer', buffer.beginCreate handle name capacity shm granted = (buffer', shm, false) ∧
        buffer'.ownsName = buffer.ownsName) ∨
      ∃ buffer', buffer.beginCreate handle name capacity shm granted =
          (buffer', some ⟨some handle⟩, true) ∧
        buffer'.ownsName = true := by
  simp only [beginCreate]
  split
  · exact .inl ⟨_, rfl, rfl⟩
  · split
    · exact .inl ⟨_, rfl, rfl⟩
    · split
      · exact .inl ⟨_, rfl, rfl⟩
      · split
        · exact .inl ⟨_, rfl, rfl⟩
        · exact .inr ⟨_, rfl, rfl⟩

/-- `remove` is refused, or takes the flag and the name. -/
theorem remove_cases (buffer : SharedMemoryBuffer) (shm : Option SharedMemoryObject)
    (denied : Bool) :
    buffer.remove shm denied = (buffer, shm, false) ∨
      buffer.remove shm denied = ({ buffer with ownsName := false }, none, true) := by
  cases denied with
  | true => exact .inl rfl
  | false => exact .inr rfl

/-- The end of `create` leaves the name and the flag, or takes the name. -/
theorem finishCreate_cases (buffer : SharedMemoryBuffer) (capacity : Nat)
    (shm : Option SharedMemoryObject) (outcome : CreateOutcome) (denied : Bool) :
    (∃ buffer', buffer.finishCreate capacity shm outcome denied = (buffer', shm) ∧
        buffer'.ownsName = buffer.ownsName) ∨
      ∃ buffer', buffer.finishCreate capacity shm outcome denied = (buffer', none) := by
  cases outcome with
  | created => exact .inl ⟨_, rfl, rfl⟩
  | resizeFailed | mapFailed | syncFailed =>
    cases denied with
    | true => exact .inl ⟨_, rfl, rfl⟩
    | false => exact .inr ⟨_, rfl⟩

/-- `open` leaves the flag. -/
theorem ownsName_open (buffer : SharedMemoryBuffer) (name : Bytes)
    (shm : Option SharedMemoryObject) (outcome : OpenOutcome) :
    (buffer.open name shm outcome).1.ownsName = buffer.ownsName := by
  simp only [SharedMemoryBuffer.open]
  split
  · rfl
  · split
    · rfl
    · split
      · rfl
      · split
        · rfl
        · split
          · rfl
          · split <;> rfl

/-- The destructor unlinks the name exactly where the flag is set and the kernel lets it. -/
theorem destroy_ne_iff (buffer : SharedMemoryBuffer) {shm : Option SharedMemoryObject}
    (hshm : shm ≠ none) (denied : Bool) :
    buffer.destroy shm denied ≠ shm ↔ buffer.ownsName = true ∧ denied = false := by
  have howns : buffer.close.ownsName = buffer.ownsName := rfl
  simp only [destroy, howns]
  cases buffer.ownsName with
  | false => simp
  | true =>
    cases denied with
    | true => simp [remove]
    | false => simpa [remove] using hshm.symm

end SharedMemoryBuffer

namespace SharedMemoryState

/-- A destructor that would be called now unlinks an object of its own handle, if any. -/
def UnlinksOwn (state : SharedMemoryState) : Prop :=
  ∀ handle living denied object, state.handles handle = some living →
    state.shm = some object → living.buffer.destroy state.shm denied ≠ state.shm →
      object.creator = some handle

/-- Whoever has the flag has created the object that the name refers to. -/
def OwnersCreated (state : SharedMemoryState) : Prop :=
  ∀ handle living object, state.handles handle = some living →
    living.buffer.ownsName = true → state.shm = some object → object.creator = some handle

variable {name : Bytes} {state state' : SharedMemoryState} {handle : BufferHandle}

theorem unlinksOwn_iff (state : SharedMemoryState) : state.UnlinksOwn ↔ state.OwnersCreated := by
  constructor
  · intro h handle living object hliving howns hobject
    have hne : state.shm ≠ none := by
      rw [hobject]
      exact Option.some_ne_none _
    exact h handle living false object hliving hobject
      ((SharedMemoryBuffer.destroy_ne_iff _ hne false).mpr ⟨howns, rfl⟩)
  · intro h handle living denied object hliving hobject hunlinks
    have hne : state.shm ≠ none := by
      rw [hobject]
      exact Option.some_ne_none _
    have howns := ((SharedMemoryBuffer.destroy_ne_iff _ hne denied).mp hunlinks).1
    exact h handle living object hliving howns hobject

/-- The buffer of an idle handle. -/
theorem handles_of_idle {buffer : SharedMemoryBuffer} (h : state.idle handle = some buffer) :
    state.handles handle = some ⟨buffer, none⟩ := by
  unfold idle at h
  split at h
  · rename_i heq
    rw [heq, Option.some.inj h]
  · exact nomatch h

/-- Without the name nobody can be wrong about it. -/
theorem ownersCreated_put_none (state : SharedMemoryState) (handle : BufferHandle)
    (living : Option LivingHandle) : (state.put handle living none).OwnersCreated := by
  intro _ _ _ _ _ hobject
  exact nomatch hobject

/-- A handle that gets no flag leaves the owners as they are. -/
theorem OwnersCreated.put (h : state.OwnersCreated) {living : Option LivingHandle}
    (hflag : ∀ after, living = some after → after.buffer.ownsName = true →
      ∃ before, state.handles handle = some before ∧ before.buffer.ownsName = true) :
    (state.put handle living state.shm).OwnersCreated := by
  intro other after object hafter howns hobject
  simp only [SharedMemoryState.put, Function.update_apply] at hafter
  split at hafter
  · rename_i heq
    subst heq
    obtain ⟨before, hbefore, hflagged⟩ := hflag after hafter howns
    exact h other before object hbefore hflagged hobject
  · exact h other after object hafter howns hobject

/-- A handle whose flag stays as it was. -/
theorem OwnersCreated.keep (h : state.OwnersCreated) {before after : LivingHandle}
    (hbefore : state.handles handle = some before)
    (howns : after.buffer.ownsName = before.buffer.ownsName) :
    (state.put handle (some after) state.shm).OwnersCreated := by
  apply h.put
  rintro _ ⟨rfl⟩ hflag
  exact ⟨before, hbefore, howns ▸ hflag⟩

/-- A new object belongs to all owners exactly when its handle is the only one. -/
theorem ownersCreated_create_iff {living : LivingHandle} :
    (state.put handle (some living) (some ⟨some handle⟩)).OwnersCreated ↔
      ∀ other, other ≠ handle → ∀ before, state.handles other = some before →
        before.buffer.ownsName = false := by
  constructor
  · intro h other hne before hbefore
    by_contra howns
    have hother : (state.put handle (some living) (some ⟨some handle⟩)).handles other =
        some before := by
      rw [← hbefore]
      exact Function.update_of_ne hne _ _
    have heq := h other before _ hother (by simpa using howns) rfl
    exact hne (Option.some.inj heq).symm
  · intro h other after object hafter howns hobject
    obtain rfl := Option.some.inj hobject
    by_contra hne
    have hne : other ≠ handle := fun heq => hne (heq ▸ rfl)
    have hbefore : state.handles other = some after := by
      rw [← hafter]
      exact (Function.update_of_ne hne _ _).symm
    rw [h other hne after hbefore] at howns
    exact nomatch howns

end SharedMemoryState

open SharedMemoryState

/-- A `create` that makes an object is only called while no other living handle has the
    flag. -/
def CreatesAlone (name : Bytes) (state : SharedMemoryState) : SharedMemoryAction → Prop
  | .create handle capacity granted => ∀ buffer, state.idle handle = some buffer →
    (buffer.beginCreate handle name capacity state.shm granted).2.2 = true →
      ∀ other, other ≠ handle → ∀ living, state.handles other = some living →
        living.buffer.ownsName = false
  | _ => True

/-- After the action no destructor unlinks an object of another handle. -/
def LeavesOwn (name : Bytes) (state : SharedMemoryState) (action : SharedMemoryAction) : Prop :=
  ∀ state', state.step name action = some state' → state'.UnlinksOwn

/-- Every action but `create` leaves the owners right. -/
theorem ownersCreated_step {name : Bytes} {state state' : SharedMemoryState}
    {action : SharedMemoryAction} (h : state.OwnersCreated)
    (hcreate : ∀ handle capacity granted, action ≠ .create handle capacity granted)
    (hstep : state.step name action = some state') : state'.OwnersCreated := by
  cases action with
  | construct =>
    obtain rfl := Option.some.inj hstep
    have hput : (state.put state.nextHandle (some ⟨{}, none⟩) state.shm).OwnersCreated := by
      apply h.put
      rintro _ ⟨rfl⟩ hflag
      exact nomatch hflag
    exact hput
  | create handle capacity granted => exact absurd rfl (hcreate handle capacity granted)
  | finishCreate handle outcome denied =>
    simp only [SharedMemoryState.step] at hstep
    split at hstep
    · rename_i buffer capacity hliving
      obtain rfl := Option.some.inj hstep
      rcases buffer.finishCreate_cases capacity state.shm outcome denied with
        ⟨buffer', heq, howns⟩ | ⟨buffer', heq⟩
      · rw [heq]
        exact h.keep hliving howns
      · rw [heq]
        exact ownersCreated_put_none state handle _
    · exact nomatch hstep
  | «open» handle outcome =>
    obtain ⟨buffer, hidle, rfl⟩ := Option.map_eq_some_iff.mp hstep
    exact h.keep (handles_of_idle hidle) (buffer.ownsName_open name state.shm outcome)
  | close handle =>
    obtain ⟨buffer, hidle, rfl⟩ := Option.map_eq_some_iff.mp hstep
    exact h.keep (handles_of_idle hidle) rfl
  | remove handle denied =>
    obtain ⟨buffer, hidle, rfl⟩ := Option.map_eq_some_iff.mp hstep
    rcases buffer.remove_cases state.shm denied with heq | heq
    · rw [heq]
      exact h.keep (handles_of_idle hidle) rfl
    · rw [heq]
      exact ownersCreated_put_none state handle _
  | destroy handle denied =>
    obtain ⟨buffer, hidle, rfl⟩ := Option.map_eq_some_iff.mp hstep
    have hgone : (state.put handle none state.shm).OwnersCreated :=
      h.put fun _ hliving => nomatch hliving
    simp only [SharedMemoryBuffer.destroy]
    split
    · rcases buffer.close.remove_cases state.shm denied with heq | heq
      · rw [heq]
        exact hgone
      · rw [heq]
        exact ownersCreated_put_none state handle _
    · exact hgone
  | crash handle =>
    obtain ⟨living, hliving, rfl⟩ := Option.map_eq_some_iff.mp hstep
    exact h.put fun _ hliving => nomatch hliving

/-- A `create` leaves them right exactly where it is alone. -/
theorem ownersCreated_create {name : Bytes} {state : SharedMemoryState} (h : state.OwnersCreated)
    (handle : BufferHandle) (capacity : Nat) (granted : Bool) :
    (∀ state', state.step name (.create handle capacity granted) = some state' →
        state'.OwnersCreated) ↔
      CreatesAlone name state (.create handle capacity granted) := by
  cases hidle : state.idle handle with
  | none =>
    apply iff_of_true
    · intro state' hstep
      simp [SharedMemoryState.step, hidle] at hstep
    · intro buffer hbuffer
      rw [hidle] at hbuffer
      exact nomatch hbuffer
  | some buffer =>
    have hcondition : CreatesAlone name state (.create handle capacity granted) ↔
        ((buffer.beginCreate handle name capacity state.shm granted).2.2 = true →
          ∀ other, other ≠ handle → ∀ living, state.handles other = some living →
            living.buffer.ownsName = false) := by
      simp [CreatesAlone, hidle]
    rcases buffer.beginCreate_cases handle name capacity state.shm granted with
      ⟨buffer', heq, howns⟩ | ⟨buffer', heq, -⟩
    · rw [hcondition, heq]
      apply iff_of_true
      · intro state' hstep
        simp only [SharedMemoryState.step, hidle, heq, Option.map_some, Option.some.injEq] at hstep
        subst hstep
        exact h.keep (handles_of_idle hidle) howns
      · intro hopened
        exact nomatch hopened
    · -- the name refers to the new object
      rw [hcondition, heq]
      simp only [SharedMemoryState.step, hidle, heq, Option.map_some, Option.some.injEq,
        forall_eq', ownersCreated_create_iff, true_imp_iff]

/-- What keeps the destructors right. -/
theorem leavesOwn_iff (name : Bytes) {state : SharedMemoryState} (h : state.OwnersCreated)
    (action : SharedMemoryAction) :
    LeavesOwn name state action ↔ CreatesAlone name state action := by
  unfold LeavesOwn
  simp only [unlinksOwn_iff]
  cases action with
  | create handle capacity granted => exact ownersCreated_create h handle capacity granted
  | construct | finishCreate | «open» | close | remove | destroy | crash =>
    apply iff_of_true _ trivial
    intro state' hstep
    apply ownersCreated_step h _ hstep
    intro _ _ _ heq
    cases heq

/-- At the start there is no handle. -/
theorem ownersCreated_initial (leftover : Bool) : (initial leftover).OwnersCreated := by
  intro handle living object hliving
  exact nomatch hliving

/-- In every run of handles on a name, whether or not the name is there at the start: in no
    state reached would a destructor unlink an object that another handle has created, if
    and only if every `create` that makes an object is called while no other living handle
    has `ownsName_`. -/
theorem name_ownership_iff (name : Bytes) (leftover : Bool) (actions : List SharedMemoryAction) :
    (sharedMemorySystem name).EveryStep (LeavesOwn name) (initial leftover) actions ↔
      (sharedMemorySystem name).EveryStep (CreatesAlone name) (initial leftover) actions :=
  TransitionSystem.everyStep_iff_of_invariant OwnersCreated
    (fun _ action h _ => leavesOwn_iff name h action)
    (fun _ _ state' _ _ hleaves hstep => (unlinksOwn_iff state').mp (hleaves state' hstep))
    actions (ownersCreated_initial leftover)
    (TransitionSystem.everyStep_of_forall (fun _ _ => trivial) actions _ :
      (sharedMemorySystem name).EveryStep TransitionSystem.anyStep _ actions)

/-- Two handles: the second one removes the name of the first and creates it again. -/
def takeoverActions : List SharedMemoryAction :=
  [.construct, .create 0 64 true, .finishCreate 0 .created false,
    .construct, .remove 1 false, .create 1 64 true, .finishCreate 1 .created false]

/-- The destructor of the first handle unlinks the object of the second one. -/
theorem destructor_unlinks_foreign :
    ∃ before after,
      (sharedMemorySystem (ascii "/a")).run TransitionSystem.anyStep (initial false)
        takeoverActions = some before ∧
      (sharedMemorySystem (ascii "/a")).step before (.destroy 0 false) = some after ∧
      before.shm = some ⟨some 1⟩ ∧ after.shm = none ∧ ¬ before.UnlinksOwn := by
  refine ⟨_, _, rfl, rfl, rfl, rfl, fun h => ?_⟩
  have hcreator := h 0 _ false ⟨some 1⟩ rfl rfl (by decide)
  exact nomatch hcreator

end EdgeLink
