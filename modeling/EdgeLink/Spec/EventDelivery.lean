import EdgeLink.ForStd.History
import EdgeLink.Native.EventLoopRun

/-! # Delivery of events

The events of a batch are told apart by descriptor number only. A callback may remove a
channel, close its descriptor and add another channel under the same number, and then the
event that is still waiting goes to the new channel.

* `lastRegistration`: the last change that some calls make to the registration of a number.
* `channels_performAll`: what `channels_` holds after a callback.
* `event_delivery_iff`: the runs in which every event reaches the channel that was
  registered when `epoll_wait` returned, or none. -/

namespace EdgeLink

variable {Input : Type}

/-- What a call changes about the registration of a number: `some none` takes the channel
    out. -/
def LoopOperation.registers (fd : Int) : LoopOperation → Option (Option ChannelPointer)
  | .addChannel channel true =>
    if channel.fd = fd then some (some (.own channel.address)) else none
  | .removeChannel channel true => if channel.fd = fd then some none else none
  | _ => none

/-- The last change that some calls make to the registration of a number. -/
def lastRegistration (fd : Int) (operations : List LoopOperation) :
    Option (Option ChannelPointer) :=
  operations.reverse.findSome? (LoopOperation.registers fd)

theorem lastRegistration_append (fd : Int) (earlier later : List LoopOperation) :
    lastRegistration fd (earlier ++ later) =
      (lastRegistration fd later).or (lastRegistration fd earlier) := by
  rw [lastRegistration, List.reverse_append, List.findSome?_append]
  rfl

namespace EventLoop

variable {loop : EventLoop Input} {channel : Channel} {result : Bool}

/-- `addChannel` changes the registration exactly when it returns true. -/
theorem channels_addChannel (h : (loop.addChannel channel result).2 = result) (fd : Int) :
    (loop.addChannel channel result).1.channels fd =
      ((LoopOperation.addChannel channel result).registers fd).getD (loop.channels fd) := by
  simp only [addChannel] at h ⊢
  split at h
  · rename_i hgranted
    obtain rfl := h
    rw [if_pos hgranted]
    by_cases heq : channel.fd = fd
    · subst heq
      simp [LoopOperation.registers]
    · simp [LoopOperation.registers, heq, record, Function.update_of_ne (Ne.symm heq)]
  · rename_i hrefused
    obtain rfl := h
    rw [if_neg hrefused]
    rfl

/-- `removeChannel` changes the registration exactly when it returns true. -/
theorem channels_removeChannel (h : (loop.removeChannel channel).2 = result) (fd : Int) :
    (loop.removeChannel channel).1.channels fd =
      ((LoopOperation.removeChannel channel result).registers fd).getD (loop.channels fd) := by
  simp only [removeChannel] at h ⊢
  split at h
  · rename_i hregistered
    obtain rfl := h
    rw [if_pos hregistered]
    by_cases heq : channel.fd = fd
    · subst heq
      simp [LoopOperation.registers]
    · simp [LoopOperation.registers, heq, record, Function.update_of_ne (Ne.symm heq)]
  · rename_i hmissing
    obtain rfl := h
    rw [if_neg hmissing]
    rfl

end EventLoop

/-- An event reached the channel that `before` holds for its descriptor, or none. -/
def Delivery.Right (before : Int → Option ChannelPointer) (delivery : Delivery) : Prop :=
  delivery.channel = none ∨ delivery.channel = before delivery.fd

/-- The last change that the earlier callbacks of a batch have made to the registration of an
    event's descriptor, if any, is a removal, or it adds the channel that `before` holds. -/
def KeepsChannel (before : Int → Option ChannelPointer) (earlier : List BatchEntry)
    (entry : BatchEntry) : Prop :=
  ∀ channel, lastRegistration entry.event.fd (earlier.flatMap BatchEntry.operations) =
    some (some channel) → before entry.event.fd = some channel

/-- What was changed last decides where an event goes. -/
theorem right_iff_keepsChannel (before : Int → Option ChannelPointer)
    (earlier : List BatchEntry) (entry : BatchEntry) :
    Delivery.Right before ⟨entry.event.fd,
        (lastRegistration entry.event.fd (earlier.flatMap BatchEntry.operations)).getD
          (before entry.event.fd)⟩ ↔ KeepsChannel before earlier entry := by
  unfold Delivery.Right KeepsChannel
  cases lastRegistration entry.event.fd (earlier.flatMap BatchEntry.operations) with
  | none => simp
  | some change =>
    cases change with
    | none => simp
    | some channel =>
      simp only [Option.getD_some, reduceCtorEq, false_or, Option.some.injEq]
      constructor
      · rintro heq other rfl
        exact heq.symm
      · intro hkept
        exact (hkept channel rfl).symm

namespace RunningLoop

variable {state state' : RunningLoop Input}

/-- One call changes `channels_` as its registration says. -/
theorem channels_perform {operation : LoopOperation}
    (h : state.perform operation = some state') (fd : Int) :
    state'.loop.channels fd = (operation.registers fd).getD (state.loop.channels fd) := by
  cases operation with
  | opened fd' =>
    obtain ⟨-, heq⟩ := Option.ite_none_right_eq_some.mp h
    obtain rfl := Option.some.inj heq
    rfl
  | closed fd' =>
    obtain ⟨-, heq⟩ := Option.ite_none_right_eq_some.mp h
    obtain rfl := Option.some.inj heq
    rfl
  | addChannel channel result =>
    obtain ⟨-, heq⟩ := Option.ite_none_left_eq_some.mp h
    obtain ⟨hresult, heq⟩ := Option.ite_none_right_eq_some.mp heq
    obtain rfl := Option.some.inj heq
    exact EventLoop.channels_addChannel hresult fd
  | removeChannel channel result =>
    obtain ⟨hresult, heq⟩ := Option.ite_none_right_eq_some.mp h
    obtain rfl := Option.some.inj heq
    exact EventLoop.channels_removeChannel hresult fd
  | stop =>
    obtain rfl := Option.some.inj h
    rfl

/-- So do the calls of a callback, the last one that concerns the number. -/
theorem channels_performAll {operations : List LoopOperation}
    (h : state.performAll operations = some state') (fd : Int) :
    state'.loop.channels fd =
      (lastRegistration fd operations).getD (state.loop.channels fd) := by
  induction operations generalizing state with
  | nil =>
    obtain rfl := Option.some.inj h
    rfl
  | cons operation rest ih =>
    obtain ⟨middle, hfirst, hrest⟩ := Option.bind_eq_some_iff.mp h
    rw [ih hrest, channels_perform hfirst, ← List.singleton_append, lastRegistration_append]
    cases lastRegistration fd rest with
    | none => cases hregisters : operation.registers fd <;> simp [lastRegistration, hregisters]
    | some change => rfl

/-- An event goes to the channel that is registered now, and its callback does the rest. -/
theorem dispatch_spec {entry : BatchEntry} {delivery : Delivery}
    (h : state.dispatch entry = some (state', delivery)) :
    delivery = ⟨entry.event.fd, state.loop.channels entry.event.fd⟩ ∧
      ∀ fd, state'.loop.channels fd =
        (lastRegistration fd entry.operations).getD (state.loop.channels fd) := by
  unfold dispatch at h
  split at h
  · rename_i hnone
    obtain ⟨hnothing, heq⟩ := Option.ite_none_right_eq_some.mp h
    obtain ⟨rfl, rfl⟩ := Prod.mk.inj (Option.some.inj heq)
    rw [hnone, hnothing]
    exact ⟨rfl, fun _ => rfl⟩
  · rename_i channel hchannel
    rw [hchannel]
    split at h
    · -- no callback for these events
      obtain ⟨hnothing, heq⟩ := Option.ite_none_right_eq_some.mp h
      obtain ⟨rfl, rfl⟩ := Prod.mk.inj (Option.some.inj heq)
      rw [hnothing]
      exact ⟨rfl, fun _ => rfl⟩
    · obtain ⟨after, hperform, heq⟩ := Option.map_eq_some_iff.mp h
      obtain ⟨rfl, rfl⟩ := Prod.mk.inj heq
      exact ⟨rfl, channels_performAll hperform⟩

/-! ## Batches -/

/-- Over a batch, with the registrations of before the calls `made`: every event is delivered
    right exactly when its channel was kept. -/
theorem dispatchBatch_right_iff (before : Int → Option ChannelPointer)
    (past batch : List BatchEntry) {deliveries : List Delivery}
    (hpast : ∀ fd, state.loop.channels fd =
      (lastRegistration fd (past.flatMap BatchEntry.operations)).getD (before fd))
    (h : state.dispatchBatch batch = some (state', deliveries)) :
    (∀ delivery ∈ deliveries, delivery.Right before) ↔
      batch.Chronicle fun earlier => KeepsChannel before (past ++ earlier) := by
  induction batch generalizing state past deliveries with
  | nil =>
    obtain ⟨-, rfl⟩ := Prod.mk.inj (Option.some.inj h)
    exact iff_of_true (fun _ hmem => nomatch hmem) List.chronicle_nil
  | cons entry rest ih =>
    obtain ⟨⟨middle, delivery⟩, hfirst, hrest⟩ := Option.bind_eq_some_iff.mp h
    obtain ⟨⟨after, others⟩, hbatch, heq⟩ := Option.map_eq_some_iff.mp hrest
    obtain ⟨rfl, rfl⟩ := Prod.mk.inj heq
    obtain ⟨rfl, hchannels⟩ := dispatch_spec hfirst
    have hmiddle (fd : Int) : middle.loop.channels fd =
        (lastRegistration fd ((past ++ [entry]).flatMap BatchEntry.operations)).getD
          (before fd) := by
      rw [hchannels, hpast, List.flatMap_append, List.flatMap_singleton, lastRegistration_append]
      cases lastRegistration fd entry.operations <;> rfl
    rw [List.forall_mem_cons, List.chronicle_cons, ih (past ++ [entry]) hmiddle hbatch, hpast,
      right_iff_keepsChannel, List.append_nil]
    simp only [List.append_assoc, List.singleton_append]

end RunningLoop

/-! ## Runs -/

/-- The events of a batch reach the channels that are registered before it, or none. -/
def DeliversRight (state : RunningLoop Input) : WaitResult → Prop
  | .ready batch => ∀ state' deliveries,
    state.dispatchBatch batch = some (state', deliveries) →
      ∀ delivery ∈ deliveries, delivery.Right state.loop.channels
  | _ => True

/-- The callbacks of a batch leave no other channel registered for a descriptor whose event
    is still waiting. -/
def KeepsChannels (state : RunningLoop Input) : WaitResult → Prop
  | .ready batch => batch.Chronicle (KeepsChannel state.loop.channels)
  | _ => True

/-- The kernel can give the results of the step. -/
def Possible (state : RunningLoop Input) (result : WaitResult) : Prop :=
  (state.wait result).isSome = true

instance (state : RunningLoop Input) (result : WaitResult) : Decidable (Possible state result) :=
  inferInstanceAs (Decidable (_ = _))

theorem deliversRight_iff (state : RunningLoop Input) {result : WaitResult}
    (h : Possible state result) : DeliversRight state result ↔ KeepsChannels state result := by
  cases result with
  | interrupted | failed => exact Iff.rfl
  | ready batch =>
    have hsome : (state.dispatchBatch batch).isSome = true := by
      simp only [Possible, RunningLoop.wait] at h
      split at h
      · simpa using h
      · exact nomatch h
    obtain ⟨⟨state', deliveries⟩, hbatch⟩ := Option.isSome_iff_exists.mp hsome
    have hiff := RunningLoop.dispatchBatch_right_iff state.loop.channels [] batch
      (fun _ => rfl) hbatch
    constructor
    · intro hright
      exact hiff.mp (hright state' deliveries hbatch)
    · intro hkeeps other others heq
      obtain ⟨rfl, rfl⟩ := Prod.mk.inj (Option.some.inj (hbatch.symm.trans heq))
      exact hiff.mpr hkeeps

/-- In every run of the loop, whatever the callbacks do, all events of all batches reach the
    channel that was registered for their descriptor when `epoll_wait` returned, or none, if
    and only if no callback leaves another channel registered for a descriptor whose event in
    the same batch is still waiting. -/
theorem event_delivery_iff (state : RunningLoop Input) (results : List WaitResult)
    (hpossible : (eventLoopSystem Input).EveryStep Possible state results) :
    (eventLoopSystem Input).EveryStep DeliversRight state results ↔
      (eventLoopSystem Input).EveryStep KeepsChannels state results :=
  TransitionSystem.everyStep_iff_of_invariant (fun _ => True)
    (fun state _ _ hpossible => deliversRight_iff state hpossible)
    (fun _ _ _ _ _ _ _ => trivial) results trivial hpossible

/-- A loop with two timers. -/
def twoTimers : RunningLoop Unit where
  loop :=
    { channels := fun fd =>
        if fd = 5 then some (.own 1) else if fd = 6 then some (.own 2) else none
      interest := fun fd => if fd = 5 ∨ fd = 6 then some EPOLLIN else none
      foreignOpen := fun _ => false
      trace := [.opened 6, .opened 5] }
  running := true

/-- Both timers have expired. The task of the first one removes the second task and adds
    another one, whose timer gets the number 6 again. -/
def replacingBatch : List BatchEntry :=
  [⟨⟨5, EPOLLIN⟩,
     [.removeChannel ⟨2, 6, EPOLLIN⟩ true, .closed 6, .opened 6,
       .addChannel ⟨3, 6, EPOLLIN⟩ true]⟩,
   ⟨⟨6, EPOLLIN⟩, []⟩]

/-- The new timer gets the event of the old one. -/
theorem replaced_timer_event :
    (eventLoopSystem Unit).EveryStep Possible twoTimers [.ready replacingBatch] ∧
      (twoTimers.dispatchBatch replacingBatch).map Prod.snd =
        some [⟨5, some (.own 1)⟩, ⟨6, some (.own 3)⟩] ∧
      twoTimers.loop.channels 6 = some (.own 2) ∧
      ¬ (eventLoopSystem Unit).EveryStep DeliversRight twoTimers [.ready replacingBatch] := by
  have hdeliveries : (twoTimers.dispatchBatch replacingBatch).map Prod.snd =
      some [⟨5, some (.own 1)⟩, ⟨6, some (.own 3)⟩] := by decide
  have hold : twoTimers.loop.channels 6 = some (.own 2) := by decide
  refine ⟨⟨by decide, fun _ _ => trivial⟩, hdeliveries, hold, fun h => ?_⟩
  obtain ⟨⟨state', deliveries⟩, hbatch, rfl⟩ := Option.map_eq_some_iff.mp hdeliveries
  have hright := h.1 state' _ hbatch ⟨6, some (.own 3)⟩ (by simp)
  cases hright with
  | inl hnone => exact nomatch hnone
  | inr hsame =>
    rw [hold] at hsame
    exact nomatch hsame

/-- The same batch where the task only removes the other one. -/
def removingBatch : List BatchEntry :=
  [⟨⟨5, EPOLLIN⟩, [.removeChannel ⟨2, 6, EPOLLIN⟩ true, .closed 6]⟩, ⟨⟨6, EPOLLIN⟩, []⟩]

/-- Without the new task the event of the removed timer reaches nobody. -/
theorem removed_timer_event :
    (eventLoopSystem Unit).EveryStep DeliversRight twoTimers [.ready removingBatch] := by
  have hpossible :
      (eventLoopSystem Unit).EveryStep Possible twoTimers [.ready removingBatch] :=
    ⟨by decide, fun _ _ => trivial⟩
  refine (event_delivery_iff twoTimers _ hpossible).mpr ⟨?_, fun _ _ => trivial⟩
  show removingBatch.Chronicle (KeepsChannel twoTimers.loop.channels)
  rw [removingBatch, List.chronicle_cons, List.chronicle_cons]
  -- the last change is the removal
  refine ⟨?_, ?_, List.chronicle_nil⟩
  · intro channel hlast
    exact nomatch hlast
  · intro channel hlast
    exact nomatch hlast

end EdgeLink
