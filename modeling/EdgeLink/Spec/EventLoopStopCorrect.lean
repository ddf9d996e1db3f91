import EdgeLink.Native.EventLoopStop

/-! # A stop is not lost

`stop` stores to `running_` first and writes to the eventfd after it, and the loop tests
`running_` each time after it has come out of `epoll_wait`. So a loop that was told to stop
while it ran does not block any more, and leaves after a bounded number of steps.

## Key results

* `awakened_of_step`: a loop that waits although it was stopped has something to read, or a
  `stop` that is about to write.
* `remaining_step`: each step of the stopped loop brings it nearer to its end.
* `stop_ends_run`: both, over every run that goes on from a stop. -/

namespace EdgeLink

namespace StoppableLoop

variable {loop : StoppableLoop}

/-- A loop that waits after a stop is going to be woken, or can wake up at once. -/
def Awakened (loop : StoppableLoop) : Prop :=
  loop.pc = .waiting → loop.running = false → 0 < loop.stopping ∨ loop.wakeup.readable = true

@[simp] theorem running_writeWakeup (loop : StoppableLoop) :
    loop.writeWakeup.running = loop.running := rfl

@[simp] theorem pc_writeWakeup (loop : StoppableLoop) : loop.writeWakeup.pc = loop.pc := rfl

@[simp] theorem stopping_writeWakeup (loop : StoppableLoop) :
    loop.writeWakeup.stopping = loop.stopping := rfl

/-- A write leaves something to read. -/
theorem readable_writeWakeup (loop : StoppableLoop) :
    loop.writeWakeup.wakeup.readable = true :=
  (EventFd.readable_iff _).mpr (EventFd.readable_write _ Nat.one_pos (by decide))

@[simp] theorem running_handleEvent (loop : StoppableLoop) (event : LoopEvent) :
    (loop.handleEvent event).running = loop.running := by
  cases event with
  | wakeup =>
    simp only [handleEvent, readWakeup]
    split <;> rfl
  | other => rfl

/-- No step leaves the loop asleep over a stop. -/
theorem awakened_of_step {action : LoopAction} {after : StoppableLoop}
    (hstep : loop.step action = some after) : after.Awakened := by
  cases action with
  | run =>
    simp only [StoppableLoop.step, Option.ite_none_right_eq_some] at hstep
    obtain ⟨-, heq⟩ := hstep
    obtain rfl := Option.some.inj heq
    exact nofun
  | test =>
    simp only [StoppableLoop.step, Option.ite_none_right_eq_some] at hstep
    obtain ⟨-, heq⟩ := hstep
    split at heq
    · rename_i hrunning
      obtain rfl := Option.some.inj heq
      -- the loop was still running when it looked
      intro _ hstopped
      exact absurd hrunning (by simp_all)
    · obtain rfl := Option.some.inj heq
      exact nofun
  | interrupted =>
    simp only [StoppableLoop.step, Option.ite_none_right_eq_some] at hstep
    obtain ⟨-, heq⟩ := hstep
    obtain rfl := Option.some.inj heq
    exact nofun
  | failed =>
    simp only [StoppableLoop.step, Option.ite_none_right_eq_some] at hstep
    obtain ⟨-, heq⟩ := hstep
    obtain rfl := Option.some.inj heq
    exact nofun
  | ready events =>
    simp only [StoppableLoop.step, Option.ite_none_right_eq_some] at hstep
    obtain ⟨-, heq⟩ := hstep
    obtain rfl := Option.some.inj heq
    exact nofun
  | dispatch =>
    simp only [StoppableLoop.step] at hstep
    split at hstep
    · obtain rfl := Option.some.inj hstep
      exact nofun
    · obtain rfl := Option.some.inj hstep
      exact nofun
    · exact nomatch hstep
  | stop =>
    obtain rfl := Option.some.inj hstep
    exact fun _ _ => .inl (Nat.succ_pos _)
  | stopWakeup =>
    simp only [StoppableLoop.step, Option.ite_none_left_eq_some] at hstep
    obtain ⟨-, heq⟩ := hstep
    obtain rfl := Option.some.inj heq
    exact fun _ _ => .inr loop.readable_writeWakeup
  | wakeup =>
    obtain rfl := Option.some.inj hstep
    exact fun _ _ => .inr loop.readable_writeWakeup

/-- A loop that was stopped does not sleep while there is nobody about to wake it. -/
theorem awakened_of_reachable
    (h : stoppableLoopSystem.Reachable TransitionSystem.anyStep loop) : loop.Awakened := by
  refine h.invariant Awakened ?_ fun _ _ _ _ _ _ hstep => awakened_of_step hstep
  intro loop hinit
  obtain rfl : loop = {} := hinit
  exact nofun

/-! ## The way out -/

/-- The steps that a stopped loop takes at most until it is outside. -/
def remaining (loop : StoppableLoop) : Nat :=
  match loop.pc with
  | .outside => 0
  | .testing => 1
  | .dispatching events => events.length + 2
  | .waiting => maxEvents + 3

/-- A batch that is being dispatched has no more events than there is room for. -/
theorem remaining_le (h : stoppableLoopSystem.Reachable TransitionSystem.anyStep loop) :
    loop.remaining ≤ maxEvents + 3 := by
  refine h.invariant (fun loop => loop.remaining ≤ maxEvents + 3) ?_ ?_
  · intro loop hinit
    obtain rfl : loop = {} := hinit
    exact Nat.zero_le _
  · intro loop action after _ hle _ hstep
    cases action with
    | ready events =>
      simp only [stoppableLoopSystem, StoppableLoop.step,
        Option.ite_none_right_eq_some] at hstep
      obtain ⟨⟨-, -, hlength, -⟩, heq⟩ := hstep
      obtain rfl := Option.some.inj heq
      simp only [remaining]
      omega
    | dispatch =>
      simp only [stoppableLoopSystem, StoppableLoop.step] at hstep
      split at hstep
      · obtain rfl := Option.some.inj hstep
        simp [remaining]
      · rename_i event rest hpc
        obtain rfl := Option.some.inj hstep
        simp only [remaining, hpc, List.length_cons] at hle
        simp only [remaining]
        omega
      · exact nomatch hstep
    | test =>
      simp only [stoppableLoopSystem, StoppableLoop.step,
        Option.ite_none_right_eq_some] at hstep
      obtain ⟨-, heq⟩ := hstep
      split at heq <;> obtain rfl := Option.some.inj heq <;> simp [remaining]
    | run | interrupted | failed =>
      simp only [stoppableLoopSystem, StoppableLoop.step,
        Option.ite_none_right_eq_some] at hstep
      obtain ⟨-, heq⟩ := hstep
      obtain rfl := Option.some.inj heq
      simp [remaining]
    | stopWakeup =>
      simp only [stoppableLoopSystem, StoppableLoop.step,
        Option.ite_none_left_eq_some] at hstep
      obtain ⟨-, heq⟩ := hstep
      obtain rfl := Option.some.inj heq
      exact hle
    | stop | wakeup =>
      obtain rfl := Option.some.inj hstep
      exact hle

/-- A step of the thread that runs the loop. -/
def isOwnStep : LoopAction → Bool
  | .run | .test | .interrupted | .failed | .ready _ | .dispatch => true
  | .stop | .stopWakeup | .wakeup => false

/-- A stopped loop stays stopped, and each step of its thread brings it nearer to its end. -/
theorem remaining_step (hstopped : loop.running = false) {action : LoopAction}
    (hrun : action ≠ .run) {after : StoppableLoop} (hstep : loop.step action = some after) :
    after.running = false ∧
      (isOwnStep action).toNat + after.remaining ≤ loop.remaining := by
  cases action with
  | run => exact absurd rfl hrun
  | test =>
    simp only [StoppableLoop.step, Option.ite_none_right_eq_some] at hstep
    obtain ⟨hpc, heq⟩ := hstep
    rw [if_neg (by simp [hstopped])] at heq
    obtain rfl := Option.some.inj heq
    exact ⟨rfl, by simp [remaining, hpc, isOwnStep]⟩
  | interrupted =>
    simp only [StoppableLoop.step, Option.ite_none_right_eq_some] at hstep
    obtain ⟨hpc, heq⟩ := hstep
    obtain rfl := Option.some.inj heq
    exact ⟨hstopped, by simp [remaining, hpc, isOwnStep]⟩
  | failed =>
    simp only [StoppableLoop.step, Option.ite_none_right_eq_some] at hstep
    obtain ⟨hpc, heq⟩ := hstep
    obtain rfl := Option.some.inj heq
    exact ⟨rfl, by simp [remaining, hpc, isOwnStep]⟩
  | ready events =>
    simp only [StoppableLoop.step, Option.ite_none_right_eq_some] at hstep
    obtain ⟨⟨hpc, -, hlength, -⟩, heq⟩ := hstep
    obtain rfl := Option.some.inj heq
    refine ⟨hstopped, ?_⟩
    simp only [remaining, hpc, isOwnStep, Bool.toNat_true]
    omega
  | dispatch =>
    simp only [StoppableLoop.step] at hstep
    split at hstep
    · rename_i hpc
      obtain rfl := Option.some.inj hstep
      exact ⟨hstopped, by simp [remaining, hpc, isOwnStep]⟩
    · rename_i event rest hpc
      obtain rfl := Option.some.inj hstep
      refine ⟨by simp [hstopped], ?_⟩
      simp only [remaining, hpc, isOwnStep, Bool.toNat_true, List.length_cons]
      omega
    · cases hstep
  | stop =>
    obtain rfl := Option.some.inj hstep
    exact ⟨rfl, by simp [remaining, isOwnStep]⟩
  | stopWakeup =>
    simp only [StoppableLoop.step, Option.ite_none_left_eq_some] at hstep
    obtain ⟨-, heq⟩ := hstep
    obtain rfl := Option.some.inj heq
    exact ⟨hstopped, by simp [remaining, isOwnStep]⟩
  | wakeup =>
    obtain rfl := Option.some.inj hstep
    exact ⟨hstopped, by simp [remaining, isOwnStep]⟩

/-- A stopped loop that nobody is about to wake can take a step without any other
    descriptor's help. -/
theorem exists_own_step (hawake : loop.Awakened) (hstopped : loop.running = false)
    (hpc : loop.pc ≠ .outside) (hstopping : loop.stopping = 0) :
    ∃ action ∈ [LoopAction.test, .ready [.wakeup], .dispatch],
      (loop.step action).isSome := by
  cases hat : loop.pc with
  | outside => exact absurd hat hpc
  | testing =>
    refine ⟨.test, by simp, ?_⟩
    simp [StoppableLoop.step, hat, hstopped]
  | waiting =>
    have hreadable : loop.wakeup.readable = true := by
      obtain hpending | hreadable := hawake hat hstopped
      · omega
      · exact hreadable
    have hreturn : loop.CanReturn [.wakeup] := ⟨by simp, by decide, fun _ => hreadable⟩
    refine ⟨.ready [.wakeup], by simp, ?_⟩
    simp [StoppableLoop.step, hat, hreturn]
  | dispatching events =>
    refine ⟨.dispatch, by simp, ?_⟩
    cases events <;> simp [StoppableLoop.step, hat]

/-- The run that goes on from a stopped loop. -/
theorem run_of_stopped {actions : List LoopAction} (hstopped : loop.running = false)
    {after : StoppableLoop}
    (hrun : stoppableLoopSystem.run (fun _ action => action ≠ .run) loop actions = some after) :
    after.running = false ∧ actions.countP isOwnStep + after.remaining ≤ loop.remaining := by
  induction actions generalizing loop with
  | nil =>
    obtain rfl := Option.some.inj hrun
    exact ⟨hstopped, by simp⟩
  | cons action rest ih =>
    simp only [TransitionSystem.run, Option.ite_none_right_eq_some] at hrun
    obtain ⟨hne, hrest⟩ := hrun
    cases hstep : stoppableLoopSystem.step loop action with
    | none =>
      rw [hstep] at hrest
      cases hrest
    | some next =>
      rw [hstep] at hrest
      obtain ⟨hnext, hless⟩ := remaining_step hstopped hne hstep
      obtain ⟨hafter, hcount⟩ := ih hnext hrest
      refine ⟨hafter, ?_⟩
      rw [List.countP_cons]
      cases hown : isOwnStep action with
      | false =>
        rw [hown] at hless
        simp only [Bool.toNat_false] at hless
        simp only [Bool.false_eq_true, if_false]
        omega
      | true =>
        rw [hown] at hless
        simp only [Bool.toNat_true] at hless
        simp only [if_true]
        omega

end StoppableLoop

/-- Once `running_` is false while `run` is executing, whoever else stops the loop or wakes it
    up in whatever order: the thread of the loop takes at most 35 more steps, `running_` stays
    false until then, and as long as it has not left `run` it can go on by itself unless a
    `stop` is between its store and its write. -/
theorem stop_ends_run {loop after : StoppableLoop} {actions : List LoopAction}
    (hreach : stoppableLoopSystem.Reachable TransitionSystem.anyStep loop)
    (hstopped : loop.running = false)
    (hrun : stoppableLoopSystem.run (fun _ action => action ≠ .run) loop actions = some after) :
    after.running = false ∧ actions.countP StoppableLoop.isOwnStep ≤ 35 ∧
      (after.pc ≠ .outside → after.stopping = 0 →
        ∃ action ∈ [LoopAction.test, .ready [.wakeup], .dispatch],
          (after.step action).isSome) := by
  obtain ⟨hafter, hcount⟩ := StoppableLoop.run_of_stopped hstopped hrun
  refine ⟨hafter, ?_, ?_⟩
  · have hle := StoppableLoop.remaining_le hreach
    rw [maxEvents] at hle
    omega
  · intro hpc hstopping
    have hreach' : stoppableLoopSystem.Reachable TransitionSystem.anyStep after :=
      TransitionSystem.run_reachable actions hreach
        (TransitionSystem.run_of_imp (fun _ _ _ => trivial) actions hrun)
    exact StoppableLoop.exists_own_step (StoppableLoop.awakened_of_reachable hreach') hafter hpc
      hstopping

/-- A callback stops the loop while another descriptor is ready. -/
theorem stop_ends_run_sample :
    ∃ after : StoppableLoop, after.running = false ∧
      (after.pc ≠ .outside → after.stopping = 0 →
        ∃ action ∈ [LoopAction.test, .ready [.wakeup], .dispatch],
          (after.step action).isSome) := by
  have hinit : stoppableLoopSystem.init {} := rfl
  obtain ⟨loop, -, hreach, hstopped⟩ := TransitionSystem.exists_of_run stoppableLoopSystem
    TransitionSystem.anyStep [.run, .test, .ready [.other], .stop]
    (fun loop => decide (loop = { running := false, pc := .dispatching [.other], stopping := 1 }))
    hinit (by decide +kernel)
  obtain rfl := of_decide_eq_true hstopped
  let after : StoppableLoop := { wakeup := ⟨1, by decide⟩, pc := .dispatching [] }
  have hrun : stoppableLoopSystem.run (fun _ action => action ≠ .run)
      { running := false, pc := .dispatching [.other], stopping := 1 }
      [.stopWakeup, .dispatch] = some after := by
    decide +kernel
  have hresult := stop_ends_run hreach rfl hrun
  exact ⟨after, hresult.1, hresult.2.2⟩

end EdgeLink
