import EdgeLink.ForStd.TransitionSystem
import EdgeLink.Native.DeviceConnectionStateMachine

/-! # What `transitionTo` reports

A `DeviceConnectionStateMachine` shares its `DeviceManager` with other components, which
may add, remove and change devices between any two of its calls.

* `transitionTo_reports_iff`: one call is as documented exactly when it asks for another
  state than the machine's copy, or the manager records that state.
* `transition_result_iff`: the same over every run of machine calls and manager calls.
* `transition_result_of_removed_device`: a run in which a call reports success for a
  device that is gone. -/

namespace EdgeLink

/-- A state machine and the manager it writes to. -/
structure SharedMachine where
  machine : DeviceConnectionStateMachine
  manager : DeviceManager

/-- The calls of the machine's owner and of the other users of the manager. -/
inductive MachineCall where
  | transitionTo (nextState : ConnectionState) (now : Int64)
  | markActivity (now : Int64)
  | checkTimeout (now : Int64)
  | addDevice (device : Device)
  | removeDevice (deviceId : Bytes)
  | updateConnectionState (deviceId : Bytes) (state : ConnectionState)
  | clear

namespace SharedMachine

/-- The state after a call. -/
def perform (σ : SharedMachine) : MachineCall → SharedMachine
  | .transitionTo nextState now =>
    let result := σ.machine.transitionTo σ.manager nextState now
    { machine := result.1, manager := result.2.1 }
  | .markActivity now => { σ with machine := (σ.machine.markActivity now).1 }
  | .checkTimeout now =>
    let result := σ.machine.checkTimeout σ.manager now
    { machine := result.1, manager := result.2.1 }
  | .addDevice device => { σ with manager := (σ.manager.addDevice device).1 }
  | .removeDevice deviceId => { σ with manager := (σ.manager.removeDevice deviceId).1 }
  | .updateConnectionState deviceId state =>
    { σ with manager := (σ.manager.updateConnectionState deviceId state).1 }
  | .clear => { σ with manager := σ.manager.clear }

/-- The machine is created for a registered device. -/
def Initial (σ : SharedMachine) : Prop :=
  ∃ deviceId timeout now,
    DeviceConnectionStateMachine.create σ.manager deviceId timeout now = some σ.machine

end SharedMachine

/-- Every call is possible in every state. -/
def sharedMachineSystem : TransitionSystem SharedMachine MachineCall where
  init := SharedMachine.Initial
  step σ call := some (σ.perform call)

/-- The result of an attempted transition to `nextState` is as documented: success means
    that the manager records the state, failure that nothing has changed. -/
def TransitionReports (σ : SharedMachine) (nextState : ConnectionState)
    (result : DeviceConnectionStateMachine × DeviceManager × Bool) : Prop :=
  (result.2.2 = true → result.2.1.Records σ.machine.deviceId nextState) ∧
    (result.2.2 = false → result.1 = σ.machine ∧ result.2.1 = σ.manager)

/-- The documented result of each call that makes a transition. -/
def CallReports (σ : SharedMachine) : MachineCall → Prop
  | .transitionTo nextState now =>
    TransitionReports σ nextState (σ.machine.transitionTo σ.manager nextState now)
  | .checkTimeout now =>
    TransitionReports σ .timeout (σ.machine.checkTimeout σ.manager now)
  | _ => True

/-- A call that asks for the state of the machine's own copy finds it in the manager. -/
def CallInStep (σ : SharedMachine) : MachineCall → Prop
  | .transitionTo nextState _ =>
    nextState ≠ σ.machine.state ∨ σ.manager.Records σ.machine.deviceId nextState
  | _ => True

/-! ## One call -/

/-- A refusal that left everything as it was is reported as documented. -/
private theorem transitionReports_refused (σ : SharedMachine)
    (nextState : ConnectionState) :
    TransitionReports σ nextState (σ.machine, σ.manager, false) := by
  constructor
  · intro h
    exact nomatch h
  · intro _
    exact ⟨rfl, rfl⟩

/-- A call for another state than the machine's copy reports what it did. -/
theorem transitionTo_reports_of_ne {σ : SharedMachine} {nextState : ConnectionState}
    (hne : nextState ≠ σ.machine.state) (now : Int64) :
    TransitionReports σ nextState (σ.machine.transitionTo σ.manager nextState now) := by
  cases hallowed :
      DeviceConnectionStateMachine.isTransitionAllowed σ.machine.state nextState with
  | false =>
    rw [DeviceConnectionStateMachine.transitionTo_refused hne hallowed]
    exact transitionReports_refused σ nextState
  | true =>
    cases hfind : σ.manager.findDevice σ.machine.deviceId with
    | none =>
      rw [DeviceConnectionStateMachine.transitionTo_missing hne hfind]
      exact transitionReports_refused σ nextState
    | some device =>
      rw [DeviceConnectionStateMachine.transitionTo_made hne hallowed hfind]
      constructor
      · intro _
        have hfound := (DeviceManager.updateConnectionState_found hfind nextState).2
        simp only [DeviceManager.Records, hfound, Option.map_some]
      · intro h
        exact nomatch h

/-- The exit for an unchanged state does not look at the manager, so the report is right
    exactly when the manager happens to agree with the machine's copy. -/
theorem transitionTo_reports_iff (σ : SharedMachine) (nextState : ConnectionState)
    (now : Int64) :
    TransitionReports σ nextState (σ.machine.transitionTo σ.manager nextState now) ↔
      nextState ≠ σ.machine.state ∨
        σ.manager.Records σ.machine.deviceId nextState := by
  by_cases hsame : nextState = σ.machine.state
  · -- the result is true, whatever the manager says
    rw [DeviceConnectionStateMachine.transitionTo_same hsame]
    constructor
    · intro h
      exact .inr (h.1 rfl)
    · intro h
      have hrecords : σ.manager.Records σ.machine.deviceId nextState := by
        cases h with
        | inl hne => exact absurd hsame hne
        | inr hrecords => exact hrecords
      exact ⟨fun _ => hrecords, fun h => nomatch h⟩
  · constructor
    · intro _
      exact .inl hsame
    · intro _
      exact transitionTo_reports_of_ne hsame now

/-- `checkTimeout` only asks for `Timeout` in `Connected`. -/
theorem checkTimeout_reports (σ : SharedMachine) (now : Int64) :
    TransitionReports σ .timeout (σ.machine.checkTimeout σ.manager now) := by
  simp only [DeviceConnectionStateMachine.checkTimeout]
  split
  · exact transitionReports_refused σ .timeout
  · rename_i hconnected
    split
    · exact transitionReports_refused σ .timeout
    · -- the machine is in `Connected`, so the early exit is not the one that is taken
      apply transitionTo_reports_of_ne
      rw [not_not.mp hconnected]
      decide

theorem callReports_iff (σ : SharedMachine) (call : MachineCall) :
    CallReports σ call ↔ CallInStep σ call := by
  cases call with
  | transitionTo nextState now => exact transitionTo_reports_iff σ nextState now
  | checkTimeout now => exact iff_of_true (checkTimeout_reports σ now) trivial
  | markActivity | addDevice | removeDevice | updateConnectionState | clear => exact Iff.rfl

/-! ## Runs -/

/-- In every run, all transitions report what they did if and only if every call for the
    state of the machine's copy finds that state in the manager. -/
theorem transition_result_iff (σ : SharedMachine) (calls : List MachineCall) :
    sharedMachineSystem.EveryStep CallReports σ calls ↔
      sharedMachineSystem.EveryStep CallInStep σ calls :=
  TransitionSystem.everyStep_congr callReports_iff calls σ

/-- The manager of one device in its initial state. -/
def managerOf (deviceId : Bytes) : DeviceManager :=
  (DeviceManager.addDevice { devices := fun _ => none }
    (Device.named deviceId [] [])).1

/-- A machine that was just created for the only device. -/
def newMachine : SharedMachine where
  machine :=
    { deviceId := ascii "d", timeout := 3000, lastActivity := 0, state := .disconnected }
  manager := managerOf (ascii "d")

/-- The device is removed by another component; the call for `Disconnected`, the state
    of the machine's copy, still returns true. -/
theorem transition_result_of_removed_device :
    newMachine.Initial ∧
      ¬ sharedMachineSystem.EveryStep CallReports newMachine
        [.removeDevice (ascii "d"), .transitionTo .disconnected 0] := by
  constructor
  · exact ⟨ascii "d", 3000, 0, by rfl⟩
  · intro h
    have hreports := (h.2 _ rfl).1
    have hrecords := hreports.1 (by decide)
    revert hrecords
    decide

end EdgeLink
