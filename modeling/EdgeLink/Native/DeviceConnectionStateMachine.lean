import EdgeLink.Native.DeviceManager

/-! # Device connection state machine

`device_connection_state_machine.cpp`: the legal connection transitions of one device
and its communication timeout. The machine keeps a copy of the state and writes every
change through to the `DeviceManager` it shares with other components.

A `steady_clock::time_point` is its count of nanoseconds and a `milliseconds` its count,
both in 64-bit words. A function that may read the clock takes that reading. -/

namespace EdgeLink

/-- The conversion from `milliseconds` to the clock's own duration. -/
def nanosecondsOfMilliseconds (milliseconds : Int64) : Int64 := milliseconds * 1000000

/-- The state machine of the device `deviceId`. -/
structure DeviceConnectionStateMachine where
  deviceId : Bytes
  timeout : Int64
  lastActivity : Int64
  state : ConnectionState
deriving DecidableEq

namespace DeviceConnectionStateMachine

/-- The constructor: `none` where it throws. -/
def create (manager : DeviceManager) (deviceId : Bytes) (timeout : Int64) (now : Int64) :
    Option DeviceConnectionStateMachine :=
  if deviceId.isEmpty ∨ timeout ≤ 0 then none
  else
    (manager.findDevice deviceId).map fun device =>
      { deviceId, timeout, lastActivity := now, state := device.state }

/-- `DeviceConnectionStateMachine::isTransitionAllowed`. -/
def isTransitionAllowed (currentState nextState : ConnectionState) : Bool :=
  match currentState with
  | .disconnected => nextState == .connecting
  | .connecting =>
    nextState == .connected || nextState == .timeout || nextState == .error ||
      nextState == .disconnected
  | .connected => nextState == .timeout || nextState == .error || nextState == .disconnected
  | .timeout | .error => nextState == .connecting || nextState == .disconnected

/-- `DeviceConnectionStateMachine::transitionTo`. -/
def transitionTo (machine : DeviceConnectionStateMachine) (manager : DeviceManager)
    (nextState : ConnectionState) (now : Int64) :
    DeviceConnectionStateMachine × DeviceManager × Bool :=
  if nextState = machine.state then (machine, manager, true)
  else if !isTransitionAllowed machine.state nextState then (machine, manager, false)
  else
    match manager.updateConnectionState machine.deviceId nextState with
    -- the device was removed from the shared manager
    | (manager, false) => (machine, manager, false)
    | (manager, true) =>
      ({ machine with
         state := nextState
         lastActivity := if nextState = .connected then now else machine.lastActivity },
        manager, true)

/-- `DeviceConnectionStateMachine::markActivity`. -/
def markActivity (machine : DeviceConnectionStateMachine) (now : Int64) :
    DeviceConnectionStateMachine × Bool :=
  if machine.state ≠ .connected then (machine, false)
  else ({ machine with lastActivity := now }, true)

/-- `DeviceConnectionStateMachine::checkTimeout`. The transition it makes does not lead
    to `Connected`, so the clock is read once. -/
def checkTimeout (machine : DeviceConnectionStateMachine) (manager : DeviceManager)
    (now : Int64) : DeviceConnectionStateMachine × DeviceManager × Bool :=
  if machine.state ≠ .connected then (machine, manager, false)
  else if now - machine.lastActivity < nanosecondsOfMilliseconds machine.timeout then
    (machine, manager, false)
  else machine.transitionTo manager .timeout now

/-! ## The exits of `transitionTo` -/

section

variable {machine : DeviceConnectionStateMachine} {manager : DeviceManager}
  {nextState : ConnectionState}

/-- The machine is in the state already. -/
theorem transitionTo_same (h : nextState = machine.state) (now : Int64) :
    machine.transitionTo manager nextState now = (machine, manager, true) := by
  simp only [transitionTo, if_pos h]

/-- The edge is forbidden. -/
theorem transitionTo_refused (hne : nextState ≠ machine.state)
    (h : isTransitionAllowed machine.state nextState = false) (now : Int64) :
    machine.transitionTo manager nextState now = (machine, manager, false) := by
  simp [transitionTo, hne, h]

/-- The device is not registered any more. -/
theorem transitionTo_missing (hne : nextState ≠ machine.state)
    (h : manager.findDevice machine.deviceId = none) (now : Int64) :
    machine.transitionTo manager nextState now = (machine, manager, false) := by
  simp [transitionTo, hne, DeviceManager.updateConnectionState_missing h]

/-- The transition is made and written through. -/
theorem transitionTo_made (hne : nextState ≠ machine.state)
    (hallowed : isTransitionAllowed machine.state nextState = true) {device : Device}
    (h : manager.findDevice machine.deviceId = some device) (now : Int64) :
    machine.transitionTo manager nextState now =
      ({ machine with
         state := nextState
         lastActivity := if nextState = .connected then now else machine.lastActivity },
        (manager.updateConnectionState machine.deviceId nextState).1, true) := by
  have hupdate := (DeviceManager.updateConnectionState_found h nextState).1
  simp only [transitionTo, if_neg hne, hallowed]
  generalize manager.updateConnectionState machine.deviceId nextState = result at hupdate
  obtain ⟨manager', updated⟩ := result
  obtain rfl : updated = true := hupdate
  rfl

/-- For a registered device a transition changes nothing, or it is made. -/
theorem transitionTo_cases (h : manager.hasDevice machine.deviceId = true)
    (nextState : ConnectionState) (now : Int64) :
    (∃ result, machine.transitionTo manager nextState now = (machine, manager, result)) ∨
      nextState ≠ machine.state ∧
      machine.transitionTo manager nextState now =
        ({ machine with
           state := nextState
           lastActivity := if nextState = .connected then now else machine.lastActivity },
          (manager.updateConnectionState machine.deviceId nextState).1, true) := by
  obtain ⟨device, hfind⟩ := Option.isSome_iff_exists.mp h
  by_cases hsame : nextState = machine.state
  · exact .inl ⟨true, transitionTo_same hsame now⟩
  · cases hallowed : isTransitionAllowed machine.state nextState with
    | false => exact .inl ⟨false, transitionTo_refused hsame hallowed now⟩
    | true => exact .inr ⟨hsame, transitionTo_made hsame hallowed hfind now⟩

/-- For a registered device `checkTimeout` makes its transition exactly when the device is
    connected and the difference of the readings is not below the timeout. -/
theorem checkTimeout_cases (h : manager.hasDevice machine.deviceId = true) (now : Int64) :
    (machine.checkTimeout manager now = (machine, manager, false) ∧
      ¬ (machine.state = .connected ∧
        nanosecondsOfMilliseconds machine.timeout ≤ now - machine.lastActivity)) ∨
      (machine.checkTimeout manager now =
        ({ machine with state := .timeout },
          (manager.updateConnectionState machine.deviceId .timeout).1, true) ∧
      machine.state = .connected ∧
        nanosecondsOfMilliseconds machine.timeout ≤ now - machine.lastActivity) := by
  unfold checkTimeout
  split
  · rename_i hstate
    exact .inl ⟨rfl, fun h => hstate h.1⟩
  · rename_i hstate
    rw [ne_eq, not_not] at hstate
    split
    · rename_i hless
      exact .inl ⟨rfl, fun h => Int64.not_le.mpr hless h.2⟩
    · rename_i hless
      obtain ⟨device, hfind⟩ := Option.isSome_iff_exists.mp h
      -- the machine is in `Connected`, so the transition is another state and allowed
      have hother : .timeout ≠ machine.state := by rw [hstate]; decide
      have hallowed : isTransitionAllowed machine.state .timeout = true := by rw [hstate]; rfl
      have hmade := transitionTo_made hother hallowed hfind now
      exact .inr ⟨hmade, hstate, Int64.not_lt.mp hless⟩

end

end DeviceConnectionStateMachine

end EdgeLink
