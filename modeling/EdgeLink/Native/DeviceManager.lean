import Mathlib.Logic.Function.Basic
import EdgeLink.Native.Message

/-! # Device manager

The devices of `device.h` and the registry of `device_manager.cpp`. The unordered maps
are partial functions: nothing depends on their iteration order. A function that stamps
tags takes the reading of `system_clock` that it makes. -/

namespace EdgeLink

/-- The connection state of a device. -/
inductive ConnectionState where
  | disconnected
  | connecting
  | connected
  | timeout
  | error
deriving DecidableEq, Repr

/-- One data point of a device. -/
structure Tag where
  name : Bytes
  value : TagValue
  quality : Quality
  timestamp : Int64
deriving DecidableEq

/-- A tag that has only been given its name. -/
def Tag.named (name : Bytes) : Tag where
  name := name
  value := .monostate
  quality := .disconnected
  timestamp := 0

/-- One industrial device. -/
structure Device where
  id : Bytes
  name : Bytes
  protocol : Bytes
  state : ConnectionState
  tags : Bytes → Option Tag

namespace Device

/-- A device that has only been given its names. -/
def named (id name protocol : Bytes) : Device where
  id := id
  name := name
  protocol := protocol
  state := .disconnected
  tags := fun _ => none

/-- `Device::updateTag`. -/
def updateTag (device : Device) (tag : Tag) (now : Int64) : Device :=
  { device with
    tags := Function.update device.tags tag.name (some { tag with timestamp := now }) }

/-- The loop of `DeviceManager::updateAllTagQualities`. -/
def updateAllTagQualities (device : Device) (quality : Quality) (now : Int64) : Device :=
  { device with
    tags := fun name =>
      (device.tags name).map fun tag => { tag with quality := quality, timestamp := now } }

end Device

/-- The registry: device id to device. -/
structure DeviceManager where
  devices : Bytes → Option Device

namespace DeviceManager

/-- `DeviceManager::findDevice`. -/
def findDevice (manager : DeviceManager) (deviceId : Bytes) : Option Device :=
  manager.devices deviceId

/-- `DeviceManager::hasDevice`. -/
def hasDevice (manager : DeviceManager) (deviceId : Bytes) : Bool :=
  (manager.devices deviceId).isSome

/-- `DeviceManager::addDevice`. -/
def addDevice (manager : DeviceManager) (device : Device) : DeviceManager × Bool :=
  if device.id.isEmpty then (manager, false)
  else if manager.hasDevice device.id then (manager, false)
  else ({ devices := Function.update manager.devices device.id (some device) }, true)

/-- `DeviceManager::removeDevice`. -/
def removeDevice (manager : DeviceManager) (deviceId : Bytes) : DeviceManager × Bool :=
  match manager.findDevice deviceId with
  | none => (manager, false)
  | some _ => ({ devices := Function.update manager.devices deviceId none }, true)

/-- `DeviceManager::updateConnectionState`. -/
def updateConnectionState (manager : DeviceManager) (deviceId : Bytes)
    (state : ConnectionState) : DeviceManager × Bool :=
  match manager.findDevice deviceId with
  | none => (manager, false)
  | some device =>
    ({ devices := Function.update manager.devices deviceId
         (some { device with state := state }) }, true)

/-- `DeviceManager::updateTag`. -/
def updateTag (manager : DeviceManager) (deviceId : Bytes) (tag : Tag) (now : Int64) :
    DeviceManager × Bool :=
  match manager.findDevice deviceId with
  | none => (manager, false)
  | some device =>
    if tag.name.isEmpty then (manager, false)
    else
      ({ devices := Function.update manager.devices deviceId
           (some (device.updateTag tag now)) }, true)

/-- `DeviceManager::updateAllTagQualities`. -/
def updateAllTagQualities (manager : DeviceManager) (deviceId : Bytes)
    (quality : Quality) (now : Int64) : DeviceManager × Bool :=
  match manager.findDevice deviceId with
  | none => (manager, false)
  | some device =>
    ({ devices := Function.update manager.devices deviceId
         (some (device.updateAllTagQualities quality now)) }, true)

/-- `DeviceManager::clear`. -/
def clear (_ : DeviceManager) : DeviceManager where
  devices := fun _ => none

/-- The manager holds the device and records `state` for it. -/
def Records (manager : DeviceManager) (deviceId : Bytes) (state : ConnectionState) : Prop :=
  (manager.findDevice deviceId).map Device.state = some state

instance (manager : DeviceManager) (deviceId : Bytes) (state : ConnectionState) :
    Decidable (manager.Records deviceId state) :=
  inferInstanceAs (Decidable (_ = _))

/-! ## Devices stay registered -/

theorem hasDevice_updateConnectionState {manager : DeviceManager} {deviceId : Bytes}
    (h : manager.hasDevice deviceId = true) (other : Bytes) (state : ConnectionState) :
    (manager.updateConnectionState other state).1.hasDevice deviceId = true := by
  unfold updateConnectionState
  split
  · exact h
  · simp only [hasDevice, Function.update_apply]
    split
    · rfl
    · exact h

theorem hasDevice_addDevice {manager : DeviceManager} {deviceId : Bytes}
    (h : manager.hasDevice deviceId = true) (device : Device) :
    (manager.addDevice device).1.hasDevice deviceId = true := by
  unfold addDevice
  split
  · exact h
  · split
    · exact h
    · simp only [hasDevice, Function.update_apply]
      split
      · rfl
      · exact h

theorem hasDevice_removeDevice {manager : DeviceManager} {deviceId other : Bytes}
    (h : manager.hasDevice deviceId = true) (hne : other ≠ deviceId) :
    (manager.removeDevice other).1.hasDevice deviceId = true := by
  unfold removeDevice
  split
  · exact h
  · simp only [hasDevice, Function.update_apply, if_neg (Ne.symm hne)]
    exact h

/-! ## What each update finds afterwards -/

section

variable {manager : DeviceManager} {deviceId : Bytes} {device : Device}

/-- The state of a registered device is replaced and nothing else of it. -/
theorem updateConnectionState_found (h : manager.findDevice deviceId = some device)
    (state : ConnectionState) :
    (manager.updateConnectionState deviceId state).2 = true ∧
      (manager.updateConnectionState deviceId state).1.findDevice deviceId =
        some { device with state := state } := by
  simp only [updateConnectionState, h]
  simp [findDevice]

/-- A missing device is reported and nothing changes. -/
theorem updateConnectionState_missing (h : manager.findDevice deviceId = none)
    (state : ConnectionState) :
    manager.updateConnectionState deviceId state = (manager, false) := by
  simp only [updateConnectionState, h]

/-- A tag with a name is stored in a registered device. -/
theorem updateTag_found (h : manager.findDevice deviceId = some device) {tag : Tag}
    (hname : tag.name ≠ []) (now : Int64) :
    (manager.updateTag deviceId tag now).2 = true ∧
      (manager.updateTag deviceId tag now).1.findDevice deviceId =
        some (device.updateTag tag now) := by
  have hnonempty : tag.name.isEmpty = false := by simpa using hname
  simp only [updateTag, h, hnonempty]
  simp [findDevice]

/-- All tags of a registered device get the quality. -/
theorem updateAllTagQualities_found (h : manager.findDevice deviceId = some device)
    (quality : Quality) (now : Int64) :
    (manager.updateAllTagQualities deviceId quality now).2 = true ∧
      (manager.updateAllTagQualities deviceId quality now).1.findDevice deviceId =
        some (device.updateAllTagQualities quality now) := by
  simp only [updateAllTagQualities, h]
  simp [findDevice]

end

end DeviceManager

end EdgeLink
