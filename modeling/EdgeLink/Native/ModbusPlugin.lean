import EdgeLink.ForStd.TransitionSystem
import EdgeLink.Native.ReconnectBackoff

/-! # Modbus plugin

`modbus_plugin.cpp`: the configuration check, the decoding of registers, and the
connection and polling of one Modbus TCP device.

A `ModbusPlugin` is a plugin whose `initialize` has succeeded, so `context_`,
`stateMachine_` and `reconnectBackoff_` are set and the null checks of the source do not
apply. Everything that comes from outside (libmodbus, the two clocks) is an answer of a
`ModbusEnvironment`, numbered by `tick`. Doubles are bit patterns. -/

namespace EdgeLink

/-! ## Configuration -/

/-- How the registers of a tag are read. -/
inductive ModbusDataType where
  | uint16
  | int16
  | uint32
  | int32
  | float32
deriving DecidableEq, Repr

/-- `registerCount`. -/
def registerCount : ModbusDataType → Int32
  | .uint16 | .int16 => 1
  | .uint32 | .int32 | .float32 => 2

/-- One tag and the holding registers it is read from. -/
structure ModbusTagConfig where
  name : Bytes := ascii "holding-register-0"
  registerAddress : Int32 := 0
  dataType : ModbusDataType := .uint16
  scale : UInt64 := 0x3FF0000000000000
  offset : UInt64 := 0
deriving DecidableEq

/-- Connection and polling parameters. -/
structure ModbusTcpConfig where
  host : Bytes := ascii "127.0.0.1"
  port : Int32 := 1502
  slaveId : Int32 := 1
  communicationTimeoutMs : Int32 := 3000
  reconnectInitialDelayMs : Int32 := 500
  reconnectMaximumDelayMs : Int32 := 30000
  deviceId : Bytes := ascii "modbus-device-01"
  deviceName : Bytes := ascii "Modbus TCP Device"
  tags : List ModbusTagConfig := [{}]
deriving DecidableEq

/-- `std::isfinite` of a double: the exponent is not all ones. -/
def isFinite (bits : UInt64) : Bool := (bits >>> 52) &&& 0x7FF != 0x7FF

/-- The loop of `validateConfig`; `tagNames` holds the names seen so far. -/
def validateTags (tagNames : List Bytes) : List ModbusTagConfig → Bool
  | [] => true
  | tag :: tags =>
    let count := registerCount tag.dataType
    if tag.name.isEmpty ∨ tag.name ∈ tagNames ∨ count = 0 ∨
        tag.registerAddress < 0 ∨ tag.registerAddress > 65535 - (count - 1) ∨
        !isFinite tag.scale ∨ !isFinite tag.offset then
      false
    else validateTags (tag.name :: tagNames) tags

/-- `validateConfig`. -/
def validateConfig (config : ModbusTcpConfig) : Bool :=
  if config.host.isEmpty ∨ config.port ≤ 0 ∨ config.port > 65535 ∨
      config.slaveId ≤ 0 ∨ config.slaveId > 247 ∨
      config.communicationTimeoutMs ≤ 0 ∨
      config.reconnectInitialDelayMs ≤ 0 ∨
      config.reconnectMaximumDelayMs < config.reconnectInitialDelayMs ∨
      config.deviceId.isEmpty ∨ config.tags.isEmpty then
    false
  else validateTags [] config.tags

example : validateConfig {} = true := by decide

/-! ## Decoding -/

/-- The double arithmetic that `decodeValue` uses. -/
structure DoubleArithmetic where
  ofInt : Int → UInt64
  ofFloat : UInt32 → UInt64
  multiply : UInt64 → UInt64 → UInt64
  add : UInt64 → UInt64 → UInt64

/-- The 32-bit word of two registers, the high one first. -/
def combineRegisters (registers : UInt16 × UInt16) : UInt32 :=
  (registers.1.toUInt32 <<< 16) ||| registers.2.toUInt32

/-- The `rawValue` of `decodeValue`. -/
def decodeRawValue (arithmetic : DoubleArithmetic) (registers : UInt16 × UInt16) :
    ModbusDataType → UInt64
  | .uint16 => arithmetic.ofInt registers.1.toNat
  | .int16 => arithmetic.ofInt registers.1.toInt16.toInt
  | .uint32 => arithmetic.ofInt (combineRegisters registers).toNat
  | .int32 => arithmetic.ofInt (combineRegisters registers).toInt32.toInt
  | .float32 => arithmetic.ofFloat (combineRegisters registers)

/-- `decodeValue`. -/
def decodeValue (arithmetic : DoubleArithmetic) (registers : UInt16 × UInt16)
    (config : ModbusTagConfig) : Option UInt64 :=
  let rawValue := decodeRawValue arithmetic registers config.dataType
  let engineeringValue :=
    arithmetic.add (arithmetic.multiply rawValue config.scale) config.offset
  if !isFinite rawValue ∨ !isFinite engineeringValue then none
  else some engineeringValue

/-! ## The plugin -/

/-- What `modbus_read_registers` returns, and the register array after the call. -/
structure RegisterAnswer where
  count : Int32
  registers : UInt16 × UInt16
deriving DecidableEq

/-- The answers of libmodbus and of the clocks, by the number of the interaction. -/
structure ModbusEnvironment where
  newTcp : Nat → Bool
  setSlave : Nat → Int32
  connect : Nat → Int32
  readRegisters : Nat → RegisterAnswer
  steadyNow : Nat → Int64
  systemNow : Nat → Int64

/-- One register read of a polling pass. -/
structure RegisterRead where
  tagConfig : ModbusTagConfig
  answer : RegisterAnswer
deriving DecidableEq

/-- What the plugin did that a later call depends on. -/
inductive ModbusEvent where
  | connectCalled (accepted : Bool)
  | failureRecorded (time : Int64)
  | polled (reads : List RegisterRead)
deriving DecidableEq

/-- The reads of the most recent polling pass of a trace. -/
def latestPass : List ModbusEvent → List RegisterRead
  | [] => []
  | .polled reads :: _ => reads
  | _ :: earlier => latestPass earlier

/-- The times of the failures recorded since the last successful connect, newest first. -/
def failuresSinceConnect : List ModbusEvent → List Int64
  | [] => []
  | .connectCalled true :: _ => []
  | .failureRecorded time :: earlier => time :: failuresSinceConnect earlier
  | _ :: earlier => failuresSinceConnect earlier

/-- An initialized plugin. `tick` and `trace` record the run: the interactions so far and
    the events, newest first. -/
structure ModbusPlugin where
  config : ModbusTcpConfig
  deviceManager : DeviceManager
  stateMachine : DeviceConnectionStateMachine
  reconnectBackoff : ReconnectBackoff
  connected : Bool
  tick : Nat
  trace : List ModbusEvent

namespace ModbusPlugin

variable (env : ModbusEnvironment)

/-- The end of `initialize`: the device is registered if it is not, and the helpers are
    created for it. -/
def createHelpers (config : ModbusTcpConfig) (deviceManager : DeviceManager) (tick : Nat) :
    Option ModbusPlugin :=
  let (deviceManager, registered) :=
    if deviceManager.hasDevice config.deviceId then (deviceManager, true)
    else
      deviceManager.addDevice
        (Device.named config.deviceId config.deviceName (ascii "modbus-tcp"))
  if !registered then none
  else
    -- a constructor would throw on a configuration that was not checked
    match DeviceConnectionStateMachine.create deviceManager config.deviceId
        config.communicationTimeoutMs.toInt64 (env.steadyNow tick),
      ReconnectBackoff.create config.reconnectInitialDelayMs.toInt64
        config.reconnectMaximumDelayMs.toInt64 with
    | some stateMachine, some reconnectBackoff =>
      some
        { config, deviceManager, stateMachine, reconnectBackoff, connected := false,
          tick := tick + 1, trace := [] }
    | _, _ => none

/-- `ModbusPlugin::initialize` of a new plugin: `none` where it returns false. -/
def initializePlugin (config : ModbusTcpConfig) (deviceManager : DeviceManager) (tick : Nat) :
    Option ModbusPlugin :=
  if !validateConfig config then none
  else if !env.newTcp tick then none
  else if env.setSlave (tick + 1) < 0 then none
  else createHelpers env config deviceManager (tick + 2)

/-! ### Calls of the helpers -/

/-- `stateMachine_->transitionTo`. -/
def transitionTo (plugin : ModbusPlugin) (nextState : ConnectionState) :
    ModbusPlugin × Bool :=
  let (stateMachine, deviceManager, changed) :=
    plugin.stateMachine.transitionTo plugin.deviceManager nextState
      (env.steadyNow plugin.tick)
  ({ plugin with stateMachine, deviceManager, tick := plugin.tick + 1 }, changed)

/-- `stateMachine_->markActivity`. -/
def markActivity (plugin : ModbusPlugin) : ModbusPlugin :=
  { plugin with
    stateMachine := (plugin.stateMachine.markActivity (env.steadyNow plugin.tick)).1
    tick := plugin.tick + 1 }

/-- `stateMachine_->checkTimeout`. -/
def checkTimeout (plugin : ModbusPlugin) : ModbusPlugin × Bool :=
  let (stateMachine, deviceManager, timedOut) :=
    plugin.stateMachine.checkTimeout plugin.deviceManager (env.steadyNow plugin.tick)
  ({ plugin with stateMachine, deviceManager, tick := plugin.tick + 1 }, timedOut)

/-- `reconnectBackoff_->recordFailure`. -/
def recordFailure (plugin : ModbusPlugin) : ModbusPlugin :=
  { plugin with
    reconnectBackoff := plugin.reconnectBackoff.recordFailure (env.steadyNow plugin.tick)
    tick := plugin.tick + 1
    trace := .failureRecorded (env.steadyNow plugin.tick) :: plugin.trace }

/-- `deviceManager_->updateAllTagQualities`. -/
def updateAllTagQualities (plugin : ModbusPlugin) (quality : Quality) : ModbusPlugin :=
  { plugin with
    deviceManager :=
      (plugin.deviceManager.updateAllTagQualities plugin.config.deviceId quality
        (env.systemNow plugin.tick)).1
    tick := plugin.tick + 1 }

/-- `modbus_connect`: whether the connection was accepted. -/
def callConnect (plugin : ModbusPlugin) : ModbusPlugin × Bool :=
  let accepted := !decide (env.connect plugin.tick < 0)
  ({ plugin with
     tick := plugin.tick + 1
     trace := .connectCalled accepted :: plugin.trace }, accepted)

/-- `reconnectBackoff_->canRetry`. -/
def canRetry (plugin : ModbusPlugin) : ModbusPlugin × Bool :=
  ({ plugin with tick := plugin.tick + 1 },
    plugin.reconnectBackoff.canRetry (env.steadyNow plugin.tick))

/-! ### The functions of the plugin -/

/-- `ModbusPlugin::connectTransport`. -/
def connectTransport (plugin : ModbusPlugin) : ModbusPlugin × Bool :=
  if plugin.connected then (plugin, true)
  else
    match plugin.transitionTo env .connecting with
    -- the edge is forbidden, or the device is gone: this is no failed attempt
    | (plugin, false) => (plugin, false)
    | (plugin, true) =>
      match plugin.callConnect env with
      | (plugin, false) =>
        let (plugin, _) := plugin.transitionTo env .error
        let plugin := plugin.updateAllTagQualities env .disconnected
        (plugin.recordFailure env, false)
      | (plugin, true) =>
        let plugin := { plugin with connected := true }
        match plugin.transitionTo env .connected with
        -- `modbus_close`; the machine stays in `Connecting`
        | (plugin, false) =>
          let plugin := { plugin with connected := false }
          (plugin.recordFailure env, false)
        | (plugin, true) =>
          ({ plugin with reconnectBackoff := plugin.reconnectBackoff.reset }, true)

/-- The local variables of the loop of `pollOnce`, and the reads it has made. -/
structure PollLoop where
  deviceManager : DeviceManager
  tick : Nat
  allSucceeded : Bool
  receivedResponse : Bool
  reads : List RegisterRead

/-- One iteration of the loop of `pollOnce`. -/
def pollTag (arithmetic : DoubleArithmetic) (deviceId : Bytes) (loop : PollLoop)
    (tagConfig : ModbusTagConfig) : PollLoop :=
  let answer := env.readRegisters loop.tick
  let reads := loop.reads ++ [⟨tagConfig, answer⟩]
  let tick := loop.tick + 2
  let now := env.systemNow (loop.tick + 1)
  let tag := Tag.named tagConfig.name
  if answer.count ≠ registerCount tagConfig.dataType then
    -- a short answer does not count as a response
    { deviceManager :=
        (loop.deviceManager.updateTag deviceId { tag with quality := .timeout } now).1
      allSucceeded := false
      receivedResponse := loop.receivedResponse
      tick, reads }
  else
    match decodeValue arithmetic answer.registers tagConfig with
    -- the device has answered, so this is activity
    | none =>
      { deviceManager :=
          (loop.deviceManager.updateTag deviceId { tag with quality := .invalid } now).1
        allSucceeded := false
        receivedResponse := true
        tick, reads }
    | some value =>
      let (deviceManager, updated) :=
        loop.deviceManager.updateTag deviceId
          { tag with value := .double value, quality := .good } now
      { allSucceeded := loop.allSucceeded && updated
        receivedResponse := true
        deviceManager, tick, reads }

/-- The loop of `pollOnce` over all configured tags. -/
def pollTags (arithmetic : DoubleArithmetic) (plugin : ModbusPlugin) : PollLoop :=
  plugin.config.tags.foldl (pollTag env arithmetic plugin.config.deviceId)
    { deviceManager := plugin.deviceManager
      tick := plugin.tick
      allSucceeded := true
      receivedResponse := false
      reads := [] }

/-- `pollOnce` after the connection check. -/
def pollPass (arithmetic : DoubleArithmetic) (plugin : ModbusPlugin) :
    ModbusPlugin × Bool :=
  let loop := plugin.pollTags env arithmetic
  let plugin := { plugin with
    deviceManager := loop.deviceManager
    tick := loop.tick
    trace := .polled loop.reads :: plugin.trace }
  if loop.receivedResponse then (plugin.markActivity env, loop.allSucceeded)
  else
    match plugin.checkTimeout env with
    -- the connection is kept until the timeout of the machine has passed
    | (plugin, false) => (plugin, loop.allSucceeded)
    | (plugin, true) =>
      let plugin := plugin.updateAllTagQualities env .timeout
      let plugin := { plugin with connected := false }
      (plugin.recordFailure env, loop.allSucceeded)

/-- `ModbusPlugin::pollOnce`. -/
def pollOnce (arithmetic : DoubleArithmetic) (plugin : ModbusPlugin) :
    ModbusPlugin × Bool :=
  if plugin.connected then plugin.pollPass env arithmetic
  else
    match plugin.canRetry env with
    | (plugin, false) => (plugin, false)
    | (plugin, true) =>
      match plugin.connectTransport env with
      | (plugin, false) => (plugin, false)
      | (plugin, true) => plugin.pollPass env arithmetic

/-- `ModbusPlugin::start`. -/
def start (arithmetic : DoubleArithmetic) (plugin : ModbusPlugin) : ModbusPlugin × Bool :=
  if plugin.connected then (plugin, true)
  else
    match plugin.canRetry env with
    | (plugin, false) => (plugin, false)
    | (plugin, true) =>
      match plugin.connectTransport env with
      | (plugin, false) => (plugin, false)
      -- a pass that fails is only logged
      | (plugin, true) => ((plugin.pollOnce env arithmetic).1, true)

/-- `ModbusPlugin::stop`. -/
def stop (plugin : ModbusPlugin) : ModbusPlugin :=
  let plugin := { plugin with connected := false }
  let plugin :=
    if plugin.stateMachine.state = .disconnected then plugin
    else
      let (plugin, _) := plugin.transitionTo env .disconnected
      plugin.updateAllTagQualities env .disconnected
  { plugin with reconnectBackoff := plugin.reconnectBackoff.reset }

end ModbusPlugin

/-! ## Runs -/

/-- The calls that an owner of the plugin makes. -/
inductive ModbusCall where
  | start
  | pollOnce
  | stop
deriving DecidableEq

/-- The plugin after a call. -/
def ModbusPlugin.perform (env : ModbusEnvironment) (arithmetic : DoubleArithmetic)
    (plugin : ModbusPlugin) : ModbusCall → ModbusPlugin
  | .start => (plugin.start env arithmetic).1
  | .pollOnce => (plugin.pollOnce env arithmetic).1
  | .stop => plugin.stop env

/-- The runs of a plugin that `initialize` set up on a manager with the property
    `adopted`. -/
def modbusSystem (env : ModbusEnvironment) (arithmetic : DoubleArithmetic)
    (config : ModbusTcpConfig) (adopted : DeviceManager → Prop) :
    TransitionSystem ModbusPlugin ModbusCall where
  init plugin := ∃ deviceManager tick, adopted deviceManager ∧
    ModbusPlugin.initializePlugin env config deviceManager tick = some plugin
  step plugin call := some (plugin.perform env arithmetic call)

end EdgeLink
