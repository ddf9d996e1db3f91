import EdgeLink.Native.ModbusPlugin
import EdgeLink.Native.ModbusRtuTransport

/-! # Modbus plugin object

`modbus_plugin.cpp` as an object with pointers, from its construction to its destructor.
`Native/ModbusPlugin` starts after a successful `initialize` and leaves the calls of libmodbus
out; here `context_`, `stateMachine_` and `reconnectBackoff_` may be null and every call of
libmodbus is recorded. The result of a function is `none` where it follows a null pointer or
an exception leaves it. `address tick` is the address of a context that `modbus_new_tcp`
makes. -/

namespace EdgeLink

/-- The object. -/
structure ModbusPluginObject where
  config : ModbusTcpConfig
  deviceManager : DeviceManager
  stateMachine : Option DeviceConnectionStateMachine
  reconnectBackoff : Option ReconnectBackoff
  context : Option Nat
  connected : Bool
  tick : Nat
  calls : ModbusCalls

namespace ModbusPluginObject

/-- `ModbusPlugin::ModbusPlugin`. -/
def create (config : ModbusTcpConfig) (deviceManager : DeviceManager) : ModbusPluginObject where
  config := config
  deviceManager := deviceManager
  stateMachine := none
  reconnectBackoff := none
  context := none
  connected := false
  tick := 0
  calls := []

variable (env : ModbusEnvironment) (address : Nat → Nat)

/-! ### Calls of libmodbus and of the helpers -/

/-- `modbus_free`, and the pointer is cleared. -/
def freeContext (object : ModbusPluginObject) : ModbusPluginObject :=
  { object with context := none, calls := .freed object.context :: object.calls }

/-- `modbus_close`, and the flag is cleared. -/
def closeContext (object : ModbusPluginObject) : ModbusPluginObject :=
  { object with connected := false, calls := .closed object.context :: object.calls }

/-- `modbus_connect`: whether the connection was accepted. -/
def callConnect (object : ModbusPluginObject) : ModbusPluginObject × Bool :=
  if env.connect object.tick < 0 then
    ({ object with
       tick := object.tick + 1
       calls := .used object.context :: object.calls }, false)
  else
    ({ object with
       tick := object.tick + 1
       calls := .connected object.context :: object.calls }, true)

/-- `stateMachine_->transitionTo`. -/
def transitionTo (object : ModbusPluginObject) (nextState : ConnectionState) :
    Option (ModbusPluginObject × Bool) :=
  object.stateMachine.map fun machine =>
    let (machine, deviceManager, changed) :=
      machine.transitionTo object.deviceManager nextState (env.steadyNow object.tick)
    ({ object with stateMachine := some machine, deviceManager, tick := object.tick + 1 },
      changed)

/-- `stateMachine_->markActivity`. -/
def markActivity (object : ModbusPluginObject) : Option ModbusPluginObject :=
  object.stateMachine.map fun machine =>
    { object with
      stateMachine := some (machine.markActivity (env.steadyNow object.tick)).1
      tick := object.tick + 1 }

/-- `stateMachine_->checkTimeout`. -/
def checkTimeout (object : ModbusPluginObject) : Option (ModbusPluginObject × Bool) :=
  object.stateMachine.map fun machine =>
    let (machine, deviceManager, timedOut) :=
      machine.checkTimeout object.deviceManager (env.steadyNow object.tick)
    ({ object with stateMachine := some machine, deviceManager, tick := object.tick + 1 },
      timedOut)

/-- `reconnectBackoff_->recordFailure`. -/
def recordFailure (object : ModbusPluginObject) : Option ModbusPluginObject :=
  object.reconnectBackoff.map fun backoff =>
    { object with
      reconnectBackoff := some (backoff.recordFailure (env.steadyNow object.tick))
      tick := object.tick + 1 }

/-- `reconnectBackoff_->reset`. -/
def resetBackoff (object : ModbusPluginObject) : Option ModbusPluginObject :=
  object.reconnectBackoff.map fun backoff =>
    { object with reconnectBackoff := some backoff.reset }

/-- `reconnectBackoff_->canRetry`. -/
def canRetry (object : ModbusPluginObject) : Option (ModbusPluginObject × Bool) :=
  object.reconnectBackoff.map fun backoff =>
    ({ object with tick := object.tick + 1 }, backoff.canRetry (env.steadyNow object.tick))

/-- `deviceManager_->updateAllTagQualities`. -/
def updateAllTagQualities (object : ModbusPluginObject) (quality : Quality) :
    ModbusPluginObject :=
  { object with
    deviceManager :=
      (object.deviceManager.updateAllTagQualities object.config.deviceId quality
        (env.systemNow object.tick)).1
    tick := object.tick + 1 }

/-! ### The functions of the plugin -/

/-- The end of `initialize`. An exception of a constructor leaves the context behind. -/
def createHelpers (object : ModbusPluginObject) : Option (ModbusPluginObject × Bool) :=
  let (deviceManager, registered) :=
    if object.deviceManager.hasDevice object.config.deviceId then (object.deviceManager, true)
    else
      object.deviceManager.addDevice
        (Device.named object.config.deviceId object.config.deviceName (ascii "modbus-tcp"))
  if !registered then some ({ object with deviceManager }.freeContext, false)
  else
    match DeviceConnectionStateMachine.create deviceManager object.config.deviceId
        object.config.communicationTimeoutMs.toInt64 (env.steadyNow object.tick),
      ReconnectBackoff.create object.config.reconnectInitialDelayMs.toInt64
        object.config.reconnectMaximumDelayMs.toInt64 with
    | some stateMachine, some reconnectBackoff =>
      some
        ({ object with
           deviceManager
           stateMachine := some stateMachine
           reconnectBackoff := some reconnectBackoff
           tick := object.tick + 1 }, true)
    | _, _ => none

/-- `ModbusPlugin::initialize`. -/
def initializePlugin (object : ModbusPluginObject) : Option (ModbusPluginObject × Bool) :=
  if object.context.isSome then some (object, true)
  else if !validateConfig object.config then some (object, false)
  else if !env.newTcp object.tick then some ({ object with tick := object.tick + 1 }, false)
  else
    let context := some (address object.tick)
    let slaveSet := env.setSlave (object.tick + 1)
    let object := { object with
      context
      tick := object.tick + 2
      calls := .used context :: .created (address object.tick) :: object.calls }
    if slaveSet < 0 then some (object.freeContext, false)
    else object.createHelpers env

/-- `ModbusPlugin::connectTransport`. -/
def connectTransport (object : ModbusPluginObject) : Option (ModbusPluginObject × Bool) :=
  if object.connected then some (object, true)
  else
    match object.transitionTo env .connecting with
    | none => none
    | some (object, false) => some (object, false)
    | some (object, true) =>
      match object.callConnect env with
      | (object, false) =>
        (object.transitionTo env .error).bind fun (object, _) =>
          let object := object.updateAllTagQualities env .disconnected
          (object.recordFailure env).map fun object => (object, false)
      | (object, true) =>
        let object := { object with connected := true }
        match object.transitionTo env .connected with
        | none => none
        | some (object, false) =>
          (object.closeContext.recordFailure env).map fun object => (object, false)
        | some (object, true) => object.resetBackoff.map fun object => (object, true)

/-- One iteration of the loop of `pollOnce`, with the read that it makes. -/
def pollTag (arithmetic : DoubleArithmetic) (deviceId : Bytes) (context : Option Nat)
    (state : ModbusPlugin.PollLoop × ModbusCalls) (tagConfig : ModbusTagConfig) :
    ModbusPlugin.PollLoop × ModbusCalls :=
  (ModbusPlugin.pollTag env arithmetic deviceId state.1 tagConfig,
    .exchanged context ⟨tagConfig.registerAddress, registerCount tagConfig.dataType⟩ :: state.2)

/-- The loop of `pollOnce` over all configured tags. -/
def pollTags (arithmetic : DoubleArithmetic) (object : ModbusPluginObject) :
    ModbusPlugin.PollLoop × ModbusCalls :=
  object.config.tags.foldl (pollTag env arithmetic object.config.deviceId object.context)
    ({ deviceManager := object.deviceManager
       tick := object.tick
       allSucceeded := true
       receivedResponse := false
       reads := [] }, object.calls)

/-- `pollOnce` after the connection check. -/
def pollPass (arithmetic : DoubleArithmetic) (object : ModbusPluginObject) :
    Option (ModbusPluginObject × Bool) :=
  let (loop, calls) := object.pollTags env arithmetic
  let object := { object with deviceManager := loop.deviceManager, tick := loop.tick, calls }
  if loop.receivedResponse then
    (object.markActivity env).map fun object => (object, loop.allSucceeded)
  else
    match object.checkTimeout env with
    | none => none
    | some (object, false) => some (object, loop.allSucceeded)
    | some (object, true) =>
      let object := (object.updateAllTagQualities env .timeout).closeContext
      (object.recordFailure env).map fun object => (object, loop.allSucceeded)

/-- `ModbusPlugin::pollOnce`. -/
def pollOnce (arithmetic : DoubleArithmetic) (object : ModbusPluginObject) :
    Option (ModbusPluginObject × Bool) :=
  if object.connected then object.pollPass env arithmetic
  else if object.reconnectBackoff.isNone then some (object, false)
  else
    match object.canRetry env with
    | none => none
    | some (object, false) => some (object, false)
    | some (object, true) =>
      match object.connectTransport env with
      | none => none
      | some (object, false) => some (object, false)
      | some (object, true) => object.pollPass env arithmetic

/-- `start` after the initialization. -/
def startInitialized (arithmetic : DoubleArithmetic) (object : ModbusPluginObject) :
    Option (ModbusPluginObject × Bool) :=
  match object.canRetry env with
  | none => none
  | some (object, false) => some (object, false)
  | some (object, true) =>
    match object.connectTransport env with
    | none => none
    | some (object, false) => some (object, false)
    -- a pass that fails is only logged
    | some (object, true) =>
      (object.pollOnce env arithmetic).map fun (object, _) => (object, true)

/-- `ModbusPlugin::start`. -/
def start (arithmetic : DoubleArithmetic) (object : ModbusPluginObject) :
    Option (ModbusPluginObject × Bool) :=
  if object.connected then some (object, true)
  else if object.context.isNone then
    match object.initializePlugin env address with
    | none => none
    | some (object, false) => some (object, false)
    | some (object, true) => object.startInitialized env arithmetic
  else object.startInitialized env arithmetic

/-- The part of `stop` that reports the device as disconnected. -/
def reportDisconnected (object : ModbusPluginObject) : Option ModbusPluginObject :=
  match object.stateMachine with
  | none => some object
  | some machine =>
    if machine.state = .disconnected then some object
    else
      (object.transitionTo env .disconnected).map fun (object, _) =>
        object.updateAllTagQualities env .disconnected

/-- `ModbusPlugin::stop`. -/
def stop (object : ModbusPluginObject) : Option ModbusPluginObject :=
  let object := if object.connected then object.closeContext else object
  (object.reportDisconnected env).bind fun object =>
    if object.reconnectBackoff.isNone then some object else object.resetBackoff

/-- `ModbusPlugin::~ModbusPlugin`. -/
def destroy (object : ModbusPluginObject) : Option ModbusPluginObject :=
  (object.stop env).map fun object =>
    if object.context.isNone then object else object.freeContext

end ModbusPluginObject

/-! ## Runs -/

/-- What happens to an object: the calls of its owner, and a change that other components
    make to the manager they share with it. -/
inductive ModbusObjectCall where
  | initializePlugin
  | start
  | pollOnce
  | stop
  | destroy
  | shared (deviceManager : DeviceManager)

/-- The call ends the object. -/
def ModbusObjectCall.isDestroy : ModbusObjectCall → Bool
  | .destroy => true
  | _ => false

/-- The object after a call. -/
def ModbusPluginObject.perform (env : ModbusEnvironment) (address : Nat → Nat)
    (arithmetic : DoubleArithmetic) (object : ModbusPluginObject) :
    ModbusObjectCall → Option ModbusPluginObject
  | .initializePlugin => (object.initializePlugin env address).map Prod.fst
  | .start => (object.start env address arithmetic).map Prod.fst
  | .pollOnce => (object.pollOnce env arithmetic).map Prod.fst
  | .stop => object.stop env
  | .destroy => object.destroy env
  | .shared deviceManager => some { object with deviceManager }

/-- The runs of one object and whether it still lives: nothing is called after the
    destructor. -/
def modbusObjectSystem (env : ModbusEnvironment) (address : Nat → Nat)
    (arithmetic : DoubleArithmetic) (config : ModbusTcpConfig) :
    TransitionSystem (ModbusPluginObject × Bool) ModbusObjectCall where
  init s := ∃ deviceManager, s = (.create config deviceManager, true)
  step s call :=
    if s.2 then (s.1.perform env address arithmetic call).map (·, !call.isDestroy) else none

end EdgeLink
