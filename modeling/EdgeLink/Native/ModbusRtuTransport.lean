import EdgeLink.ForStd.SessionTrace
import EdgeLink.ForStd.TransitionSystem
import EdgeLink.Native.Message

/-! # Modbus RTU transport

`modbus_rtu_transport.cpp`: the serial connection of one Modbus device and the reading of
its holding registers. What libmodbus answers is numbered by `tick`; `calls` is what the
transport asked of it. The addresses of contexts may be given out again after `modbus_free`. -/

namespace EdgeLink

/-- The registers that a read asks for. -/
structure RegisterRequest where
  address : Int32
  count : Int32
deriving DecidableEq

/-- The calls of libmodbus: `used` is `modbus_set_slave` or a `modbus_connect` that fails,
    `exchanged` is `modbus_read_registers`. -/
abbrev ModbusCalls := SessionTrace Nat RegisterRequest

/-- Serial line parameters. -/
structure ModbusRtuConfig where
  serialDevice : Bytes
  baudRate : Int32 := 9600
  parity : UInt8 := 78
  dataBits : Int32 := 8
  stopBits : Int32 := 1
  slaveId : Int32 := 1
deriving DecidableEq

/-- The answers of libmodbus. `newRtu` is the address of the new context, if there is one;
    `readRegisters` the result and the words that it leaves in the buffer. -/
structure RtuEnvironment where
  newRtu : Nat → Option Nat
  setSlave : Nat → Int32
  connect : Nat → Int32
  readRegisters : Nat → Int32 × (Nat → UInt16)

/-- The transport object. `context` is `context_`, null or an address. -/
structure ModbusRtuTransport where
  config : ModbusRtuConfig
  context : Option Nat
  connected : Bool
  tick : Nat
  calls : ModbusCalls

namespace ModbusRtuTransport

/-- `ModbusRtuTransport::ModbusRtuTransport`. -/
def create (config : ModbusRtuConfig) : ModbusRtuTransport where
  config := config
  context := none
  connected := false
  tick := 0
  calls := []

/-- `ModbusRtuTransport::validateConfig`. -/
def validateConfig (transport : ModbusRtuTransport) : Bool :=
  let config := transport.config
  -- 'N', 'E' or 'O'
  let parityValid := config.parity == 78 || config.parity == 69 || config.parity == 79
  !config.serialDevice.isEmpty && decide (config.baudRate > 0) && parityValid &&
    decide (config.dataBits ≥ 5) && decide (config.dataBits ≤ 8) &&
    (config.stopBits == 1 || config.stopBits == 2) &&
    decide (config.slaveId ≥ 1) && decide (config.slaveId ≤ 247)

variable (env : RtuEnvironment)

/-- The `modbus_connect` of `connect`. -/
def callConnect (transport : ModbusRtuTransport) : ModbusRtuTransport × Bool :=
  if env.connect transport.tick < 0 then
    ({ transport with
       tick := transport.tick + 1
       calls := .used transport.context :: transport.calls }, false)
  else
    ({ transport with
       connected := true
       tick := transport.tick + 1
       calls := .connected transport.context :: transport.calls }, true)

/-- The part of `connect` that makes a context. -/
def createContext (transport : ModbusRtuTransport) : ModbusRtuTransport × Bool :=
  match env.newRtu transport.tick with
  | none => ({ transport with tick := transport.tick + 1 }, false)
  | some address =>
    let slaveSet := env.setSlave (transport.tick + 1)
    let transport := { transport with
      context := some address
      tick := transport.tick + 2
      calls := .used (some address) :: .created address :: transport.calls }
    if slaveSet < 0 then
      ({ transport with
         context := none
         calls := .freed transport.context :: transport.calls }, false)
    else (transport, true)

/-- `ModbusRtuTransport::connect`. -/
def connect (transport : ModbusRtuTransport) : ModbusRtuTransport × Bool :=
  if transport.connected then (transport, true)
  else if !transport.validateConfig then (transport, false)
  else if transport.context.isNone then
    match transport.createContext env with
    | (transport, false) => (transport, false)
    | (transport, true) => transport.callConnect env
  else transport.callConnect env

/-- `ModbusRtuTransport::disconnect`. The context is kept for the next `connect`. -/
def disconnect (transport : ModbusRtuTransport) : ModbusRtuTransport :=
  if !transport.connected then transport
  else
    { transport with
      connected := false
      calls := .closed transport.context :: transport.calls }

/-- `ModbusRtuTransport::isConnected`. -/
def isConnected (transport : ModbusRtuTransport) : Bool := transport.connected

/-- `ModbusRtuTransport::readHoldingRegisters`: the result, and the caller's vector
    afterwards. -/
def readHoldingRegisters (transport : ModbusRtuTransport) (address count : Int32)
    (output : List UInt16) : ModbusRtuTransport × Bool × List UInt16 :=
  if !transport.connected then (transport, false, output)
  else if address < 0 ∨ count ≤ 0 ∨ count > 125 ∨ address > 65535 - (count - 1) then
    (transport, false, output)
  else
    let (actualCount, words) := env.readRegisters transport.tick
    let registers := (List.range count.toInt.toNat).map words
    let transport := { transport with
      tick := transport.tick + 1
      calls := .exchanged transport.context ⟨address, count⟩ :: transport.calls }
    if actualCount ≠ count then (transport, false, output)
    else (transport, true, registers)

/-- `ModbusRtuTransport::~ModbusRtuTransport`. -/
def destroy (transport : ModbusRtuTransport) : ModbusRtuTransport :=
  let transport := transport.disconnect
  if transport.context.isNone then transport
  else
    { transport with
      context := none
      calls := .freed transport.context :: transport.calls }

end ModbusRtuTransport

/-! ## Runs -/

/-- The calls that an owner of the transport makes. -/
inductive RtuCall where
  | connect
  | disconnect
  | readHoldingRegisters (address count : Int32) (output : List UInt16)
  | destroy
deriving DecidableEq

/-- The transport after a call. -/
def ModbusRtuTransport.perform (env : RtuEnvironment) (transport : ModbusRtuTransport) :
    RtuCall → ModbusRtuTransport
  | .connect => (transport.connect env).1
  | .disconnect => transport.disconnect
  | .readHoldingRegisters address count output =>
    (transport.readHoldingRegisters env address count output).1
  | .destroy => transport.destroy

/-- The runs of one transport object and whether it still lives: nothing is called after
    the destructor. -/
def rtuSystem (env : RtuEnvironment) (config : ModbusRtuConfig) :
    TransitionSystem (ModbusRtuTransport × Bool) RtuCall where
  init s := s = (.create config, true)
  step s call :=
    if s.2 then some (s.1.perform env call, decide (call ≠ .destroy)) else none

end EdgeLink
