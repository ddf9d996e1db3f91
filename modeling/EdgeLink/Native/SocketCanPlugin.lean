import Mathlib.Logic.Function.Basic
import EdgeLink.ForStd.DescriptorTrace
import EdgeLink.ForStd.TransitionSystem
import EdgeLink.Native.SocketCanTransport

/-! # SocketCAN plugins on one bus

`socketcan_plugin.cpp` and the socket of `socketcan_transport.cpp`: any number of plugin
objects for one CAN interface, next to other users of the bus.

Frames wait in the queue of the interface in the order in which they were written. When the
interface sends one, every other bound socket gets a copy unless its own queue is full; the
interface may lose a frame. A raw socket writes and reads whole frames, and the kernel gives
it no frame of more than eight data bytes. -/

namespace EdgeLink

/-- The size of an interface name with its NUL. -/
def IFNAMSIZ : Nat := 16

/-- What a plugin does with descriptors. -/
abbrev CanTrace := DescriptorTrace CanFrame CanFrame

/-- A plugin object with the members of its transport. -/
structure SocketCanPlugin where
  interfaceName : Bytes
  initialized : Bool
  socketFd : Int
  trace : CanTrace

/-- What `socket`, `ioctl` and `bind` answer. -/
structure ConnectAnswers where
  socket : Int
  ioctl : Int
  bind : Int

namespace SocketCanPlugin

/-- `SocketCanPlugin::SocketCanPlugin`. -/
def create (interfaceName : Bytes) : SocketCanPlugin where
  interfaceName := interfaceName
  initialized := false
  socketFd := -1
  trace := []

/-- `SocketCanTransport::isConnected`. -/
def isConnected (plugin : SocketCanPlugin) : Bool := 0 ≤ plugin.socketFd

/-- `SocketCanTransport::connect`. -/
def connect (plugin : SocketCanPlugin) (answers : ConnectAnswers) : SocketCanPlugin × Bool :=
  if plugin.isConnected then (plugin, true)
  else if plugin.interfaceName.isEmpty ∨ plugin.interfaceName.length ≥ IFNAMSIZ then
    (plugin, false)
  else
    let socketFd := answers.socket
    if socketFd < 0 then (plugin, false)
    else if answers.ioctl < 0 then
      ({ plugin with
         trace := .closed socketFd :: .used socketFd :: .opened socketFd :: plugin.trace }, false)
    else if answers.bind < 0 then
      ({ plugin with
         trace := .closed socketFd :: .used socketFd :: .used socketFd :: .opened socketFd ::
           plugin.trace }, false)
    else
      ({ plugin with
         socketFd
         trace := .used socketFd :: .used socketFd :: .opened socketFd :: plugin.trace }, true)

/-- `SocketCanTransport::disconnect`. -/
def disconnect (plugin : SocketCanPlugin) : SocketCanPlugin :=
  if !plugin.isConnected then plugin
  else { plugin with socketFd := -1, trace := .closed plugin.socketFd :: plugin.trace }

/-- `SocketCanPlugin::start`. -/
def start (plugin : SocketCanPlugin) (answers : ConnectAnswers) : SocketCanPlugin × Bool :=
  -- `initialize` always succeeds
  { plugin with initialized := true }.connect answers

/-- `SocketCanTransport::sendFrame`: the plugin, the frame that the kernel took, and the
    result. -/
def sendFrame (plugin : SocketCanPlugin) (frame : SocketCanFrame) (writtenBytes : Int) :
    Option (SocketCanPlugin × Option CanFrame × Bool) :=
  match SocketCanTransport.sendFrame ⟨plugin.isConnected⟩ frame writtenBytes with
  | none => none
  | some (none, result) => some (plugin, none, result)
  | some (some kernelFrame, result) =>
    if writtenBytes < 0 then
      some ({ plugin with trace := .used plugin.socketFd :: plugin.trace }, none, result)
    else
      some ({ plugin with trace := .sent plugin.socketFd kernelFrame :: plugin.trace },
        some kernelFrame, result)

/-- The `read` of `receiveFrame` in the trace. -/
def recordRead (plugin : SocketCanPlugin) (answer : CanRead) : SocketCanPlugin :=
  if !plugin.isConnected then plugin
  else
    match answer with
    | .wouldBlock | .failed =>
      { plugin with trace := .used plugin.socketFd :: plugin.trace }
    | .bytes _ kernelFrame =>
      { plugin with trace := .received plugin.socketFd kernelFrame :: plugin.trace }

/-- `SocketCanTransport::receiveFrame`: the plugin, the result and the caller's frame. -/
def receiveFrame (plugin : SocketCanPlugin) (answer : CanRead) (frame : SocketCanFrame) :
    Option (SocketCanPlugin × SocketCanReceiveResult × SocketCanFrame) :=
  (SocketCanTransport.receiveFrame ⟨plugin.isConnected⟩ answer frame).map fun result =>
    (plugin.recordRead answer, result)

end SocketCanPlugin

/-! ## Runs -/

variable {Node : Type}

/-- A frame that was given to the interface. `origin` records the plugin, the number of its
    socket and the frame that `sendFrame` was called with. -/
structure WireFrame (Node : Type) where
  origin : Option (Node × Nat × SocketCanFrame)
  frame : CanFrame

/-- Whether the socket that the plugin bound as its `socket`-th one has written the frame. -/
def WireFrame.isOwn [DecidableEq Node] (node : Node) (socket : Nat) (frame : WireFrame Node) :
    Bool :=
  match frame.origin with
  | some (writer, number, _) => writer = node ∧ number = socket
  | none => false

/-- The plugins and their interface. `sockets` counts the sockets that a plugin has bound,
    `queues` is what its socket holds for it, `device` what the interface has to send. `wire`
    and `received` record what was given to the interface, and what `receiveFrame` handed over
    since the last bind, oldest first. -/
structure CanBus (Node : Type) where
  plugins : Node → SocketCanPlugin
  alive : Node → Bool
  sockets : Node → Nat
  queues : Node → List CanFrame
  device : List (WireFrame Node)
  wire : List (WireFrame Node)
  received : Node → List SocketCanFrame

/-- The steps: calls of the plugins, frames of others, and those of the interface. -/
inductive CanAction (Node : Type) where
  | start (node : Node) (answers : ConnectAnswers)
  | stop (node : Node)
  | destroy (node : Node)
  | sendFrame (node : Node) (frame : SocketCanFrame) (writtenBytes : Int)
  | receiveFrame (node : Node) (failed : Bool) (frame : SocketCanFrame)
  | foreign (frame : CanFrame)
  | transmit (dropped : Node → Bool)
  | lose

namespace CanBus

variable [DecidableEq Node]

/-- `SocketCanPlugin::start`. A socket that was bound starts with an empty queue. -/
def start (s : CanBus Node) (node : Node) (answers : ConnectAnswers) : CanBus Node :=
  let plugin := ((s.plugins node).start answers).1
  let s' := { s with plugins := Function.update s.plugins node plugin }
  if !(s.plugins node).isConnected && plugin.isConnected then
    { s' with
      sockets := Function.update s.sockets node (s.sockets node + 1)
      queues := Function.update s.queues node []
      received := Function.update s.received node [] }
  else s'

/-- `SocketCanPlugin::stop`. What the socket still held is gone. -/
def stop (s : CanBus Node) (node : Node) : CanBus Node :=
  { s with
    plugins := Function.update s.plugins node (s.plugins node).disconnect
    queues := Function.update s.queues node [] }

/-- The interface is given a frame. -/
def give (s : CanBus Node) (frame : WireFrame Node) : CanBus Node :=
  { s with device := s.device ++ [frame], wire := s.wire ++ [frame] }

def sendFrame (s : CanBus Node) (node : Node) (frame : SocketCanFrame) (writtenBytes : Int) :
    Option (CanBus Node) :=
  match (s.plugins node).sendFrame frame writtenBytes with
  | none => none
  | some (plugin, none, _) => some { s with plugins := Function.update s.plugins node plugin }
  | some (plugin, some kernelFrame, _) =>
    some ({ s with plugins := Function.update s.plugins node plugin }.give
      ⟨some (node, s.sockets node, frame), kernelFrame⟩)

/-- What `read` answers. -/
def read (s : CanBus Node) (node : Node) (failed : Bool) : CanRead :=
  if failed then .failed
  else
    match s.queues node with
    | [] => .wouldBlock
    | kernelFrame :: _ => .bytes canFrameSize kernelFrame

def receiveFrame (s : CanBus Node) (node : Node) (failed : Bool) (frame : SocketCanFrame) :
    Option (CanBus Node) :=
  ((s.plugins node).receiveFrame (s.read node failed) frame).map fun (plugin, result, frame) =>
    { s with
      plugins := Function.update s.plugins node plugin
      queues :=
        if failed then s.queues else Function.update s.queues node (s.queues node).tail
      received :=
        if result = .received then
          Function.update s.received node (s.received node ++ [frame])
        else s.received }

/-- The interface sends a frame: every bound socket but the one that wrote it gets a copy. -/
def transmit (s : CanBus Node) (dropped : Node → Bool) : Option (CanBus Node) :=
  match s.device with
  | [] => none
  | frame :: rest =>
    some { s with
      device := rest
      queues := fun node =>
        if (s.plugins node).isConnected && !frame.isOwn node (s.sockets node) &&
            !dropped node then
          s.queues node ++ [frame.frame]
        else s.queues node }

/-- One step; nothing is called on an object that does not live. -/
def step (s : CanBus Node) : CanAction Node → Option (CanBus Node)
  | .start node answers => if s.alive node then some (s.start node answers) else none
  | .stop node => if s.alive node then some (s.stop node) else none
  | .destroy node =>
    if s.alive node then
      some { s.stop node with alive := Function.update s.alive node false }
    else none
  | .sendFrame node frame writtenBytes =>
    if s.alive node then s.sendFrame node frame writtenBytes else none
  | .receiveFrame node failed frame =>
    if s.alive node then s.receiveFrame node failed frame else none
  | .foreign frame => if frame.can_dlc ≤ 8 then some (s.give ⟨none, frame⟩) else none
  | .transmit dropped => s.transmit dropped
  | .lose => if s.device.isEmpty then none else some { s with device := s.device.tail }

end CanBus

/-- The runs of plugins with the names of one interface. -/
def canBusSystem [DecidableEq Node] (interfaceName : Bytes) :
    TransitionSystem (CanBus Node) (CanAction Node) where
  init s := s = ⟨fun _ => .create interfaceName, fun _ => true, fun _ => 0, fun _ => [], [], [],
    fun _ => []⟩
  step := CanBus.step

end EdgeLink
