import EdgeLink.Native.Message

/-! # SocketCAN transport

`socketcan_transport.cpp`: the conversion between the frames of the plugin and those of the
kernel, and what `sendFrame` and `receiveFrame` do with them. What `write` and `read` answer
comes with the call. -/

namespace EdgeLink

def CAN_EFF_FLAG : UInt32 := 0x80000000
def CAN_RTR_FLAG : UInt32 := 0x40000000
def CAN_ERR_FLAG : UInt32 := 0x20000000
def CAN_SFF_MASK : UInt32 := 0x000007FF
def CAN_EFF_MASK : UInt32 := 0x1FFFFFFF

def socketCanClassicMaxDataLength : UInt8 := 8

/-- Eight data bytes. -/
abbrev CanData := Vector UInt8 8

/-- `can_frame` of the kernel. -/
structure CanFrame where
  can_id : UInt32
  can_dlc : UInt8
  data : CanData
deriving DecidableEq

/-- `sizeof(can_frame)`. -/
def canFrameSize : Nat := 16

structure SocketCanFrame where
  id : UInt32 := 0
  data : CanData := Vector.replicate 8 0
  dataLength : UInt8 := 0
  extended : Bool := false
  remoteTransmissionRequest : Bool := false
deriving DecidableEq

inductive SocketCanReceiveResult where
  | received
  | noData
  | error
deriving DecidableEq, Repr

/-- The first bytes of `source`, and those of `destination` after them. -/
def overwrite (destination source : CanData) (count : Nat) : CanData :=
  Vector.ofFn fun i => if i < count then source[i] else destination[i]

/-- `memcpy` between two arrays of eight bytes: `none` where it leaves them. -/
def copyData (destination source : CanData) (count : Nat) : Option CanData :=
  if count ≤ 8 then some (overwrite destination source count) else none

/-- What `read` on the socket returns: an error, `EAGAIN` or not, or a number of bytes and the
    frame that the buffer holds afterwards. -/
inductive CanRead where
  | wouldBlock
  | failed
  | bytes (count : Nat) (kernelFrame : CanFrame)
deriving DecidableEq

/-- The transport; `connected` is `socketFd_ >= 0`. -/
structure SocketCanTransport where
  connected : Bool
deriving DecidableEq

namespace SocketCanTransport

/-- `SocketCanTransport::isValidFrame`. -/
def isValidFrame (frame : SocketCanFrame) : Bool :=
  if frame.dataLength > socketCanClassicMaxDataLength then false
  else
    let maximumId := if frame.extended then CAN_EFF_MASK else CAN_SFF_MASK
    frame.id ≤ maximumId

/-- The identifier word of `sendFrame`. -/
def canId (frame : SocketCanFrame) : UInt32 :=
  let word := frame.id
  let word := if frame.extended then word ||| CAN_EFF_FLAG else word
  if frame.remoteTransmissionRequest then word ||| CAN_RTR_FLAG else word

/-- The kernel frame of `sendFrame`; `none` where `memcpy` leaves the arrays. -/
def kernelFrame (frame : SocketCanFrame) : Option CanFrame :=
  (copyData (Vector.replicate 8 0) frame.data frame.dataLength.toNat).map fun data =>
    { can_id := canId frame, can_dlc := frame.dataLength, data }

/-- `SocketCanTransport::sendFrame`: the frame given to `write`, if any, and the result;
    `writtenBytes` is what `write` returns. -/
def sendFrame (transport : SocketCanTransport) (frame : SocketCanFrame) (writtenBytes : Int) :
    Option (Option CanFrame × Bool) :=
  if !transport.connected then some (none, false)
  else if !isValidFrame frame then some (none, false)
  else
    (kernelFrame frame).map fun kernelFrame =>
      (some kernelFrame, writtenBytes = canFrameSize)

/-- The frame that `receiveFrame` makes of a kernel frame; `none` where `memcpy` leaves the
    arrays. -/
def receivedFrame (kernelFrame : CanFrame) : Option SocketCanFrame :=
  let extended : Bool := kernelFrame.can_id &&& CAN_EFF_FLAG ≠ 0
  (copyData (Vector.replicate 8 0) kernelFrame.data kernelFrame.can_dlc.toNat).map fun data =>
    { id := kernelFrame.can_id &&& (if extended then CAN_EFF_MASK else CAN_SFF_MASK)
      data
      dataLength := kernelFrame.can_dlc
      extended
      remoteTransmissionRequest := kernelFrame.can_id &&& CAN_RTR_FLAG ≠ 0 }

/-- `SocketCanTransport::receiveFrame`: the result, and the caller's frame afterwards. -/
def receiveFrame (transport : SocketCanTransport) (answer : CanRead) (frame : SocketCanFrame) :
    Option (SocketCanReceiveResult × SocketCanFrame) :=
  if !transport.connected then some (.error, frame)
  else
    match answer with
    | .wouldBlock => some (.noData, frame)
    | .failed => some (.error, frame)
    | .bytes count kernelFrame =>
      if count ≠ canFrameSize ∨ kernelFrame.can_id &&& CAN_ERR_FLAG ≠ 0 then
        some (.error, frame)
      else (receivedFrame kernelFrame).map fun received => (.received, received)

end SocketCanTransport

end EdgeLink
