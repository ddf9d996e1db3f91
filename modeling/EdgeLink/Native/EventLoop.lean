import Mathlib.Logic.Function.Basic
import EdgeLink.ForStd.DescriptorTrace
import EdgeLink.Native.Message

/-! # Event loop

`channel.cpp` and the registration functions of `event_loop.cpp`: the map `channels_` from
descriptors to `Channel` pointers, next to what the kernel keeps for the process: the
interest list of the epoll instance and the calls made on descriptors.

A `Channel*` is the number of the object it points to; objects of other components on the
same loop have numbers of their own. -/

namespace EdgeLink

/-! ## Channels -/

def EPOLLIN : UInt32 := 0x1
def EPOLLOUT : UInt32 := 0x4
def EPOLLERR : UInt32 := 0x8
def EPOLLHUP : UInt32 := 0x10
def EPOLLRDHUP : UInt32 := 0x2000

/-- A `Channel` object. -/
structure Channel where
  address : Nat
  fd : Int
  events : UInt32
deriving DecidableEq

/-- `Channel::setEvents`. -/
def Channel.setEvents (channel : Channel) (events : UInt32) : Channel :=
  { channel with events := events }

/-- The callback that `Channel::handleEvent` runs. -/
inductive ChannelCallback where
  | read
  | write
  | error
deriving DecidableEq

/-- `Channel::handleEvent` for the events that epoll returned. -/
def Channel.handleEvent (revents : UInt32) : Option ChannelCallback :=
  if revents &&& (EPOLLERR ||| EPOLLHUP) ≠ 0 then some .error
  else if revents &&& (EPOLLIN ||| EPOLLRDHUP) ≠ 0 then some .read
  else if revents &&& EPOLLOUT ≠ 0 then some .write
  else none

/-- The mask asks for `EPOLLOUT`. -/
def AsksForOutput (events : UInt32) : Prop := events &&& EPOLLOUT ≠ 0

instance (events : UInt32) : Decidable (AsksForOutput events) :=
  inferInstanceAs (Decidable (_ ≠ _))

/-- A `Channel*`: a channel of the server that is looked at, or of another component. -/
inductive ChannelPointer where
  | own (address : Nat)
  | foreign (address : Nat)
deriving DecidableEq

/-! ## The loop -/

/-- `channels_`, the interest list of the epoll instance, the descriptors that other
    components have open, and the calls of the server. -/
structure EventLoop (Input : Type) where
  channels : Int → Option ChannelPointer
  interest : Int → Option UInt32
  foreignOpen : Int → Bool
  trace : DescriptorTrace Input Bytes

namespace EventLoop

variable {Input : Type}

/-- A call is made on a descriptor. -/
def record (loop : EventLoop Input) (call : DescriptorCall Input Bytes) : EventLoop Input :=
  { loop with trace := call :: loop.trace }

/-- `EventLoop::addChannel`. `granted` is the kernel's answer; a descriptor that is
    registered already is refused in any case. -/
def addChannel (loop : EventLoop Input) (channel : Channel) (granted : Bool) :
    EventLoop Input × Bool :=
  let loop := loop.record (.used channel.fd)
  -- `channels_` is changed only when `EPOLL_CTL_ADD` has succeeded
  if granted && (loop.interest channel.fd).isNone then
    ({ loop with
       interest := Function.update loop.interest channel.fd (some channel.events)
       channels := Function.update loop.channels channel.fd (some (.own channel.address)) },
      true)
  else (loop, false)

/-- `EventLoop::removeChannel`. `EPOLL_CTL_DEL` fails for a descriptor that is not
    registered. -/
def removeChannel (loop : EventLoop Input) (channel : Channel) : EventLoop Input × Bool :=
  let loop := loop.record (.used channel.fd)
  if (loop.interest channel.fd).isSome then
    ({ loop with
       interest := Function.update loop.interest channel.fd none
       channels := Function.update loop.channels channel.fd none }, true)
  else (loop, false)

/-- `close`: the kernel takes the descriptor off the interest list. `channels_` is not told. -/
def close (loop : EventLoop Input) (fd : Int) : EventLoop Input :=
  { loop.record (.closed fd) with interest := Function.update loop.interest fd none }

/-- The number is not in use in the process. -/
def isFree (loop : EventLoop Input) (fd : Int) : Bool :=
  !DescriptorTrace.isOpen fd loop.trace && !loop.foreignOpen fd

end EventLoop

/-! ## Other components -/

/-- What another component does with a descriptor of its own. -/
inductive ForeignChange where
  | opened (fd : Int)
  | closed (fd : Int)
  | added (fd : Int) (address : Nat) (events : UInt32)
  | removed (fd : Int)
deriving DecidableEq

/-- The loop after the change: `none` where the kernel would not allow it, or the
    descriptor is not one of another component. -/
def EventLoop.foreignChange {Input : Type} (loop : EventLoop Input) :
    ForeignChange → Option (EventLoop Input)
  | .opened fd =>
    if loop.isFree fd then
      some { loop with foreignOpen := Function.update loop.foreignOpen fd true }
    else none
  | .closed fd =>
    if loop.foreignOpen fd then
      some { loop with
        foreignOpen := Function.update loop.foreignOpen fd false
        interest := Function.update loop.interest fd none }
    else none
  | .added fd address events =>
    if loop.foreignOpen fd then
      some { loop with
        channels := Function.update loop.channels fd (some (.foreign address))
        interest := Function.update loop.interest fd (some events) }
    else none
  | .removed fd =>
    if loop.foreignOpen fd then
      some { loop with
        channels := Function.update loop.channels fd none
        interest := Function.update loop.interest fd none }
    else none

end EdgeLink
