import EdgeLink.ForStd.EventFd
import EdgeLink.ForStd.TransitionSystem

/-! # Eventfd notifications

`eventfd_notifier.cpp`: any number of threads and processes notify, one event loop reads.
A write or read that is interrupted has changed nothing and is made again; how often that
happens, and whether the call fails for another reason, comes with the call.

`Callback` stands for the functions that a `NotificationCallback` can hold. -/

namespace EdgeLink

/-- What a call of the kernel answers before it does its work. -/
inductive KernelFault where
  /-- `EINTR`. -/
  | interrupted
  /-- Any other error than `EAGAIN`. -/
  | failed
deriving DecidableEq

/-- An `EventFdNotifier` and its counter. -/
structure EventFdNotifier (Callback : Type) where
  eventFd : EventFd := .empty
  callback : Option Callback := none
deriving DecidableEq

namespace EventFdNotifier

variable {Callback : Type}

/-- The loop of `notify`. -/
def writeLoop (eventFd : EventFd) (count : UInt64) : List KernelFault → EventFd × Bool
  | [] =>
    match eventFd.write count.toNat with
    | some eventFd => (eventFd, true)
    | none => (eventFd, false)
  | .interrupted :: faults => writeLoop eventFd count faults
  | .failed :: _ => (eventFd, false)

/-- `EventFdNotifier::notify`. -/
def notify (notifier : EventFdNotifier Callback) (count : UInt64)
    (faults : List KernelFault) : EventFdNotifier Callback × Bool :=
  -- the largest word is not a value that can be written
  if count = 0 ∨ count = UInt64.ofNat (2 ^ 64 - 1) then (notifier, false)
  else
    let (eventFd, written) := writeLoop notifier.eventFd count faults
    ({ notifier with eventFd }, written)

/-- The loop of `handleRead`. -/
def readLoop (eventFd : EventFd) : List KernelFault → Option (EventFd × Nat)
  | [] => eventFd.read
  | .interrupted :: faults => readLoop eventFd faults
  | .failed :: _ => none

/-- `EventFdNotifier::handleRead`: the callback that is run and the count it is given. What it
    throws is caught. -/
def handleRead (notifier : EventFdNotifier Callback) (faults : List KernelFault) :
    EventFdNotifier Callback × Option (Option Callback × Nat) :=
  match readLoop notifier.eventFd faults with
  | none => (notifier, none)
  | some (eventFd, count) => ({ notifier with eventFd }, some (notifier.callback, count))

/-- `EventFdNotifier::setCallback`. -/
def setCallback (notifier : EventFdNotifier Callback) (callback : Option Callback) :
    EventFdNotifier Callback :=
  { notifier with callback }

end EventFdNotifier

/-- A call on the notifier. -/
inductive NotifierCall (Callback : Type) where
  | notify (count : UInt64) (faults : List KernelFault)
  | handleRead (faults : List KernelFault)
  | setCallback (callback : Option Callback)

/-- A notifier under any sequence of calls. -/
def notifierSystem (Callback : Type) :
    TransitionSystem (EventFdNotifier Callback) (NotifierCall Callback) where
  init notifier := notifier = {}
  step notifier
    | .notify count faults => some (notifier.notify count faults).1
    | .handleRead faults => some (notifier.handleRead faults).1
    | .setCallback callback => some (notifier.setCallback callback)

end EdgeLink
