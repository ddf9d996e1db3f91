import EdgeLink.ForStd.DescriptorTrace
import EdgeLink.ForStd.TransitionSystem
import EdgeLink.ForStd.UnixAddress
import EdgeLink.Native.Message

/-! # systemd notifier

`systemd_notifier.cpp`: what the service manager told the process in its environment, and the
datagrams that the process sends to it. What the kernel answers is numbered by `tick`; a call
that would leave `sun_path` gives `none`. -/

namespace EdgeLink

open CText UnixAddress

/-- The environment variables that the notifier reads, and `getpid()`. -/
structure NotifyEnvironment where
  notifySocket : Option Bytes
  watchdogPid : Option Bytes
  watchdogUsec : Option Bytes
  pid : Nat

/-- `readUnsignedEnvironment` of the value of a variable: the number, if the variable is set
    and all of it is read. -/
def readUnsignedEnvironment (value : Option Bytes) : Option Nat :=
  match value.map cString with
  | none => none
  | some text =>
    if text.isEmpty then none
    else
      match stoull text with
      -- the exception is caught
      | none => none
      | some number => if scanLength text = text.length then some number else none

/-- `sanitizeStatus`. -/
def sanitizeStatus (status : Bytes) : Bytes :=
  status.map fun character => if character = 10 ∨ character = 13 then 32 else character

/-- The notifier. -/
structure SystemdNotifier where
  notifySocket : Bytes
  watchdogInterval : Int64
deriving DecidableEq

/-- The answers of `socket` and `sendto`. -/
structure DatagramEnvironment where
  socket : Nat → Int
  sendto : Nat → Int

/-- What the notifier does with descriptors. A datagram goes with its address. -/
abbrev NotifierTrace := DescriptorTrace Unit (UnixAddress × Bytes)

namespace SystemdNotifier

/-- The interval that `WATCHDOG_USEC` asks for. -/
def watchdogMilliseconds (watchdogUsec : Option Bytes) : Int64 :=
  match readUnsignedEnvironment watchdogUsec with
  | none => 0
  | some watchdogMicroseconds =>
    if watchdogMicroseconds = 0 then 0
    else
      let watchdogMilliseconds := watchdogMicroseconds / 1000
      if watchdogMilliseconds = 0 ∨ watchdogMilliseconds > 2 ^ 63 - 1 then 0
      else Int64.ofNat watchdogMilliseconds

/-- `SystemdNotifier::SystemdNotifier`. -/
def create (environment : NotifyEnvironment) : SystemdNotifier where
  notifySocket := (environment.notifySocket.map cString).getD []
  watchdogInterval :=
    match readUnsignedEnvironment environment.watchdogPid with
    -- the watchdog is meant for another process
    | some watchdogPid =>
      if watchdogPid ≠ environment.pid then 0
      else watchdogMilliseconds environment.watchdogUsec
    | none => watchdogMilliseconds environment.watchdogUsec

/-- `SystemdNotifier::isAvailable`. -/
def isAvailable (notifier : SystemdNotifier) : Bool := !notifier.notifySocket.isEmpty

/-- The address that `sendNotification` fills: the inner `none` where it returns false, the
    outer one where a copy leaves `sun_path`. -/
def notifyAddress (notifier : SystemdNotifier) : Option (Option UnixAddress) :=
  let notifySocket := notifier.notifySocket
  if notifySocket.head? = some 64 then
    -- '@' stands for the NUL of an abstract socket
    if notifySocket.length > pathSize then some none
    else
      (writeAt zeroPath 1 notifySocket.tail).map fun path =>
        some ⟨path, pathOffset + notifySocket.length⟩
  else if notifySocket.length ≥ pathSize then some none
  else
    (writeAt zeroPath 0 (notifySocket ++ [0])).map fun path =>
      some ⟨path, pathOffset + notifySocket.length + 1⟩

/-- `SystemdNotifier::sendNotification`: the trace, the number of the next kernel answer and
    the result. -/
def sendNotification (kernel : DatagramEnvironment) (notifier : SystemdNotifier)
    (trace : NotifierTrace) (tick : Nat) (state : Bytes) :
    Option (NotifierTrace × Nat × Bool) :=
  if notifier.notifySocket.isEmpty ∨ state.isEmpty then some (trace, tick, false)
  else
    match notifier.notifyAddress with
    | none => none
    | some none => some (trace, tick, false)
    | some (some address) =>
      let socketFd := kernel.socket tick
      if socketFd < 0 then some (trace, tick + 1, false)
      else
        let sentSize := kernel.sendto (tick + 1)
        let sent :=
          -- a datagram is sent as a whole or not at all
          if sentSize < 0 then .used socketFd else .sent socketFd (address, state)
        some (.closed socketFd :: sent :: .opened socketFd :: trace, tick + 2,
          sentSize = state.length)

/-- The calls of a notifier. -/
inductive NotifyCall where
  | notifyReady (status : Bytes)
  | notifyWatchdog
  | notifyStopping (status : Bytes)
deriving DecidableEq

/-- The text with an optional status behind it. -/
def withStatus (state status : Bytes) : Bytes :=
  if status.isEmpty then state else state ++ ascii "\nSTATUS=" ++ sanitizeStatus status

/-- The text that `notifyReady`, `notifyWatchdog` and `notifyStopping` send. -/
def notificationText : NotifyCall → Bytes
  | .notifyReady status => withStatus (ascii "READY=1") status
  | .notifyWatchdog => ascii "WATCHDOG=1"
  | .notifyStopping status => withStatus (ascii "STOPPING=1") status

end SystemdNotifier

/-! ## Runs -/

/-- A notifier in use. `calls` records the calls and their results, newest first. -/
structure NotifierState where
  notifier : SystemdNotifier
  trace : NotifierTrace
  tick : Nat
  calls : List (SystemdNotifier.NotifyCall × Bool)

/-- A call of the notifier. -/
def NotifierState.perform (kernel : DatagramEnvironment) (s : NotifierState)
    (call : SystemdNotifier.NotifyCall) : Option NotifierState :=
  (s.notifier.sendNotification kernel s.trace s.tick
    (SystemdNotifier.notificationText call)).map fun (trace, tick, result) =>
      { s with trace, tick, calls := (call, result) :: s.calls }

/-- The runs of the notifier of a process. -/
def systemdSystem (kernel : DatagramEnvironment) (environment : NotifyEnvironment) :
    TransitionSystem NotifierState SystemdNotifier.NotifyCall where
  init s := s = ⟨.create environment, [], 0, []⟩
  step := NotifierState.perform kernel

end EdgeLink
