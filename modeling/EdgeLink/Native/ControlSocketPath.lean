import Mathlib.Logic.Function.Basic
import EdgeLink.ForStd.TransitionSystem

/-! # Control socket path

`start` and `stop` of `unix_domain_server.cpp`, as far as they touch the file system: several
processes, each with a `UnixDomainServer` for the same path, which has passed the checks at
the start of `start`. A step is one system call, or `addChannel`, the last call of `start`;
between them any other process can move.

The kernel is modelled by what the path names. `connect` is refused by a socket that does
not listen or whose owner has closed it, and by a file that is not a socket. Calls can fail
for other reasons at any time: the action says so. -/

namespace EdgeLink

/-- A bound socket. Numbers are not used again. -/
abbrev SocketId := Nat

/-- What the path names. -/
inductive PathEntry where
  | file
  | socket (socket : SocketId)
deriving DecidableEq

/-- What became of a socket. Nobody has a closed one open. -/
inductive SocketStatus where
  | bound
  | listening
  | closed
deriving DecidableEq

/-- Where a process is in `start` or `stop`: in front of the call of that name.
    `close` and `unlinkOwn` are those of `stop`. -/
inductive StartStopPc where
  | idle
  | lstat
  | probe
  | unlink
  | bind
  | listen
  | addChannel
  | close
  | unlinkOwn
deriving DecidableEq

/-- The members that `start` and `stop` use. `started` is a record: the last `start` has
    returned true, and `stop` was not called since. -/
structure ControlServer where
  listenFd : Option SocketId
  ownsSocketPath : Bool
  started : Bool
  pc : StartStopPc
deriving DecidableEq

structure ControlSocketState (Process : Type) where
  path : Option PathEntry
  status : SocketId → SocketStatus
  nextSocket : SocketId
  servers : Process → ControlServer

/-- The steps. `failed` is an answer of the system that depends on none of the processes. -/
inductive ControlSocketAction (Process : Type) where
  | start (process : Process)
  | lstat (process : Process) (failed : Bool)
  | probe (process : Process) (failed : Bool)
  | unlink (process : Process) (failed : Bool)
  | bind (process : Process) (failed : Bool)
  | listen (process : Process) (failed : Bool)
  | addChannel (process : Process) (failed : Bool)
  | stop (process : Process)
  | close (process : Process)
  | unlinkOwn (process : Process) (failed : Bool)
deriving DecidableEq

namespace ControlSocketState

variable {Process : Type} [DecidableEq Process]

def setServer (σ : ControlSocketState Process) (process : Process) (server : ControlServer) :
    ControlSocketState Process :=
  { σ with servers := Function.update σ.servers process server }

/-- The process goes on to its next call. -/
def goto (σ : ControlSocketState Process) (process : Process) (pc : StartStopPc) :
    ControlSocketState Process :=
  σ.setServer process { σ.servers process with pc }

/-! ## `start` -/

omit [DecidableEq Process] in
/-- Whether `connect` fails with `ECONNREFUSED`. -/
def refusesConnection (σ : ControlSocketState Process) : Bool :=
  match σ.path with
  | none => false
  | some .file => true
  | some (.socket socket) => σ.status socket ≠ .listening

/-- `start` up to `lstat`. A server that listens already returns true. -/
def start (σ : ControlSocketState Process) (process : Process) : ControlSocketState Process :=
  if (σ.servers process).listenFd.isSome then σ else σ.goto process .lstat

def lstat (σ : ControlSocketState Process) (process : Process) (failed : Bool) :
    ControlSocketState Process :=
  if failed then σ.goto process .idle
  else match σ.path with
  | none => σ.goto process .bind
  -- a file that is not a socket is not overwritten
  | some .file => σ.goto process .idle
  | some (.socket _) => σ.goto process .probe

/-- `isStaleSocketPath`. -/
def probe (σ : ControlSocketState Process) (process : Process) (failed : Bool) :
    ControlSocketState Process :=
  if !failed && σ.refusesConnection then σ.goto process .unlink else σ.goto process .idle

/-- `unlink` removes what the path names now. -/
def unlink (σ : ControlSocketState Process) (process : Process) (failed : Bool) :
    ControlSocketState Process :=
  if failed || σ.path.isNone then σ.goto process .idle
  else { σ.goto process .bind with path := none }

/-- `socket` and `bind`. -/
def bind (σ : ControlSocketState Process) (process : Process) (failed : Bool) :
    ControlSocketState Process :=
  if failed || σ.path.isSome then σ.goto process .idle
  else
    { σ.setServer process
        { σ.servers process with
          listenFd := some σ.nextSocket, ownsSocketPath := true, pc := .listen } with
      path := some (.socket σ.nextSocket)
      status := Function.update σ.status σ.nextSocket .bound
      nextSocket := σ.nextSocket + 1 }

/-- `listen`. Where it fails, `start` calls `stop`. -/
def listen (σ : ControlSocketState Process) (process : Process) (failed : Bool) :
    ControlSocketState Process :=
  match (σ.servers process).listenFd with
  | none => σ.goto process .close
  | some socket =>
    -- `stop` closes the socket and removes the path
    if failed then σ.goto process .close
    else
      { σ.goto process .addChannel with
        status := Function.update σ.status socket .listening }

/-- `addChannel`, and the end of `start`. -/
def addChannel (σ : ControlSocketState Process) (process : Process) (failed : Bool) :
    ControlSocketState Process :=
  if failed then σ.goto process .close
  else σ.setServer process { σ.servers process with started := true, pc := .idle }

/-! ## `stop` -/

def stop (σ : ControlSocketState Process) (process : Process) : ControlSocketState Process :=
  σ.setServer process { σ.servers process with started := false, pc := .close }

/-- `close` of `listenFd_`, where there is one. -/
def close (σ : ControlSocketState Process) (process : Process) : ControlSocketState Process :=
  match (σ.servers process).listenFd with
  | none => σ.goto process .unlinkOwn
  | some socket =>
    { σ.setServer process { σ.servers process with listenFd := none, pc := .unlinkOwn } with
      status := Function.update σ.status socket .closed }

/-- The `unlink` of `stop`: whether the path still names the socket that was bound is not
    looked at. -/
def unlinkOwn (σ : ControlSocketState Process) (process : Process) (failed : Bool) :
    ControlSocketState Process :=
  if (σ.servers process).ownsSocketPath then
    { σ.setServer process { σ.servers process with ownsSocketPath := false, pc := .idle } with
      path := if failed then σ.path else none }
  else σ.goto process .idle

/-! ## Steps -/

/-- One step; `none` where the process is at another call. -/
def step (σ : ControlSocketState Process) :
    ControlSocketAction Process → Option (ControlSocketState Process)
  | .start process =>
    if (σ.servers process).pc = .idle then some (σ.start process) else none
  | .lstat process failed =>
    if (σ.servers process).pc = .lstat then some (σ.lstat process failed) else none
  | .probe process failed =>
    if (σ.servers process).pc = .probe then some (σ.probe process failed) else none
  | .unlink process failed =>
    if (σ.servers process).pc = .unlink then some (σ.unlink process failed) else none
  | .bind process failed =>
    if (σ.servers process).pc = .bind then some (σ.bind process failed) else none
  | .listen process failed =>
    if (σ.servers process).pc = .listen then some (σ.listen process failed) else none
  | .addChannel process failed =>
    if (σ.servers process).pc = .addChannel then some (σ.addChannel process failed) else none
  | .stop process =>
    if (σ.servers process).pc = .idle then some (σ.stop process) else none
  | .close process =>
    if (σ.servers process).pc = .close then some (σ.close process) else none
  | .unlinkOwn process failed =>
    if (σ.servers process).pc = .unlinkOwn then some (σ.unlinkOwn process failed) else none

/-- No server was started yet. The path may name anything, such as the socket of an earlier
    run. -/
structure Initial (σ : ControlSocketState Process) : Prop where
  servers : ∀ process, σ.servers process =
    { listenFd := none, ownsSocketPath := false, started := false, pc := .idle }
  numbered : ∀ socket, σ.path = some (.socket socket) → socket < σ.nextSocket

end ControlSocketState

/-- The servers of one path, in any interleaving of their system calls. -/
def controlSocketSystem (Process : Type) [DecidableEq Process] :
    TransitionSystem (ControlSocketState Process) (ControlSocketAction Process) where
  init := ControlSocketState.Initial
  step := ControlSocketState.step

end EdgeLink
