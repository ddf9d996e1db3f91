import Mathlib.Data.List.AList
import EdgeLink.ForStd.TransitionSystem
import EdgeLink.Native.EventLoop

/-! # Socket server

What `TcpServer` and `UnixDomainServer` have in common: a listening socket, and the map
`clients_` from descriptors to the state of a client, which owns the client's `Channel`.
The two differ in that state (`Buffer`), in what they receive (`Input`), and in how they
answer, which is given in their own modules.

The results of the system calls that one handler makes are lists, in the order of the
calls. A list that is used up stands for `EAGAIN`, so no handler runs forever. -/

namespace EdgeLink

/-! ## Results of system calls -/

/-- `accept4`, with the answer of `EPOLL_CTL_ADD` for an accepted client. -/
inductive AcceptResult where
  | accepted (fd : Int) (granted : Bool)
  | interrupted
  | wouldBlock
  | failed
deriving DecidableEq

/-- `recv`. An input of length 0 is the end of the input. -/
inductive RecvResult (Input : Type) where
  | received (input : Input)
  | interrupted
  | wouldBlock
  | failed
deriving DecidableEq

/-- `send`. -/
inductive SendResult where
  | wrote (count : Nat)
  | interrupted
  | wouldBlock
  | failed
deriving DecidableEq

/-- How the loop around `recv` was left. -/
inductive RecvEnd where
  | wouldBlock
  | ended
  | failed
deriving DecidableEq

/-- How the loop around `send` was left. -/
inductive SendEnd where
  | drained
  | wouldBlock
  | failed
deriving DecidableEq

/-! ## The server -/

/-- `ClientState`. -/
structure ClientState (Buffer : Type) where
  channel : Channel
  output : Buffer

/-- A started server on its event loop. `nextAddress` numbers the `Channel` objects. -/
structure SocketServer (Input Buffer : Type) where
  loop : EventLoop Input
  nextAddress : Nat
  listenFd : Int
  listenChannel : Option Channel
  clients : AList fun _ : Int => ClientState Buffer

namespace SocketServer

variable {Input Buffer : Type}

/-- The end of `start`: the listening socket `fd` is registered. `none` where `start`
    fails. The fields are those of a server that has not been started. -/
def openListener (loop : EventLoop Input) (nextAddress : Nat) (fd : Int) (granted : Bool) :
    Option (SocketServer Input Buffer) :=
  if fd < 0 ∨ !loop.isFree fd then none
  else
    let channel : Channel := { address := nextAddress, fd := fd, events := EPOLLIN }
    match (loop.record (.opened fd)).addChannel channel granted with
    | (_, false) => none
    | (loop, true) =>
      some
        { loop, nextAddress := nextAddress + 1, listenFd := fd,
          listenChannel := some channel, clients := ∅ }

/-- `removeClient`. -/
def removeClient (server : SocketServer Input Buffer) (clientFd : Int) :
    SocketServer Input Buffer :=
  match server.clients.lookup clientFd with
  | none => server
  | some client =>
    { server with
      loop := (server.loop.removeChannel client.channel).1.close clientFd
      clients := server.clients.erase clientFd }

/-- The state that a handler changes through its reference into `clients_`. -/
def setOutput (server : SocketServer Input Buffer) (clientFd : Int)
    (client : ClientState Buffer) (output : Buffer) : SocketServer Input Buffer :=
  { server with clients := server.clients.insert clientFd { client with output := output } }

/-- The body of the loop of `handleAccept` for an accepted descriptor. -/
def addClient (server : SocketServer Input Buffer) (empty : Buffer) (clientFd : Int)
    (granted : Bool) : SocketServer Input Buffer :=
  let channel : Channel :=
    { address := server.nextAddress, fd := clientFd, events := EPOLLIN ||| EPOLLRDHUP }
  let server := { server with
    loop := (server.loop.record (.used server.listenFd)).record (.opened clientFd)
    nextAddress := server.nextAddress + 1 }
  match server.loop.addChannel channel granted with
  -- `handleAccept` goes on with the next client
  | (loop, false) => { server with loop := loop.close clientFd }
  | (loop, true) =>
    -- `emplace` keeps an entry that is there
    match server.clients.lookup clientFd with
    | some _ => { server with loop := loop }
    | none =>
      { server with
        loop := loop
        clients := server.clients.insert clientFd { channel, output := empty } }

/-- `handleAccept`: `none` where the kernel would not give out the descriptor. -/
def acceptClients (server : SocketServer Input Buffer) (empty : Buffer) :
    List AcceptResult → Option (SocketServer Input Buffer)
  | [] => some { server with loop := server.loop.record (.used server.listenFd) }
  | .wouldBlock :: _ => some { server with loop := server.loop.record (.used server.listenFd) }
  | .failed :: _ => some { server with loop := server.loop.record (.used server.listenFd) }
  | .interrupted :: results =>
    acceptClients { server with loop := server.loop.record (.used server.listenFd) } empty
      results
  | .accepted clientFd granted :: results =>
    if clientFd < 0 ∨ !server.loop.isFree clientFd then none
    else acceptClients (server.addClient empty clientFd granted) empty results

/-- The loop around `recv` of `handleClientRead`. `absorb` is what the server does with an
    input, and `bytesRead` its length. -/
def recvLoop (bytesRead : Input → Nat) (absorb : Buffer → Input → Buffer) (clientFd : Int)
    (loop : EventLoop Input) (output : Buffer) :
    List (RecvResult Input) → EventLoop Input × Buffer × RecvEnd
  | [] => (loop.record (.used clientFd), output, .wouldBlock)
  | .received input :: results =>
    if 0 < bytesRead input then
      recvLoop bytesRead absorb clientFd (loop.record (.received clientFd input))
        (absorb output input) results
    else (loop.record (.used clientFd), output, .ended)
  | .interrupted :: results =>
    recvLoop bytesRead absorb clientFd (loop.record (.used clientFd)) output results
  | .wouldBlock :: _ => (loop.record (.used clientFd), output, .wouldBlock)
  | .failed :: _ => (loop.record (.used clientFd), output, .failed)

/-- `handleClientRead`, with the server's `handleClientWrite`. -/
def readClient (bytesRead : Input → Nat) (absorb : Buffer → Input → Buffer)
    (handleClientWrite : SocketServer Input Buffer → SocketServer Input Buffer)
    (server : SocketServer Input Buffer) (clientFd : Int)
    (recvs : List (RecvResult Input)) : SocketServer Input Buffer :=
  match server.clients.lookup clientFd with
  | none => server
  | some client =>
    let (loop, output, ending) :=
      recvLoop bytesRead absorb clientFd server.loop client.output recvs
    let server := { server with loop := loop }.setOutput clientFd client output
    match ending with
    | .wouldBlock => handleClientWrite server
    -- what waits in the buffer leaves with the client
    | .ended => server.removeClient clientFd
    | .failed => server.removeClient clientFd

/-- The loop of `stop` over the clients. -/
def closeClients (loop : EventLoop Input) :
    List (Sigma fun _ : Int => ClientState Buffer) → EventLoop Input
  | [] => loop
  | client :: clients =>
    closeClients ((loop.removeChannel client.2.channel).1.close client.1) clients

/-- `stop`, as far as it is about descriptors. The order of the clients is that of the
    map's entries; nothing depends on it. -/
def stop (server : SocketServer Input Buffer) : SocketServer Input Buffer :=
  let server := { server with
    loop := closeClients server.loop server.clients.entries
    clients := ∅ }
  let server :=
    match server.listenChannel with
    | none => server
    | some channel =>
      { server with
        loop := (server.loop.removeChannel channel).1
        listenChannel := none }
  if 0 ≤ server.listenFd then
    { server with loop := server.loop.close server.listenFd, listenFd := -1 }
  else server

/-- The `Channel` that the server holds for a descriptor. -/
def heldChannel (server : SocketServer Input Buffer) (fd : Int) : Option Channel :=
  match server.clients.lookup fd with
  | some client => some client.channel
  | none => if fd = server.listenFd then server.listenChannel else none

end SocketServer

/-! ## Runs -/

/-- The callbacks of a server's channels, `stop`, and the other components. -/
inductive ServerAction (Input : Type) where
  | accept (results : List AcceptResult)
  | read (clientFd : Int) (recvs : List (RecvResult Input)) (sends : List SendResult)
    (granted : Bool)
  | write (clientFd : Int) (sends : List SendResult) (granted : Bool)
  | error (clientFd : Int)
  | stop
  | foreign (change : ForeignChange)
deriving DecidableEq

/-- The handlers in which the two servers differ. -/
structure ServerHandlers (Input Buffer : Type) where
  empty : Buffer
  handleClientRead : SocketServer Input Buffer → Int → List (RecvResult Input) →
    List SendResult → Bool → SocketServer Input Buffer
  handleClientWrite : SocketServer Input Buffer → Int → List SendResult → Bool →
    SocketServer Input Buffer

/-- One callback, one call of `stop` or one change by another component. The event loop
    calls `handleAccept` through the listening channel. -/
def SocketServer.perform {Input Buffer : Type} (handlers : ServerHandlers Input Buffer)
    (server : SocketServer Input Buffer) :
    ServerAction Input → Option (SocketServer Input Buffer)
  | .accept results =>
    if server.listenChannel.isSome then server.acceptClients handlers.empty results else none
  | .read clientFd recvs sends granted =>
    some (handlers.handleClientRead server clientFd recvs sends granted)
  | .write clientFd sends granted =>
    some (handlers.handleClientWrite server clientFd sends granted)
  | .error clientFd => some (server.removeClient clientFd)
  | .stop => some server.stop
  | .foreign change =>
    (server.loop.foreignChange change).map fun loop => { server with loop := loop }

/-- The runs of a started server on a loop that other components use too. -/
def socketServerSystem {Input Buffer : Type} (handlers : ServerHandlers Input Buffer) :
    TransitionSystem (SocketServer Input Buffer) (ServerAction Input) where
  init server := ∃ (loop : EventLoop Input) (nextAddress : Nat) (fd : Int) (granted : Bool),
    (∀ fd address, loop.channels fd ≠ some (.own address)) ∧ loop.trace = [] ∧
      SocketServer.openListener loop nextAddress fd granted = some server
  step server action := server.perform handlers action

end EdgeLink
