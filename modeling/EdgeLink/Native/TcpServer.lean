import EdgeLink.Native.SocketServer

/-! # TCP server

`tcp_server.cpp`: an echo server. What was received waits in `outputBuffer`, of which the
first `writeOffset` bytes are sent. -/

namespace EdgeLink

/-- The buffer fields of `TcpServer::ClientState`. -/
structure TcpOutput where
  outputBuffer : Bytes
  writeOffset : Nat
deriving DecidableEq

/-- A `TcpServer`. -/
abbrev TcpServer := SocketServer Bytes TcpOutput

namespace TcpServer

/-- `TcpServer::updateClientEvents`. -/
def updateClientEvents (server : TcpServer) (clientFd : Int) (events : UInt32)
    (granted : Bool) : TcpServer × Bool :=
  match server.clients.lookup clientFd with
  | none => (server, false)
  | some client =>
    -- also when the mask does not change
    match server.loop.removeChannel client.channel with
    | (loop, false) => ({ server with loop := loop }, false)
    | (loop, true) =>
      let channel := client.channel.setEvents events
      let clients := server.clients.insert clientFd { client with channel := channel }
      match loop.addChannel channel granted with
      -- `removeClient` finds the channel unregistered and closes the descriptor all the same
      | (loop, false) =>
        (SocketServer.removeClient { server with loop := loop, clients := clients } clientFd,
          false)
      | (loop, true) => ({ server with loop := loop, clients := clients }, true)

/-- The loop of `handleClientWrite`. `send` writes at most what it is given. -/
def sendLoop (clientFd : Int) (loop : EventLoop Bytes) (state : TcpOutput)
    (sends : List SendResult) : EventLoop Bytes × TcpOutput × SendEnd :=
  if state.writeOffset < state.outputBuffer.length then
    match sends with
    | [] => (loop.record (.used clientFd), state, .wouldBlock)
    | .wrote count :: sends =>
      let data := state.outputBuffer.drop state.writeOffset
      let bytesWritten := min count data.length
      if 0 < bytesWritten then
        sendLoop clientFd (loop.record (.sent clientFd (data.take bytesWritten)))
          { state with writeOffset := state.writeOffset + bytesWritten } sends
      -- a `send` that writes nothing ends the connection
      else (loop.record (.used clientFd), state, .failed)
    | .interrupted :: sends => sendLoop clientFd (loop.record (.used clientFd)) state sends
    | .wouldBlock :: _ => (loop.record (.used clientFd), state, .wouldBlock)
    | .failed :: _ => (loop.record (.used clientFd), state, .failed)
  else (loop, state, .drained)
termination_by structural sends

/-- `TcpServer::handleClientWrite`. -/
def handleClientWrite (server : TcpServer) (clientFd : Int) (sends : List SendResult)
    (granted : Bool) : TcpServer :=
  match server.clients.lookup clientFd with
  | none => server
  | some client =>
    let (loop, state, ending) := sendLoop clientFd server.loop client.output sends
    let server := { server with loop := loop }.setOutput clientFd client state
    match ending with
    | .wouldBlock =>
      (updateClientEvents server clientFd (EPOLLIN ||| EPOLLOUT ||| EPOLLRDHUP) granted).1
    | .failed => server.removeClient clientFd
    | .drained =>
      let server := server.setOutput clientFd client { outputBuffer := [], writeOffset := 0 }
      (updateClientEvents server clientFd (EPOLLIN ||| EPOLLRDHUP) granted).1

/-- `TcpServer::handleClientRead`. -/
def handleClientRead (server : TcpServer) (clientFd : Int) (recvs : List (RecvResult Bytes))
    (sends : List SendResult) (granted : Bool) : TcpServer :=
  SocketServer.readClient List.length
    (fun state buffer => { state with outputBuffer := state.outputBuffer ++ buffer })
    (fun server => handleClientWrite server clientFd sends granted) server clientFd recvs

/-- The handlers of a `TcpServer`. -/
def handlers : ServerHandlers Bytes TcpOutput where
  empty := { outputBuffer := [], writeOffset := 0 }
  handleClientRead := handleClientRead
  handleClientWrite := handleClientWrite

end TcpServer

/-- The runs of a started `TcpServer`. -/
def tcpServerSystem : TransitionSystem TcpServer (ServerAction Bytes) :=
  socketServerSystem TcpServer.handlers

end EdgeLink
