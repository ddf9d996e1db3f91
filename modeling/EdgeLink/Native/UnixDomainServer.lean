import EdgeLink.Native.SocketServer

/-! # Unix domain server

`unix_domain_server.cpp`: the control server. Every message of a `SOCK_SEQPACKET` client is
a request; the responses wait in `outputMessages`. -/

namespace EdgeLink

def MaxControlMessageSize : Nat := 4096

/-- What happens when a request is handed to `messageHandler_`. -/
inductive HandlerOutcome where
  | missing
  | threw
  | returned (response : Bytes)
deriving DecidableEq

/-- A message of a client, and the outcome of handling it. `recv` with `MSG_TRUNC` returns
    the length of the whole message. -/
structure ControlRequest where
  message : Bytes
  outcome : HandlerOutcome
deriving DecidableEq

/-- The response that `handleClientRead` makes. -/
def controlResponse (request : ControlRequest) : Bytes :=
  if MaxControlMessageSize < request.message.length then
    ascii "ERROR: control message is too large"
  else
    match request.outcome with
    | .missing => ascii "ERROR: no message handler"
    | .threw => ascii "ERROR: handler failed"
    | .returned response => response

/-- A `UnixDomainServer`; the buffer of a client is its `outputMessages`. -/
abbrev UnixDomainServer := SocketServer ControlRequest (List Bytes)

namespace UnixDomainServer

/-- `UnixDomainServer::updateClientEvents`. -/
def updateClientEvents (server : UnixDomainServer) (clientFd : Int) (events : UInt32)
    (granted : Bool) : UnixDomainServer × Bool :=
  match server.clients.lookup clientFd with
  | none => (server, false)
  | some client =>
    if client.channel.events = events then (server, true)
    else
      match server.loop.removeChannel client.channel with
      | (loop, false) => ({ server with loop := loop }, false)
      | (loop, true) =>
        let channel := client.channel.setEvents events
        match loop.addChannel channel granted with
        | (loop, false) =>
          -- the channel is not registered any more
          ({ server with
             loop := loop.close clientFd
             clients := server.clients.erase clientFd }, false)
        | (loop, true) =>
          ({ server with
             loop := loop
             clients := server.clients.insert clientFd { client with channel := channel } },
            true)

/-- The loop of `handleClientWrite`. -/
def sendLoop (clientFd : Int) (loop : EventLoop ControlRequest) (outputMessages : List Bytes)
    (sends : List SendResult) : EventLoop ControlRequest × List Bytes × SendEnd :=
  match outputMessages with
  | [] => (loop, [], .drained)
  | message :: remaining =>
    match sends with
    | [] => (loop.record (.used clientFd), message :: remaining, .wouldBlock)
    | .wrote count :: sends =>
      -- `send` on a `SOCK_SEQPACKET` socket writes a message as a whole or not at all
      if count = message.length then
        sendLoop clientFd (loop.record (.sent clientFd message)) remaining sends
      else (loop.record (.used clientFd), message :: remaining, .failed)
    | .interrupted :: sends =>
      sendLoop clientFd (loop.record (.used clientFd)) (message :: remaining) sends
    | .wouldBlock :: _ => (loop.record (.used clientFd), message :: remaining, .wouldBlock)
    | .failed :: _ => (loop.record (.used clientFd), message :: remaining, .failed)
termination_by structural sends

/-- `UnixDomainServer::handleClientWrite`. -/
def handleClientWrite (server : UnixDomainServer) (clientFd : Int) (sends : List SendResult)
    (granted : Bool) : UnixDomainServer :=
  match server.clients.lookup clientFd with
  | none => server
  | some client =>
    let (loop, outputMessages, ending) := sendLoop clientFd server.loop client.output sends
    let server := { server with loop := loop }.setOutput clientFd client outputMessages
    match ending with
    | .wouldBlock =>
      (updateClientEvents server clientFd (EPOLLIN ||| EPOLLOUT ||| EPOLLRDHUP) granted).1
    | .failed => server.removeClient clientFd
    | .drained => (updateClientEvents server clientFd (EPOLLIN ||| EPOLLRDHUP) granted).1

/-- A response that is not empty is queued. -/
def enqueueResponse (outputMessages : List Bytes) (request : ControlRequest) : List Bytes :=
  let response := controlResponse request
  if response.isEmpty then outputMessages else outputMessages ++ [response]

/-- `UnixDomainServer::handleClientRead`. -/
def handleClientRead (server : UnixDomainServer) (clientFd : Int)
    (recvs : List (RecvResult ControlRequest)) (sends : List SendResult) (granted : Bool) :
    UnixDomainServer :=
  SocketServer.readClient (fun request => request.message.length) enqueueResponse
    (fun server => handleClientWrite server clientFd sends granted) server clientFd recvs

/-- The handlers of a `UnixDomainServer`. -/
def handlers : ServerHandlers ControlRequest (List Bytes) where
  empty := []
  handleClientRead := handleClientRead
  handleClientWrite := handleClientWrite

end UnixDomainServer

/-- The runs of a started `UnixDomainServer`. -/
def unixDomainServerSystem : TransitionSystem UnixDomainServer (ServerAction ControlRequest) :=
  socketServerSystem UnixDomainServer.handlers

end EdgeLink
