import EdgeLink.Native.TcpServer
import EdgeLink.Spec.SocketServerCorrect

/-! # Echo stream integrity

A `TcpServer` sends back what it has received: for every client, the bytes sent so far and
the unsent part of its buffer are the bytes received so far.

* `sendLoop_spec`, `updateClientEvents_serverInv`: the two parts of `handleClientWrite`.
* `lawfulHandlers`: both handlers keep `ServerInv tcpStream`.
* `echo_stream_integrity`: the property of every client in every reachable state. -/

namespace EdgeLink

open DescriptorTrace SocketServer

/-- The stream of an echo client. -/
def tcpStream : StreamSpec Bytes TcpOutput where
  related received sent output :=
    sent.flatten ++ output.outputBuffer.drop output.writeOffset = received.flatten ∧
      output.writeOffset ≤ output.outputBuffer.length
  pending output := output.writeOffset < output.outputBuffer.length

/-- Removing a key forgets what was inserted under it. -/
theorem erase_insert_clients {Buffer : Type} (clients : AList fun _ : Int => ClientState Buffer)
    (fd : Int) (client : ClientState Buffer) :
    (clients.insert fd client).erase fd = clients.erase fd := by
  apply AList.ext
  show List.kerase fd (List.kinsert fd client clients.entries) = List.kerase fd clients.entries
  rw [List.kinsert_def]
  have hfirst : List.kerase fd (⟨fd, client⟩ :: List.kerase fd clients.entries) =
      List.kerase fd clients.entries := List.kerase_cons_eq rfl
  exact hfirst

namespace TcpServer

variable {server : TcpServer} {fd : Int} {client : ClientState TcpOutput}

/-- The received chunk goes behind the unsent bytes. -/
theorem related_append (received sent : List Bytes) (output : TcpOutput) (input : Bytes)
    (h : tcpStream.related received sent output) :
    tcpStream.related (received ++ [input]) sent
      { output with outputBuffer := output.outputBuffer ++ input } := by
  obtain ⟨hstream, hoffset⟩ := h
  constructor
  · rw [List.flatten_append, List.flatten_singleton, ← hstream,
      List.drop_append_of_le_length hoffset, List.append_assoc]
  · dsimp only
    rw [List.length_append]
    omega

/-- A partial send moves bytes from the buffer to the peer. -/
theorem related_sent (received sent : List Bytes) (output : TcpOutput) (count : Nat)
    (h : tcpStream.related received sent output) :
    tcpStream.related received
      (sent ++ [(output.outputBuffer.drop output.writeOffset).take
        (min count (output.outputBuffer.drop output.writeOffset).length)])
      { output with
        writeOffset := output.writeOffset +
          min count (output.outputBuffer.drop output.writeOffset).length } := by
  obtain ⟨hstream, hoffset⟩ := h
  constructor
  · dsimp only
    rw [List.flatten_append, List.flatten_singleton, ← List.drop_drop, List.append_assoc,
      List.take_append_drop]
    exact hstream
  · dsimp only
    rw [List.length_drop]
    omega

/-- The loop around `send` sends from the buffer and stops where the kernel does. -/
theorem sendLoop_spec (sends : List SendResult) {loop : EventLoop Bytes} {state : TcpOutput}
    {phase : Int → DescriptorPhase} (h : Tracks loop phase) (hopen : phase fd ≠ .closed)
    (hrelated : tcpStream.related (loop.transfers fd).1 (loop.transfers fd).2 state) :
    Tracks (sendLoop fd loop state sends).1 phase ∧
      tcpStream.related ((sendLoop fd loop state sends).1.transfers fd).1
        ((sendLoop fd loop state sends).1.transfers fd).2 (sendLoop fd loop state sends).2.1 ∧
      (∀ fd', fd' ≠ fd →
        (sendLoop fd loop state sends).1.transfers fd' = loop.transfers fd') ∧
      ((sendLoop fd loop state sends).2.2 = .wouldBlock →
        tcpStream.pending (sendLoop fd loop state sends).2.1) ∧
      ((sendLoop fd loop state sends).2.2 = .drained →
        ¬ tcpStream.pending (sendLoop fd loop state sends).2.1) := by
  -- the stream equation is kept by each partial send, so it holds wherever the loop stops
  induction sends generalizing loop state with
  | nil =>
    simp only [sendLoop]
    split
    · rename_i hpending
      exact ⟨h.used hopen, hrelated, fun _ _ => rfl, fun _ => hpending, fun h => nomatch h⟩
    · rename_i hdrained
      exact ⟨h, hrelated, fun _ _ => rfl, fun h => (nomatch h), fun _ => hdrained⟩
  | cons result sends ih =>
    by_cases hpending : state.writeOffset < state.outputBuffer.length
    · cases result with
      | wouldBlock =>
        simp only [sendLoop, if_pos hpending]
        exact ⟨h.used hopen, hrelated, fun _ _ => rfl, fun _ => hpending, fun h => nomatch h⟩
      | failed =>
        simp only [sendLoop, if_pos hpending]
        exact ⟨h.used hopen, hrelated, fun _ _ => rfl, fun h => (nomatch h),
          fun h => nomatch h⟩
      | interrupted =>
        simp only [sendLoop, if_pos hpending]
        exact ih (h.used hopen) hrelated
      | wrote count =>
        simp only [sendLoop, if_pos hpending]
        split
        · have hmoved := related_sent _ _ state count hrelated
          obtain ⟨htracks, hstream, hothers, hblocked, hdrained⟩ :=
            ih (h.sent hopen _) (by rw [EventLoop.transfers_sent_self]; exact hmoved)
          refine ⟨htracks, hstream, ?_, hblocked, hdrained⟩
          intro fd' heq
          rw [hothers fd' heq, EventLoop.transfers_sent_ne heq.symm]
        · exact ⟨h.used hopen, hrelated, fun _ _ => rfl, fun h => (nomatch h),
            fun h => nomatch h⟩
    · have hdrained : sendLoop fd loop state (result :: sends) = (loop, state, .drained) := by
        cases result <;> simp only [sendLoop, if_neg hpending]
      rw [hdrained]
      exact ⟨h, hrelated, fun _ _ => rfl, fun h => (nomatch h), fun _ => hpending⟩

/-- `updateClientEvents` gives the client the mask for its buffer, or removes it. -/
theorem updateClientEvents_serverInv (hkept : Kept server)
    (hothers : OthersKept tcpStream server fd)
    (hlookup : server.clients.lookup fd = some client)
    (hrelated : tcpStream.related (server.loop.transfers fd).1 (server.loop.transfers fd).2
      client.output) {events : UInt32}
    (hmask : AsksForOutput events ↔ tcpStream.pending client.output) (granted : Bool) :
    ServerInv tcpStream (updateClientEvents server fd events granted).1 := by
  have hne := hkept.ne_listenFd hlookup
  obtain ⟨removed, added, hremoved, hadded, htransfers, htracks⟩ :=
    reregister hkept hlookup events granted
  simp only [updateClientEvents, hlookup, hremoved, hadded]
  cases granted with
  | true =>
    apply serverInv_insert hkept hothers
      { client with channel := client.channel.setEvents events } hne htracks
      (fun fd' _ => htransfers fd')
    constructor
    case related =>
      rw [htransfers]
      exact hrelated
    case mask => exact hmask
  | false =>
    -- `removeClient` finds the channel unregistered and only closes the descriptor
    have hclosed := (htracks.removeChannel_opened (client.channel.setEvents events)
      (hkept.channel_fd hlookup) (Function.update_self _ _ _)).close
      (Function.update_self _ _ _)
    rw [Function.update_idem] at hclosed
    simp only [removeClient, AList.lookup_insert, erase_insert_clients]
    exact serverInv_erase hkept hothers hne hclosed fun fd' _ => by
      rw [EventLoop.transfers_close, EventLoop.transfers_removeChannel, htransfers]

/-- `handleClientWrite` restores the promise for a client whose buffer has changed. -/
theorem handleClientWrite_serverInv (hkept : Kept server)
    (hothers : OthersKept tcpStream server fd)
    (hlookup : server.clients.lookup fd = some client)
    (hrelated : tcpStream.related (server.loop.transfers fd).1 (server.loop.transfers fd).2
      client.output) (sends : List SendResult) (granted : Bool) :
    ServerInv tcpStream (handleClientWrite server fd sends granted) := by
  have hopen := phase_client_open hlookup
  obtain ⟨htracks, hstream, htransfers, hblocked, hdrained⟩ :=
    sendLoop_spec sends hkept.tracks hopen hrelated
  simp only [handleClientWrite, hlookup]
  generalize sendLoop fd server.loop client.output sends = result
    at htracks hstream htransfers hblocked hdrained
  obtain ⟨loop, state, ending⟩ := result
  dsimp only at htracks hstream htransfers hblocked hdrained ⊢
  have hsent (output : TcpOutput) := hkept.setOutput hlookup htracks output
  have hsentOthers (output : TcpOutput) : OthersKept tcpStream
      (SocketServer.setOutput { server with loop := loop } fd client output) fd :=
    hothers.setOutput htransfers output
  cases ending with
  | wouldBlock =>
    apply updateClientEvents_serverInv (hsent state) (hsentOthers state)
      (AList.lookup_insert _) hstream
    exact iff_of_true (by decide) (hblocked rfl)
  | failed => exact removeClient_serverInv (hsent state) (hsentOthers state)
  | drained =>
    have hempty : SocketServer.setOutput
        (SocketServer.setOutput { server with loop := loop } fd client state) fd client
          { outputBuffer := [], writeOffset := 0 } =
        SocketServer.setOutput { server with loop := loop } fd client
          { outputBuffer := [], writeOffset := 0 } := by
      simp only [setOutput, AList.insert_insert]
    rw [hempty]
    apply updateClientEvents_serverInv (hsent _) (hsentOthers _) (AList.lookup_insert _)
    · -- everything that was received has been sent
      obtain ⟨hstream, hoffset⟩ := hstream
      have hall : state.outputBuffer.drop state.writeOffset = [] :=
        List.drop_eq_nil_of_le (not_lt.mp (hdrained rfl))
      rw [hall] at hstream
      exact ⟨hstream, le_rfl⟩
    · exact iff_of_false (by decide) (Nat.lt_irrefl 0)

/-- Both handlers keep the promise for every client. -/
theorem lawfulHandlers : LawfulHandlers tcpStream handlers := by
  constructor
  case related_empty => exact ⟨rfl, le_rfl⟩
  case idle_empty => exact Nat.lt_irrefl 0
  case read =>
    intro server fd recvs sends granted h
    simp only [handlers, handleClientRead]
    apply readClient_serverInv related_append _ h
    intro server client hkept hothers hlookup hrelated
    exact handleClientWrite_serverInv hkept hothers hlookup hrelated sends granted
  case write =>
    intro server fd sends granted h
    cases hlookup : server.clients.lookup fd with
    | none =>
      simp only [handlers, handleClientWrite, hlookup]
      exact h
    | some client =>
      exact handleClientWrite_serverInv h.kept (h.others fd) hlookup
        (h.clients fd client hlookup).related sends granted

end TcpServer

/-- For every client of a reachable server: the bytes sent, followed by the unsent part of
    the buffer, are the bytes received; the offset stays within the buffer; and the
    registered mask contains `EPOLLOUT` exactly when bytes are unsent. -/
theorem echo_stream_integrity {server : TcpServer}
    (h : tcpServerSystem.Reachable TransitionSystem.anyStep server) {fd : Int}
    {client : ClientState TcpOutput} (hlookup : server.clients.lookup fd = some client) :
    (outputs fd server.loop.trace).flatten ++
        client.output.outputBuffer.drop client.output.writeOffset =
      (inputs fd server.loop.trace).flatten ∧
    client.output.writeOffset ≤ client.output.outputBuffer.length ∧
    ∃ mask, server.loop.interest fd = some mask ∧
      (AsksForOutput mask ↔
        client.output.writeOffset < client.output.outputBuffer.length) := by
  have hinv := TcpServer.lawfulHandlers.serverInv h
  have hclient := hinv.clients fd client hlookup
  obtain ⟨hinterest, -⟩ := hinv.kept.tracks.interest fd client.channel (phase_client hlookup)
  exact ⟨hclient.related.1, hclient.related.2, client.channel.events, hinterest, hclient.mask⟩

/-- A client whose second chunk comes in while the first one is sent in part. -/
theorem echo_stream_integrity_partial_send :
    ∃ (server : TcpServer) (client : ClientState TcpOutput),
      server.clients.lookup 7 = some client ∧
        client.output = { outputBuffer := [1, 2, 3, 4], writeOffset := 3 } ∧
        (outputs 7 server.loop.trace).flatten ++
            client.output.outputBuffer.drop client.output.writeOffset =
          (inputs 7 server.loop.trace).flatten := by
  obtain ⟨server, -, hreach, hpending⟩ := TransitionSystem.exists_of_run tcpServerSystem
    TransitionSystem.anyStep
    [.accept [.accepted 7 true],
      .read 7 [.received [1, 2], .wouldBlock] [.wrote 1, .wouldBlock] true,
      .read 7 [.interrupted, .received [3, 4]] [.interrupted, .wrote 2, .wouldBlock] true]
    (fun server => (server.clients.lookup 7).any fun client =>
      client.output = { outputBuffer := [1, 2, 3, 4], writeOffset := 3 })
    (startedServer_init TcpServer.handlers) (by decide)
  obtain ⟨client, hlookup, hpending⟩ := (Option.any_eq_true _ _).mp hpending
  exact ⟨server, client, hlookup, of_decide_eq_true hpending,
    (echo_stream_integrity hreach hlookup).1⟩

end EdgeLink
