import EdgeLink.Native.UnixDomainServer
import EdgeLink.Spec.SocketServerCorrect

/-! # Control responses in order

A `UnixDomainServer` answers the requests of a client in order: the responses sent so far
and those in `outputMessages` are the non-empty responses to the requests received so far.

* `sendLoop_spec`, `updateClientEvents_serverInv`: the two parts of `handleClientWrite`.
* `lawfulHandlers`: both handlers keep `ServerInv controlStream`.
* `control_responses_in_order`: the property of every client in every reachable state. -/

namespace EdgeLink

open DescriptorTrace SocketServer

/-- The non-empty responses to a list of requests, in order. -/
def nonEmptyResponses (requests : List ControlRequest) : List Bytes :=
  (requests.map controlResponse).filter fun response => !response.isEmpty

/-- The stream of a control client. -/
def controlStream : StreamSpec ControlRequest (List Bytes) where
  related received sent outputMessages :=
    sent ++ outputMessages = nonEmptyResponses received
  pending outputMessages := outputMessages ≠ []

namespace UnixDomainServer

variable {server : UnixDomainServer} {fd : Int} {client : ClientState (List Bytes)}

/-- A request adds its response at the end, if it is not empty. -/
theorem related_enqueue (received : List ControlRequest) (sent outputMessages : List Bytes)
    (request : ControlRequest) (h : controlStream.related received sent outputMessages) :
    controlStream.related (received ++ [request]) sent
      (enqueueResponse outputMessages request) := by
  have h : sent ++ outputMessages = nonEmptyResponses received := h
  show sent ++ enqueueResponse outputMessages request = nonEmptyResponses (received ++ [request])
  simp only [enqueueResponse, nonEmptyResponses, List.map_append, List.filter_append]
  rw [← nonEmptyResponses, ← h]
  cases hempty : (controlResponse request).isEmpty with
  | true => simp [hempty]
  | false => simp [hempty]

/-! ## Sending -/

/-- The messages that are left after a sequence of `send` results. -/
def unsentMessages : List Bytes → List SendResult → List Bytes
  | message :: remaining, .wrote count :: sends =>
    if count = message.length then unsentMessages remaining sends else message :: remaining
  | outputMessages, .interrupted :: sends => unsentMessages outputMessages sends
  | outputMessages, _ => outputMessages

/-- How a sequence of `send` results ends. -/
def sendEnding : List Bytes → List SendResult → SendEnd
  | [], _ => .drained
  | message :: remaining, .wrote count :: sends =>
    if count = message.length then sendEnding remaining sends else .failed
  | outputMessages, .interrupted :: sends => sendEnding outputMessages sends
  | _, .failed :: _ => .failed
  | _, _ => .wouldBlock

@[simp] theorem unsentMessages_nil (sends : List SendResult) : unsentMessages [] sends = [] := by
  induction sends with
  | nil => rfl
  | cons result sends ih =>
    cases result with
    | interrupted => exact ih
    | wrote | wouldBlock | failed => rfl

/-- The loop has sent everything exactly when nothing is left. -/
theorem sendEnding_drained_iff (outputMessages : List Bytes) (sends : List SendResult) :
    sendEnding outputMessages sends = .drained ↔ unsentMessages outputMessages sends = [] := by
  induction sends generalizing outputMessages with
  | nil => cases outputMessages <;> simp [sendEnding, unsentMessages]
  | cons result sends ih =>
    cases outputMessages with
    | nil => simp [sendEnding]
    | cons message remaining =>
      cases result with
      | wouldBlock | failed => simp [sendEnding, unsentMessages]
      | interrupted => exact ih (message :: remaining)
      | wrote count =>
        simp only [sendEnding, unsentMessages]
        split
        · exact ih remaining
        · simp

/-- What the loop around `send` does from `loop` with a queue. -/
structure SendsFront (fd : Int) (loop : EventLoop ControlRequest) (outputMessages : List Bytes)
    (sends : List SendResult) (phase : Int → DescriptorPhase)
    (result : EventLoop ControlRequest × List Bytes × SendEnd) : Prop where
  tracks : Tracks result.1 phase
  sent : ∃ new, outputMessages = new ++ unsentMessages outputMessages sends ∧
    result.1.transfers fd = ((loop.transfers fd).1, (loop.transfers fd).2 ++ new)
  others : ∀ fd', fd' ≠ fd → result.1.transfers fd' = loop.transfers fd'
  rest : result.2 = (unsentMessages outputMessages sends, sendEnding outputMessages sends)

/-- A `send` that transfers nothing and ends the loop. -/
private theorem sendsFront_stop {sends : List SendResult} {loop : EventLoop ControlRequest}
    {outputMessages : List Bytes} {phase : Int → DescriptorPhase} (h : Tracks loop phase)
    (hopen : phase fd ≠ .closed)
    (hunsent : unsentMessages outputMessages sends = outputMessages) :
    SendsFront fd loop outputMessages sends phase
      (loop.record (.used fd), outputMessages, sendEnding outputMessages sends) := by
  constructor
  case tracks => exact h.used hopen
  case sent =>
    refine ⟨[], by rw [hunsent]; rfl, ?_⟩
    rw [List.append_nil]
    rfl
  case others => exact fun _ _ => rfl
  case rest => rw [hunsent]

/-- The loop around `send` sends whole messages from the front of the queue. -/
theorem sendLoop_spec (sends : List SendResult) (outputMessages : List Bytes)
    {loop : EventLoop ControlRequest} {phase : Int → DescriptorPhase} (h : Tracks loop phase)
    (hopen : phase fd ≠ .closed) :
    SendsFront fd loop outputMessages sends phase (sendLoop fd loop outputMessages sends) := by
  induction sends generalizing loop outputMessages with
  | nil =>
    cases outputMessages with
    | nil => exact ⟨h, ⟨[], rfl, by rw [List.append_nil]; rfl⟩, fun _ _ => rfl, rfl⟩
    | cons message remaining => exact sendsFront_stop h hopen rfl
  | cons result sends ih =>
    cases outputMessages with
    | nil =>
      have hdone : sendLoop fd loop [] (result :: sends) = (loop, [], .drained) := by
        cases result <;> rfl
      rw [hdone]
      refine ⟨h, ⟨[], by simp, by rw [List.append_nil]⟩, fun _ _ => rfl, ?_⟩
      rw [unsentMessages_nil]
      rfl
    | cons message remaining =>
      cases result with
      | wouldBlock | failed => exact sendsFront_stop h hopen rfl
      -- the same message is tried again
      | interrupted =>
        obtain ⟨htracks, ⟨new, hqueue, htransfers⟩, hothers, hrest⟩ :=
          ih (message :: remaining) (h.used hopen)
        exact ⟨htracks, ⟨new, hqueue, htransfers⟩, hothers, hrest⟩
      | wrote count =>
        by_cases hwhole : count = message.length
        · -- the whole message leaves the queue, and the loop goes on with the next one
          obtain ⟨htracks, ⟨new, hqueue, htransfers⟩, hothers, hrest⟩ :=
            ih remaining (h.sent hopen message)
          simp only [sendLoop, if_pos hwhole]
          constructor
          case tracks => exact htracks
          case sent =>
            refine ⟨message :: new, ?_, ?_⟩
            · simp only [unsentMessages, if_pos hwhole]
              rw [List.cons_append, ← hqueue]
            · rw [htransfers, EventLoop.transfers_sent_self, List.append_assoc]
              rfl
          case others =>
            intro fd' heq
            rw [hothers fd' heq, EventLoop.transfers_sent_ne heq.symm]
          case rest => simp only [unsentMessages, sendEnding, if_pos hwhole, hrest]
        · -- a short write keeps the message in the queue; the client is removed for it
          have hstop : sendLoop fd loop (message :: remaining) (.wrote count :: sends) =
              (loop.record (.used fd), message :: remaining, .failed) := by
            simp only [sendLoop, if_neg hwhole]
          have hfailed : sendEnding (message :: remaining) (.wrote count :: sends) =
              .failed := by simp only [sendEnding, if_neg hwhole]
          rw [hstop, ← hfailed]
          exact sendsFront_stop h hopen (by simp only [unsentMessages, if_neg hwhole])

/-! ## The mask -/

/-- `updateClientEvents` gives the client the mask for its queue, or removes it. -/
theorem updateClientEvents_serverInv (hkept : Kept server)
    (hothers : OthersKept controlStream server fd)
    (hlookup : server.clients.lookup fd = some client)
    (hrelated : controlStream.related (server.loop.transfers fd).1
      (server.loop.transfers fd).2 client.output) {events : UInt32}
    (hmask : AsksForOutput events ↔ controlStream.pending client.output) (granted : Bool) :
    ServerInv controlStream (updateClientEvents server fd events granted).1 := by
  simp only [updateClientEvents, hlookup]
  split
  · -- the mask is the wanted one already
    rename_i hsame
    refine ⟨hkept, fun fd' found hfound => ?_⟩
    by_cases heq : fd' = fd
    · subst heq
      obtain rfl := Option.some.inj (hlookup.symm.trans hfound)
      exact ⟨hrelated, by rw [hsame]; exact hmask⟩
    · exact hothers fd' found heq hfound
  · have hne := hkept.ne_listenFd hlookup
    obtain ⟨removed, added, hremoved, hadded, htransfers, htracks⟩ :=
      reregister hkept hlookup events granted
    simp only [hremoved, hadded]
    cases granted with
    | true =>
      apply serverInv_insert hkept hothers
        { client with channel := client.channel.setEvents events } hne htracks
        (fun fd' _ => htransfers fd')
      constructor
      case related =>
        rw [htransfers]
        exact hrelated
      case mask => exact hmask
    | false =>
      -- the client leaves the map together with its descriptor
      have hclosed := htracks.close (Function.update_self _ _ _)
      rw [Function.update_idem] at hclosed
      exact serverInv_erase hkept hothers hne hclosed fun fd' _ => htransfers fd'

/-- `handleClientWrite` sends from the front of the queue, and the way its loop ends decides
    what comes next. -/
theorem handleClientWrite_eq (hkept : Kept server)
    (hlookup : server.clients.lookup fd = some client) (sends : List SendResult)
    (granted : Bool) :
    ∃ loop new, client.output = new ++ unsentMessages client.output sends ∧
      Tracks loop server.phase ∧
      loop.transfers fd = ((server.loop.transfers fd).1, (server.loop.transfers fd).2 ++ new) ∧
      (∀ fd', fd' ≠ fd → loop.transfers fd' = server.loop.transfers fd') ∧
      handleClientWrite server fd sends granted =
        let sent := SocketServer.setOutput { server with loop := loop } fd client
          (unsentMessages client.output sends)
        match sendEnding client.output sends with
        | .wouldBlock =>
          (updateClientEvents sent fd (EPOLLIN ||| EPOLLOUT ||| EPOLLRDHUP) granted).1
        | .failed => sent.removeClient fd
        | .drained => (updateClientEvents sent fd (EPOLLIN ||| EPOLLRDHUP) granted).1 := by
  obtain ⟨htracks, ⟨new, hqueue, htransfers⟩, hothers, hrest⟩ :=
    sendLoop_spec sends client.output hkept.tracks (phase_client_open hlookup)
  refine ⟨_, new, hqueue, htracks, htransfers, hothers, ?_⟩
  cases hend : sendEnding client.output sends <;> rw [hend] at hrest <;>
    simp only [handleClientWrite, hlookup, hrest]

/-- The queue after `handleClientWrite` still fits what was received and sent. -/
theorem related_unsent {loop : EventLoop ControlRequest} {new outputMessages : List Bytes}
    {sends : List SendResult}
    (hrelated : controlStream.related (server.loop.transfers fd).1
      (server.loop.transfers fd).2 outputMessages)
    (hqueue : outputMessages = new ++ unsentMessages outputMessages sends)
    (htransfers : loop.transfers fd =
      ((server.loop.transfers fd).1, (server.loop.transfers fd).2 ++ new)) :
    controlStream.related (loop.transfers fd).1 (loop.transfers fd).2
      (unsentMessages outputMessages sends) := by
  have hsplit : (server.loop.transfers fd).2 ++ outputMessages =
      nonEmptyResponses (server.loop.transfers fd).1 := hrelated
  show (loop.transfers fd).2 ++ _ = nonEmptyResponses (loop.transfers fd).1
  rw [htransfers, List.append_assoc, ← hqueue]
  exact hsplit

/-- `handleClientWrite` restores the promise for a client whose queue has changed. -/
theorem handleClientWrite_serverInv (hkept : Kept server)
    (hothers : OthersKept controlStream server fd)
    (hlookup : server.clients.lookup fd = some client)
    (hrelated : controlStream.related (server.loop.transfers fd).1
      (server.loop.transfers fd).2 client.output) (sends : List SendResult) (granted : Bool) :
    ServerInv controlStream (handleClientWrite server fd sends granted) := by
  obtain ⟨loop, new, hqueue, htracks, htransfers, hsame, hwrite⟩ :=
    handleClientWrite_eq hkept hlookup sends granted
  rw [hwrite]
  have hdrained := sendEnding_drained_iff client.output sends
  have hstream := related_unsent hrelated hqueue htransfers
  have hsent := hkept.setOutput hlookup htracks (unsentMessages client.output sends)
  have hsentOthers : OthersKept controlStream (SocketServer.setOutput
      { server with loop := loop } fd client (unsentMessages client.output sends)) fd :=
    hothers.setOutput hsame _
  cases hending : sendEnding client.output sends with
  | wouldBlock =>
    -- something is left, so the mask has to ask for `EPOLLOUT`
    apply updateClientEvents_serverInv hsent hsentOthers (AList.lookup_insert _) hstream
    apply iff_of_true (by decide)
    intro hnone
    rw [hdrained.mpr hnone] at hending
    cases hending
  | failed => exact removeClient_serverInv hsent hsentOthers
  | drained =>
    apply updateClientEvents_serverInv hsent hsentOthers (AList.lookup_insert _) hstream
    exact iff_of_false (by decide) (not_not.mpr (hdrained.mp hending))

/-- Both handlers keep the promise for every client. -/
theorem lawfulHandlers : LawfulHandlers controlStream handlers := by
  constructor
  case related_empty => rfl
  case idle_empty => exact fun hpending => hpending rfl
  case read =>
    intro server fd recvs sends granted h
    simp only [handlers, handleClientRead]
    apply readClient_serverInv related_enqueue _ h
    intro server client hkept hothers hlookup hrelated
    exact handleClientWrite_serverInv hkept hothers hlookup hrelated sends granted
  case write =>
    intro server fd sends granted h
    cases hlookup : server.clients.lookup fd with
    | none =>
      simp only [handlers, handleClientWrite, hlookup]
      exact h
    | some client =>
      exact handleClientWrite_serverInv h.kept (h.others fd) hlookup
        (h.clients fd client hlookup).related sends granted

end UnixDomainServer

end EdgeLink
