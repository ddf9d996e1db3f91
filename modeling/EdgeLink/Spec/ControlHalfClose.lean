import EdgeLink.Spec.UnixDomainServerCorrect

/-! # Half-closed control connections

A control client may shut down its sending side and wait for its responses. The server
sees the end of the input in `handleClientRead`, and removes the client there.

* `Answered fd`: a connection that was closed has sent every non-empty response.
* `ClosesQuietly fd`: when the end of the input is read, no response waits, and a client
  that waits for `EPOLLOUT` keeps its registration.
* `answered_iff_closesQuietly`: over a run of a started server, the first holds after every
  step exactly when the second holds at every step.
* `half_close_loses_response`: a request and the end of the input in one pass. -/

namespace EdgeLink

open DescriptorTrace SocketServer

/-! ## The run -/

namespace UnixDomainServer

variable {server : UnixDomainServer} {fd : Int} {client : ClientState (List Bytes)}

/-- What `recv` returns for a request. -/
abbrev requestLength (request : ControlRequest) : Nat := request.message.length

/-- The queue once a read pass has absorbed its requests. -/
def queueAfter (client : ClientState (List Bytes)) (recvs : List (RecvResult ControlRequest)) :
    List Bytes :=
  client.output ++ nonEmptyResponses (receivedInputs requestLength recvs)

/-- No call on the client's connection fails, other than by `EINTR` or `EAGAIN`, and the
    server goes on. -/
def Orderly (fd : Int) (server : UnixDomainServer) : ServerAction ControlRequest → Prop
  | .accept _ => True
  | .read clientFd recvs sends _ => clientFd = fd → ∀ client ∈ server.clients.lookup fd,
      recvEnding requestLength recvs ≠ .failed ∧
        (recvEnding requestLength recvs = .wouldBlock →
          sendEnding (queueAfter client recvs) sends ≠ .failed)
  | .write clientFd sends _ => clientFd = fd → ∀ client ∈ server.clients.lookup fd,
      sendEnding client.output sends ≠ .failed
  | .error clientFd => clientFd ≠ fd
  | .stop => False
  | .foreign _ => True

instance (fd : Int) (server : UnixDomainServer) :
    ∀ action, Decidable (Orderly fd server action)
  | .accept _ => inferInstanceAs (Decidable True)
  | .read _ _ _ _ => inferInstanceAs (Decidable (_ → ∀ client ∈ _, _ ∧ (_ → _)))
  | .write _ _ _ => inferInstanceAs (Decidable (_ → ∀ client ∈ _, _))
  | .error _ => inferInstanceAs (Decidable (_ ≠ _))
  | .stop => inferInstanceAs (Decidable False)
  | .foreign _ => inferInstanceAs (Decidable True)

/-- Every non-empty response was sent on the connection at `fd`, if it is closed. -/
def Answered (fd : Int) (server : UnixDomainServer) : Prop :=
  fd ∉ server.clients →
    outputs fd server.loop.trace = nonEmptyResponses (inputs fd server.loop.trace)

instance (fd : Int) (server : UnixDomainServer) : Decidable (Answered fd server) :=
  inferInstanceAs (Decidable (_ → _))

/-- The connection at `fd` is answered once the step is done. -/
def AnsweredAfter (fd : Int) (server : UnixDomainServer)
    (action : ServerAction ControlRequest) : Prop :=
  ∀ server' ∈ server.perform handlers action, Answered fd server'

instance (fd : Int) (server : UnixDomainServer) (action : ServerAction ControlRequest) :
    Decidable (AnsweredAfter fd server action) :=
  inferInstanceAs (Decidable (∀ server' ∈ _, _))

/-- A client whose queue is not drained is registered for `EPOLLOUT`. -/
def StaysWhileWaiting (client : ClientState (List Bytes)) (queue : List Bytes)
    (sends : List SendResult) (granted : Bool) : Prop :=
  unsentMessages queue sends ≠ [] →
    client.channel.events = EPOLLIN ||| EPOLLOUT ||| EPOLLRDHUP ∨ granted = true

/-- The end of the input finds nothing that waits, and a client that waits keeps its
    registration. -/
def ClosesQuietly (fd : Int) (server : UnixDomainServer) : ServerAction ControlRequest → Prop
  | .read clientFd recvs sends granted =>
    clientFd = fd → ∀ client ∈ server.clients.lookup fd,
      (recvEnding requestLength recvs = .ended → queueAfter client recvs = []) ∧
        (recvEnding requestLength recvs = .wouldBlock →
          StaysWhileWaiting client (queueAfter client recvs) sends granted)
  | .write clientFd sends granted =>
    clientFd = fd → ∀ client ∈ server.clients.lookup fd,
      StaysWhileWaiting client client.output sends granted
  | _ => True

instance (client : ClientState (List Bytes)) (queue : List Bytes) (sends : List SendResult)
    (granted : Bool) : Decidable (StaysWhileWaiting client queue sends granted) :=
  inferInstanceAs (Decidable (_ → _ ∨ _))

instance (fd : Int) (server : UnixDomainServer) :
    ∀ action, Decidable (ClosesQuietly fd server action)
  | .read _ _ _ _ => inferInstanceAs (Decidable (_ → ∀ client ∈ _, (_ → _) ∧ (_ → _)))
  | .write _ _ _ => inferInstanceAs (Decidable (_ → ∀ client ∈ _, _))
  | .accept _ | .error _ | .stop | .foreign _ => inferInstanceAs (Decidable True)

/-! ## What the handlers do to one client -/

/-- The queue grows by the non-empty responses. -/
theorem foldl_enqueueResponse (requests : List ControlRequest) (outputMessages : List Bytes) :
    requests.foldl enqueueResponse outputMessages =
      outputMessages ++ nonEmptyResponses requests := by
  induction requests generalizing outputMessages with
  | nil => exact (List.append_nil _).symm
  | cons request requests ih =>
    rw [List.foldl_cons, ih]
    simp only [enqueueResponse, nonEmptyResponses, List.map_cons, List.filter_cons]
    cases hempty : (controlResponse request).isEmpty with
    | true => simp
    | false => simp

theorem nonEmptyResponses_append (requests new : List ControlRequest) :
    nonEmptyResponses (requests ++ new) = nonEmptyResponses requests ++ nonEmptyResponses new := by
  simp [nonEmptyResponses]

/-- A step that leaves the descriptor alone. -/
structure SameClient (fd : Int) (server server' : UnixDomainServer) : Prop where
  lookup : server'.clients.lookup fd = server.clients.lookup fd
  transfers : server'.loop.transfers fd = server.loop.transfers fd

theorem SameClient.answered_iff {server' : UnixDomainServer} (h : SameClient fd server server') :
    Answered fd server' ↔ Answered fd server := by
  have htransfers := Prod.mk.inj h.transfers
  rw [Answered, Answered, htransfers.1, htransfers.2, ← AList.lookup_eq_none,
    ← AList.lookup_eq_none, h.lookup]

theorem Answered.of_sameClient {server' : UnixDomainServer} (h : Answered fd server)
    (hsame : SameClient fd server server') : Answered fd server' :=
  hsame.answered_iff.mpr h

theorem SameClient.trans {server₁ server₂ : UnixDomainServer} (h₁ : SameClient fd server server₁)
    (h₂ : SameClient fd server₁ server₂) : SameClient fd server server₂ :=
  ⟨h₂.lookup.trans h₁.lookup, h₂.transfers.trans h₁.transfers⟩

theorem removeClient_sameClient {fd' : Int} (hne : fd ≠ fd') :
    SameClient fd server (server.removeClient fd') := by
  simp only [removeClient]
  split
  · exact ⟨rfl, rfl⟩
  · exact ⟨AList.lookup_erase_ne hne, by simp⟩

theorem updateClientEvents_sameClient {fd' : Int} (hne : fd ≠ fd') (events : UInt32)
    (granted : Bool) :
    SameClient fd server (updateClientEvents server fd' events granted).1 := by
  simp only [updateClientEvents]
  split
  · exact ⟨rfl, rfl⟩
  · rename_i client hlookup
    split
    · exact ⟨rfl, rfl⟩
    · have hremoved : (server.loop.removeChannel client.channel).1.transfers fd =
          server.loop.transfers fd := by simp
      generalize server.loop.removeChannel client.channel = result at hremoved
      obtain ⟨removed, unregistered⟩ := result
      cases unregistered with
      | false => exact ⟨rfl, hremoved⟩
      | true =>
        have hadded : (removed.addChannel (client.channel.setEvents events) granted).1.transfers
            fd = server.loop.transfers fd := by simpa using hremoved
        dsimp only
        generalize removed.addChannel (client.channel.setEvents events) granted = result
          at hadded
        obtain ⟨added, registered⟩ := result
        cases registered with
        | false => exact ⟨AList.lookup_erase_ne hne, hadded⟩
        | true => exact ⟨AList.lookup_insert_ne hne, hadded⟩

theorem handleClientWrite_sameClient (hkept : Kept server) {fd' : Int} (hne : fd ≠ fd')
    (sends : List SendResult) (granted : Bool) :
    SameClient fd server (handleClientWrite server fd' sends granted) := by
  cases hlookup : server.clients.lookup fd' with
  | none =>
    simp only [handleClientWrite, hlookup]
    exact ⟨rfl, rfl⟩
  | some client =>
    obtain ⟨loop, new, -, -, -, hothers, hwrite⟩ :=
      handleClientWrite_eq hkept hlookup sends granted
    rw [hwrite]
    have hsent : SameClient fd server (SocketServer.setOutput { server with loop := loop } fd'
        client (unsentMessages client.output sends)) :=
      ⟨AList.lookup_insert_ne hne, hothers fd hne⟩
    cases sendEnding client.output sends with
    | wouldBlock => exact hsent.trans (updateClientEvents_sameClient hne _ _)
    | failed => exact hsent.trans (removeClient_sameClient hne)
    | drained => exact hsent.trans (updateClientEvents_sameClient hne _ _)

theorem handleClientRead_sameClient (h : ServerInv controlStream server) {fd' : Int}
    (hne : fd ≠ fd') (recvs : List (RecvResult ControlRequest)) (sends : List SendResult)
    (granted : Bool) :
    SameClient fd server (handleClientRead server fd' recvs sends granted) := by
  cases hlookup : server.clients.lookup fd' with
  | none =>
    simp only [handleClientRead, readClient, hlookup]
    exact ⟨rfl, rfl⟩
  | some client =>
    obtain ⟨loop, htracks, -, hothers, hread⟩ := readClient_eq requestLength enqueueResponse
      (fun server => handleClientWrite server fd' sends granted) h.kept hlookup recvs
    rw [handleClientRead, hread]
    generalize (receivedInputs requestLength recvs).foldl enqueueResponse client.output = queue
    have habsorbed : SameClient fd server
        (SocketServer.setOutput { server with loop := loop } fd' client queue) :=
      ⟨AList.lookup_insert_ne hne, hothers fd hne⟩
    cases recvEnding requestLength recvs with
    | wouldBlock =>
      have hkept := h.kept.setOutput hlookup htracks queue
      exact habsorbed.trans (handleClientWrite_sameClient hkept hne sends granted)
    | ended => exact habsorbed.trans (removeClient_sameClient hne)
    | failed => exact habsorbed.trans (removeClient_sameClient hne)

/-- A descriptor that was just opened has nothing to answer. -/
theorem answered_of_transfers_nil (h : server.loop.transfers fd = ([], [])) :
    Answered fd server := by
  have hnil := Prod.mk.inj h
  intro _
  rw [hnil.1, hnil.2]
  rfl

theorem addClient_answered (h : Answered fd server) (clientFd : Int) (granted : Bool) :
    Answered fd (server.addClient [] clientFd granted) := by
  simp only [addClient]
  generalize Channel.mk server.nextAddress clientFd (EPOLLIN ||| EPOLLRDHUP) = channel
  generalize hopened : EventLoop.record
    (EventLoop.record server.loop (.used server.listenFd)) (.opened clientFd) = opened
  have hadded : (opened.addChannel channel granted).1.transfers fd = opened.transfers fd := by
    simp
  generalize opened.addChannel channel granted = result at hadded
  obtain ⟨loop, added⟩ := result
  dsimp only at hadded ⊢
  by_cases heq : clientFd = fd
  · -- the number is given out anew, and what it transferred before does not count
    subst heq
    rw [← hopened, EventLoop.transfers_opened_self] at hadded
    cases added with
    | false => exact answered_of_transfers_nil hadded
    | true => cases server.clients.lookup clientFd <;> exact answered_of_transfers_nil hadded
  · rw [← hopened, EventLoop.transfers_opened_ne heq] at hadded
    cases added with
    | false => exact h.of_sameClient ⟨rfl, hadded⟩
    | true =>
      cases server.clients.lookup clientFd with
      | some found => exact h.of_sameClient ⟨rfl, hadded⟩
      | none =>
        exact h.of_sameClient ⟨AList.lookup_insert_ne (Ne.symm heq), hadded⟩

theorem acceptClients_answered (results : List AcceptResult) {server server' : UnixDomainServer}
    (h : Answered fd server) (haccept : server.acceptClients [] results = some server') :
    Answered fd server' := by
  induction results generalizing server with
  | nil =>
    obtain rfl := Option.some.inj haccept
    exact h
  | cons result results ih =>
    cases result with
    | wouldBlock | failed =>
      obtain rfl := Option.some.inj haccept
      exact h
    | interrupted =>
      refine ih ?_ haccept
      exact h
    | accepted clientFd granted =>
      obtain ⟨-, haccept⟩ := Option.ite_none_left_eq_some.mp haccept
      exact ih (addClient_answered h clientFd granted) haccept

/-- `updateClientEvents` transfers nothing. The client leaves exactly when its channel has
    to be registered anew and that is refused. -/
theorem updateClientEvents_gone_iff (hkept : Kept server)
    (hlookup : server.clients.lookup fd = some client) (events : UInt32) (granted : Bool) :
    (updateClientEvents server fd events granted).1.loop.transfers fd =
        server.loop.transfers fd ∧
      (fd ∉ (updateClientEvents server fd events granted).1.clients ↔
        ¬ (client.channel.events = events ∨ granted = true)) := by
  have hmem : fd ∈ server.clients := AList.lookup_isSome.mp (by rw [hlookup]; rfl)
  simp only [updateClientEvents, hlookup]
  split
  · rename_i hsame
    exact ⟨rfl, iff_of_false (not_not.mpr hmem) (not_not.mpr (.inl hsame))⟩
  · rename_i hother
    obtain ⟨removed, added, hremoved, hadded, htransfers, -⟩ :=
      reregister hkept hlookup events granted
    simp only [hremoved, hadded]
    cases granted with
    | false =>
      refine ⟨htransfers fd, iff_of_true ?_ ?_⟩
      · exact AList.lookup_eq_none.mp (AList.lookup_erase _ _)
      · rintro (hsame | hgranted)
        · exact hother hsame
        · cases hgranted
    | true =>
      refine ⟨htransfers fd, iff_of_false ?_ (not_not.mpr (.inr rfl))⟩
      exact not_not.mpr (AList.mem_insert _ |>.mpr (.inl rfl))

/-- Whether a `handleClientWrite` without a failed `send` leaves a closed connection
    unanswered. -/
theorem handleClientWrite_answered_iff (hkept : Kept server)
    (hlookup : server.clients.lookup fd = some client)
    (hrelated : controlStream.related (server.loop.transfers fd).1
      (server.loop.transfers fd).2 client.output) {sends : List SendResult}
    (horderly : sendEnding client.output sends ≠ .failed) (granted : Bool) :
    Answered fd (handleClientWrite server fd sends granted) ↔
      StaysWhileWaiting client client.output sends granted := by
  obtain ⟨loop, new, hqueue, htracks, htransfers, -, hwrite⟩ :=
    handleClientWrite_eq hkept hlookup sends granted
  rw [hwrite]
  have hdrained := sendEnding_drained_iff client.output sends
  have hsent := hkept.setOutput hlookup htracks (unsentMessages client.output sends)
  have hsplit : (server.loop.transfers fd).2 ++ client.output =
      nonEmptyResponses (server.loop.transfers fd).1 := hrelated
  rw [hqueue, ← List.append_assoc] at hsplit
  obtain ⟨hinputs, houtputs⟩ := Prod.mk.inj htransfers
  cases hending : sendEnding client.output sends with
  | failed => exact absurd hending horderly
  | wouldBlock =>
    have hwaiting : unsentMessages client.output sends ≠ [] := by
      intro hnone
      rw [hdrained.mpr hnone] at hending
      cases hending
    obtain ⟨hsame, hgone⟩ := updateClientEvents_gone_iff hsent
      (AList.lookup_insert _) (EPOLLIN ||| EPOLLOUT ||| EPOLLRDHUP) granted
    obtain ⟨hsameInputs, hsameOutputs⟩ := Prod.mk.inj hsame
    -- the responses that wait were not sent
    have hunanswered : (server.loop.transfers fd).2 ++ new ≠
        nonEmptyResponses (server.loop.transfers fd).1 := by
      intro hall
      rw [← hsplit] at hall
      exact hwaiting (List.append_right_eq_self.mp hall.symm)
    rw [Answered, hgone, hsameInputs, hsameOutputs]
    show (_ → outputs fd loop.trace = nonEmptyResponses (inputs fd loop.trace)) ↔ _
    rw [hinputs, houtputs]
    constructor
    · -- a client that had left would have left with these responses
      intro hanswered _
      by_contra hrefused
      exact hunanswered (hanswered hrefused)
    · intro hstays hrefused
      exact absurd (hstays hwaiting) hrefused
  | drained =>
    have hnone := hdrained.mp hending
    obtain ⟨hsame, -⟩ := updateClientEvents_gone_iff hsent
      (AList.lookup_insert _) (EPOLLIN ||| EPOLLRDHUP) granted
    obtain ⟨hsameInputs, hsameOutputs⟩ := Prod.mk.inj hsame
    apply iff_of_true
    · intro _
      rw [hsameInputs, hsameOutputs]
      show outputs fd loop.trace = nonEmptyResponses (inputs fd loop.trace)
      rw [hinputs, houtputs, ← hsplit, hnone, List.append_nil]
    · exact fun hwaiting => absurd hnone hwaiting

/-- Whether a `handleClientRead` without a failed call leaves a closed connection
    unanswered. -/
theorem handleClientRead_answered_iff (h : ServerInv controlStream server)
    (hlookup : server.clients.lookup fd = some client)
    {recvs : List (RecvResult ControlRequest)} {sends : List SendResult}
    (horderly : recvEnding requestLength recvs ≠ .failed ∧
      (recvEnding requestLength recvs = .wouldBlock →
        sendEnding (queueAfter client recvs) sends ≠ .failed)) (granted : Bool) :
    Answered fd (handleClientRead server fd recvs sends granted) ↔
      (recvEnding requestLength recvs = .ended → queueAfter client recvs = []) ∧
        (recvEnding requestLength recvs = .wouldBlock →
          StaysWhileWaiting client (queueAfter client recvs) sends granted) := by
  obtain ⟨loop, htracks, htransfers, -, hread⟩ := readClient_eq requestLength enqueueResponse
    (fun server => handleClientWrite server fd sends granted) h.kept hlookup recvs
  have hqueue : (receivedInputs requestLength recvs).foldl enqueueResponse client.output =
      queueAfter client recvs := foldl_enqueueResponse _ _
  rw [handleClientRead, hread, hqueue]
  -- the responses to the requests of the pass are at the end of the queue
  have hrelated : controlStream.related (loop.transfers fd).1 (loop.transfers fd).2
      (queueAfter client recvs) := by
    have hbefore : (server.loop.transfers fd).2 ++ client.output =
        nonEmptyResponses (server.loop.transfers fd).1 := (h.clients fd client hlookup).related
    show (loop.transfers fd).2 ++ _ = nonEmptyResponses (loop.transfers fd).1
    rw [htransfers, nonEmptyResponses_append, ← hbefore, queueAfter, List.append_assoc]
  cases hend : recvEnding requestLength recvs with
  | failed => exact absurd hend horderly.1
  | wouldBlock =>
    -- the pass goes on with `handleClientWrite`, on the longer queue
    have hsends := horderly.2 hend
    have hkept := h.kept.setOutput hlookup htracks (queueAfter client recvs)
    refine (handleClientWrite_answered_iff hkept (AList.lookup_insert _) hrelated hsends
      granted).trans ?_
    constructor
    · intro hstays
      refine ⟨fun heq => ?_, fun _ => hstays⟩
      cases heq
    · exact fun hquiet => hquiet.2 rfl
  | ended =>
    -- `removeClient` transfers nothing, so the connection is answered if nothing is queued
    have hgone : fd ∉ (SocketServer.removeClient (SocketServer.setOutput
        { server with loop := loop } fd client (queueAfter client recvs)) fd).clients := by
      simp only [removeClient, SocketServer.setOutput, AList.lookup_insert]
      exact AList.lookup_eq_none.mp (AList.lookup_erase _ _)
    have hsame : (SocketServer.removeClient (SocketServer.setOutput
        { server with loop := loop } fd client (queueAfter client recvs)) fd).loop.transfers fd =
          loop.transfers fd := by
      simp [removeClient, SocketServer.setOutput]
    obtain ⟨hinputs, houtputs⟩ := Prod.mk.inj hsame
    rw [Answered, hinputs, houtputs]
    have hsplit : outputs fd loop.trace ++ queueAfter client recvs =
        nonEmptyResponses (inputs fd loop.trace) := hrelated
    rw [← hsplit]
    constructor
    · intro hanswered
      constructor
      · intro _
        exact List.append_right_eq_self.mp (hanswered hgone).symm
      · intro heq
        cases heq
    · intro hquiet _
      rw [hquiet.1 rfl, List.append_nil]

/-- What is said of the client at `fd`, if there is one, is said of the client there. -/
theorem forall_client_iff (hlookup : server.clients.lookup fd = some client)
    {p : ClientState (List Bytes) → Prop} :
    (∀ found ∈ server.clients.lookup fd, p found) ↔ p client := by
  constructor
  · intro h
    exact h client hlookup
  · intro h found hfound
    obtain rfl := Option.some.inj (hlookup.symm.trans hfound)
    exact h

/-- Nothing is said where there is no client. -/
theorem forall_client_none (hlookup : server.clients.lookup fd = none)
    {p : ClientState (List Bytes) → Prop} :
    ∀ found ∈ server.clients.lookup fd, p found := by
  intro found hfound
  rw [hlookup] at hfound
  cases hfound

/-- Whether an orderly step leaves a closed connection unanswered. -/
theorem answeredAfter_iff (h : ServerInv controlStream server) (hanswered : Answered fd server)
    {action : ServerAction ControlRequest} (horderly : Orderly fd server action) :
    AnsweredAfter fd server action ↔ ClosesQuietly fd server action := by
  have hreads {server' : UnixDomainServer} (hperform :
      server.perform handlers action = some server') :
      AnsweredAfter fd server action ↔ Answered fd server' := by
    rw [AnsweredAfter, hperform]
    simp
  cases action with
  -- a new client has nothing to be answered yet
  | accept results =>
    apply iff_of_true _ trivial
    intro server' hperform
    obtain ⟨-, haccept⟩ := Option.ite_none_right_eq_some.mp hperform
    exact acceptClients_answered results hanswered haccept
  | read clientFd recvs sends granted =>
    rw [hreads rfl]
    show Answered fd (handleClientRead server clientFd recvs sends granted) ↔ _
    by_cases heq : clientFd = fd
    · subst heq
      cases hlookup : server.clients.lookup clientFd with
      | none =>
        have hsame : handleClientRead server clientFd recvs sends granted = server := by
          simp only [handleClientRead, readClient, hlookup]
        rw [hsame]
        exact iff_of_true hanswered fun _ => forall_client_none hlookup
      | some client =>
        rw [handleClientRead_answered_iff h hlookup (horderly rfl client hlookup) granted]
        simp only [ClosesQuietly, forall_client_iff hlookup, true_imp_iff]
    · -- an event of another client
      apply iff_of_true _ fun hsame => absurd hsame heq
      exact hanswered.of_sameClient
        (handleClientRead_sameClient h (Ne.symm heq) recvs sends granted)
  | write clientFd sends granted =>
    rw [hreads rfl]
    show Answered fd (handleClientWrite server clientFd sends granted) ↔ _
    by_cases heq : clientFd = fd
    · subst heq
      cases hlookup : server.clients.lookup clientFd with
      | none =>
        have hsame : handleClientWrite server clientFd sends granted = server := by
          simp only [handleClientWrite, hlookup]
        rw [hsame]
        exact iff_of_true hanswered fun _ => forall_client_none hlookup
      | some client =>
        have hclient := h.clients clientFd client hlookup
        rw [handleClientWrite_answered_iff h.kept hlookup hclient.related
          (horderly rfl client hlookup) granted]
        simp only [ClosesQuietly, forall_client_iff hlookup, true_imp_iff]
    · apply iff_of_true _ fun hsame => absurd hsame heq
      exact hanswered.of_sameClient
        (handleClientWrite_sameClient h.kept (Ne.symm heq) sends granted)
  | error clientFd =>
    rw [hreads rfl]
    have hne : clientFd ≠ fd := horderly
    exact iff_of_true (hanswered.of_sameClient (removeClient_sameClient (Ne.symm hne))) trivial
  | stop => exact absurd horderly id
  | foreign change =>
    apply iff_of_true _ trivial
    intro server' hperform
    obtain ⟨loop, hchange, rfl⟩ := Option.map_eq_some_iff.mp hperform
    exact hanswered.of_sameClient ⟨rfl, EventLoop.transfers_foreignChange hchange⟩

/-- A started server has closed no connection. -/
theorem answered_of_init (hinit : unixDomainServerSystem.init server) : Answered fd server := by
  obtain ⟨loop, nextAddress, listenFd, granted, -, htrace, hopen⟩ := hinit
  exact answered_of_transfers_nil (openListener_transfers htrace hopen)

end UnixDomainServer

open UnixDomainServer in
/-- Over every orderly run of a started server: a connection that is closed has sent every
    non-empty response after each step, exactly when each step closes quietly. -/
theorem answered_iff_closesQuietly {server : UnixDomainServer}
    (hinit : unixDomainServerSystem.init server) (fd : Int)
    (actions : List (ServerAction ControlRequest))
    (horderly : unixDomainServerSystem.EveryStep (Orderly fd) server actions) :
    unixDomainServerSystem.EveryStep (AnsweredAfter fd) server actions ↔
      unixDomainServerSystem.EveryStep (ClosesQuietly fd) server actions := by
  apply TransitionSystem.everyStep_iff_of_invariant (r := Orderly fd)
    fun server => unixDomainServerSystem.Reachable TransitionSystem.anyStep server ∧
      Answered fd server
  case hiff =>
    intro server action hinv horderly
    exact answeredAfter_iff (lawfulHandlers.serverInv hinv.1) hinv.2 horderly
  case hstep =>
    intro server action server' hinv _ hanswered hstep
    exact ⟨.step hinv.1 trivial hstep, hanswered server' hstep⟩
  case hs => exact ⟨.init hinit, answered_of_init hinit⟩
  case hr => exact horderly

/-- Two requests, of which the second is answered only when the socket takes output again,
    and then the end of the input. -/
theorem answered_iff_closesQuietly_after_waiting :
    unixDomainServerSystem.EveryStep (UnixDomainServer.AnsweredAfter 7) startedServer
      [.accept [.accepted 7 true],
        .read 7 [.received ⟨[1], .returned [2]⟩, .received ⟨[1], .returned [3]⟩]
          [.wrote 1, .wouldBlock] true,
        .write 7 [.interrupted, .wrote 1] true,
        .read 7 [.received ⟨[], .missing⟩] [] true] :=
  (answered_iff_closesQuietly (startedServer_init UnixDomainServer.handlers) 7 _
    (by decide)).mpr (by decide)

/-- A client sends a request and shuts down its sending side before the server reads: the
    pass that queues the response also reads the end of the input, and the client is removed
    with its queue. -/
theorem half_close_loses_response :
    ¬ ∀ (server : UnixDomainServer) (fd : Int) (actions : List (ServerAction ControlRequest)),
      unixDomainServerSystem.init server →
      unixDomainServerSystem.EveryStep (UnixDomainServer.Orderly fd) server actions →
      unixDomainServerSystem.EveryStep (UnixDomainServer.AnsweredAfter fd) server actions := by
  intro h
  have hanswered := h startedServer 7
    [.accept [.accepted 7 true],
      .read 7 [.received ⟨[1], .returned [2]⟩, .received ⟨[], .missing⟩] [] true]
    (startedServer_init UnixDomainServer.handlers) (by decide)
  exact absurd hanswered (by decide)

end EdgeLink
