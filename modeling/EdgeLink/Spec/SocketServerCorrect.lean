import EdgeLink.Native.SocketServer
import EdgeLink.Spec.EventLoopCorrect

/-! # Socket server correctness

What holds between the handlers of a `TcpServer` and of a `UnixDomainServer`, as far as
they share their code.

* `Kept`: the descriptors. The phases of `Tracks` are those of the channels that the
  server holds: its listening channel and the channels in `clients_`.
* `ServerInv`: besides, what each client has received and sent fits its output buffer,
  and its mask asks for `EPOLLOUT` exactly when output is pending. What "fits" and
  "pending" mean is given by a `StreamSpec`.
* `LawfulHandlers.serverInv`: the two handlers of a server keep the invariant, so it
  holds in every reachable state. -/

namespace EdgeLink

open DescriptorTrace

variable {Input Buffer : Type}

/-! ## Transfers -/

/-- What was received and sent on a descriptor since it was opened. -/
def EventLoop.transfers (loop : EventLoop Input) (fd : Int) : List Input × List Bytes :=
  (inputs fd loop.trace, outputs fd loop.trace)

namespace EventLoop

variable {loop : EventLoop Input} {fd fd' : Int}

@[simp] theorem transfers_used : (loop.record (.used fd')).transfers fd = loop.transfers fd :=
  rfl

@[simp] theorem transfers_opened_self : (loop.record (.opened fd)).transfers fd = ([], []) := by
  simp [transfers, record]

theorem transfers_opened_ne (h : fd' ≠ fd) :
    (loop.record (.opened fd')).transfers fd = loop.transfers fd := by
  simp [transfers, record, inputs_opened_ne h, outputs_opened_ne h]

@[simp] theorem transfers_received_self (input : Input) :
    (loop.record (.received fd input)).transfers fd =
      ((loop.transfers fd).1 ++ [input], (loop.transfers fd).2) := by
  simp [transfers, record]

theorem transfers_received_ne (h : fd' ≠ fd) (input : Input) :
    (loop.record (.received fd' input)).transfers fd = loop.transfers fd := by
  simp [transfers, record, inputs_received_ne h]

@[simp] theorem transfers_sent_self (output : Bytes) :
    (loop.record (.sent fd output)).transfers fd =
      ((loop.transfers fd).1, (loop.transfers fd).2 ++ [output]) := by
  simp [transfers, record]

theorem transfers_sent_ne (h : fd' ≠ fd) (output : Bytes) :
    (loop.record (.sent fd' output)).transfers fd = loop.transfers fd := by
  simp [transfers, record, outputs_sent_ne h]

@[simp] theorem transfers_close : (loop.close fd').transfers fd = loop.transfers fd := rfl

@[simp] theorem transfers_addChannel (channel : Channel) (granted : Bool) :
    (loop.addChannel channel granted).1.transfers fd = loop.transfers fd := by
  simp only [addChannel]
  split <;> rfl

@[simp] theorem transfers_removeChannel (channel : Channel) :
    (loop.removeChannel channel).1.transfers fd = loop.transfers fd := by
  simp only [removeChannel]
  split <;> rfl

theorem transfers_foreignChange {change : ForeignChange} {loop' : EventLoop Input}
    (h : loop.foreignChange change = some loop') : loop'.transfers fd = loop.transfers fd := by
  cases change with
  | opened | closed | added | removed =>
    obtain ⟨-, hloop⟩ := Option.ite_none_right_eq_some.mp h
    obtain rfl := Option.some.inj hloop
    rfl

end EventLoop

namespace SocketServer

/-! ## The channels that a server holds -/

/-- The phase of each descriptor, as far as the server knows it. -/
def phase (server : SocketServer Input Buffer) (fd : Int) : DescriptorPhase :=
  (server.heldChannel fd).elim .closed .registered

/-- Between handlers: the loop tracks the channels that the server holds, and the
    listening socket is not among the clients. -/
structure Kept (server : SocketServer Input Buffer) : Prop where
  tracks : Tracks server.loop server.phase
  listening : ∀ channel, server.listenChannel = some channel →
    server.clients.lookup server.listenFd = none ∧ 0 ≤ server.listenFd
  stopped : server.listenChannel = none → server.listenFd < 0

section

variable {server : SocketServer Input Buffer} {fd : Int} {client : ClientState Buffer}

theorem heldChannel_client (h : server.clients.lookup fd = some client) :
    server.heldChannel fd = some client.channel := by
  simp only [heldChannel, h]

theorem phase_client (h : server.clients.lookup fd = some client) :
    server.phase fd = .registered client.channel := by
  rw [phase, heldChannel_client h]
  rfl

/-- A client's descriptor is open. -/
theorem phase_client_open (h : server.clients.lookup fd = some client) :
    server.phase fd ≠ .closed := by
  rw [phase_client h]
  intro heq
  cases heq

/-- Only the map of clients and the listening channel matter. -/
theorem phase_insert (server : SocketServer Input Buffer) (loop : EventLoop Input)
    (nextAddress : Nat) (fd : Int) (client : ClientState Buffer) :
    SocketServer.phase
      { server with
        loop := loop, nextAddress := nextAddress, clients := server.clients.insert fd client } =
      Function.update server.phase fd (.registered client.channel) := by
  funext fd'
  by_cases heq : fd' = fd
  · subst heq
    simp [phase, heldChannel]
  · rw [Function.update_of_ne heq]
    simp [phase, heldChannel, AList.lookup_insert_ne heq]

/-- A client's descriptor is not the listening one. -/
theorem Kept.ne_listenFd (h : Kept server) (hlookup : server.clients.lookup fd = some client) :
    ∀ channel, server.listenChannel = some channel → server.listenFd ≠ fd := by
  rintro channel hlisten rfl
  rw [(h.listening channel hlisten).1] at hlookup
  exact nomatch hlookup

theorem phase_erase (server : SocketServer Input Buffer) (loop : EventLoop Input) (fd : Int)
    (hne : ∀ channel, server.listenChannel = some channel → server.listenFd ≠ fd) :
    SocketServer.phase { server with loop := loop, clients := server.clients.erase fd } =
      Function.update server.phase fd .closed := by
  funext fd'
  by_cases heq : fd' = fd
  · subst heq
    cases hlisten : server.listenChannel with
    | none => simp [phase, heldChannel]
    | some channel =>
      have hother := (hne channel hlisten).symm
      simp [phase, heldChannel, hother]
  · rw [Function.update_of_ne heq]
    simp [phase, heldChannel, AList.lookup_erase_ne heq]

/-- Without clients only the listening channel is held. -/
theorem phase_listening (hclients : server.clients = ∅) {channel : Channel}
    (hlisten : server.listenChannel = some channel) :
    server.phase =
      Function.update (fun _ => .closed) server.listenFd (.registered channel) := by
  funext fd
  by_cases heq : fd = server.listenFd
  · rw [heq, Function.update_self]
    simp [phase, heldChannel, hclients, hlisten]
  · rw [Function.update_of_ne heq]
    simp [phase, heldChannel, hclients, heq]

/-- A server that was stopped holds nothing. -/
theorem phase_stopped (hclients : server.clients = ∅) (hlisten : server.listenChannel = none) :
    server.phase = fun _ => .closed := by
  funext fd
  simp [phase, heldChannel, hclients, hlisten]

/-- The descriptor of a client's channel is the key of the client. -/
theorem Kept.channel_fd (h : Kept server) (hlookup : server.clients.lookup fd = some client) :
    client.channel.fd = fd :=
  (h.tracks.interest fd client.channel (phase_client hlookup)).2

/-- The state at a descriptor is replaced, or a new client comes in. -/
theorem Kept.insert (h : Kept server) (client : ClientState Buffer)
    (hne : ∀ channel, server.listenChannel = some channel → server.listenFd ≠ fd)
    {loop : EventLoop Input}
    (htracks : Tracks loop (Function.update server.phase fd (.registered client.channel)))
    (nextAddress : Nat) :
    Kept
      { server with
        loop := loop, nextAddress := nextAddress,
        clients := server.clients.insert fd client } := by
  constructor
  case tracks =>
    rw [phase_insert]
    exact htracks
  case listening =>
    intro channel hlisten
    obtain ⟨hnone, hnonneg⟩ := h.listening channel hlisten
    exact ⟨by rw [AList.lookup_insert_ne (hne channel hlisten)]; exact hnone, hnonneg⟩
  case stopped => exact h.stopped

/-- A client leaves the map when its descriptor is closed. -/
theorem Kept.erase (h : Kept server)
    (hne : ∀ channel, server.listenChannel = some channel → server.listenFd ≠ fd)
    {loop : EventLoop Input} (htracks : Tracks loop (Function.update server.phase fd .closed)) :
    Kept { server with loop := loop, clients := server.clients.erase fd } := by
  constructor
  case tracks =>
    rw [phase_erase server loop fd hne]
    exact htracks
  case listening =>
    intro channel hlisten
    obtain ⟨hnone, hnonneg⟩ := h.listening channel hlisten
    exact ⟨by rw [AList.lookup_erase_ne (hne channel hlisten)]; exact hnone, hnonneg⟩
  case stopped => exact h.stopped

/-- The server uses the listening socket. -/
theorem Kept.listenFd_open (h : Kept server) (hlisten : server.listenChannel.isSome) :
    server.phase server.listenFd ≠ .closed := by
  obtain ⟨channel, hchannel⟩ := Option.isSome_iff_exists.mp hlisten
  rw [phase, heldChannel, (h.listening channel hchannel).1, hchannel]
  simp

end

end SocketServer

/-! ## Streams -/

/-- What a server promises about a client: how its output buffer is related to what was
    received and sent, and when output is pending. -/
structure StreamSpec (Input Buffer : Type) where
  related : List Input → List Bytes → Buffer → Prop
  pending : Buffer → Prop

/-- The promise for the client at `fd`. -/
structure ClientKept (spec : StreamSpec Input Buffer) (loop : EventLoop Input) (fd : Int)
    (client : ClientState Buffer) : Prop where
  related : spec.related (loop.transfers fd).1 (loop.transfers fd).2 client.output
  mask : AsksForOutput client.channel.events ↔ spec.pending client.output

/-- The promise only depends on the transfers. -/
theorem ClientKept.of_transfers {spec : StreamSpec Input Buffer} {loop loop' : EventLoop Input}
    {fd : Int} {client : ClientState Buffer} (h : ClientKept spec loop fd client)
    (htransfers : loop'.transfers fd = loop.transfers fd) : ClientKept spec loop' fd client := by
  constructor
  case related => rw [htransfers]; exact h.related
  case mask => exact h.mask

namespace SocketServer

/-- The promise holds for every client but the one that a handler is working on. -/
def OthersKept (spec : StreamSpec Input Buffer) (server : SocketServer Input Buffer)
    (fd : Int) : Prop :=
  ∀ fd' client, fd' ≠ fd → server.clients.lookup fd' = some client →
    ClientKept spec server.loop fd' client

/-- Between handlers. -/
structure ServerInv (spec : StreamSpec Input Buffer) (server : SocketServer Input Buffer) :
    Prop where
  kept : Kept server
  clients : ∀ fd client, server.clients.lookup fd = some client →
    ClientKept spec server.loop fd client

variable {spec : StreamSpec Input Buffer} {server : SocketServer Input Buffer} {fd : Int}
  {client : ClientState Buffer}

theorem ServerInv.others (h : ServerInv spec server) (fd : Int) : OthersKept spec server fd :=
  fun fd' client _ hlookup => h.clients fd' client hlookup

/-- The handled client gets its promise back, or a new client gets one. -/
theorem serverInv_insert (hkept : Kept server) (hothers : OthersKept spec server fd)
    (client : ClientState Buffer)
    (hne : ∀ channel, server.listenChannel = some channel → server.listenFd ≠ fd)
    {loop : EventLoop Input}
    (htracks : Tracks loop (Function.update server.phase fd (.registered client.channel)))
    (htransfers : ∀ fd', fd' ≠ fd → loop.transfers fd' = server.loop.transfers fd')
    (hclient : ClientKept spec loop fd client) (nextAddress : Nat) :
    ServerInv spec
      { server with
        loop := loop, nextAddress := nextAddress,
        clients := server.clients.insert fd client } := by
  constructor
  case kept => exact hkept.insert client hne htracks nextAddress
  case clients =>
    intro fd' found hfound
    by_cases heq : fd' = fd
    · subst heq
      rw [AList.lookup_insert] at hfound
      obtain rfl := Option.some.inj hfound
      exact hclient
    · rw [AList.lookup_insert_ne heq] at hfound
      exact (hothers fd' found heq hfound).of_transfers (htransfers fd' heq)

/-- The handled client is gone. -/
theorem serverInv_erase (hkept : Kept server) (hothers : OthersKept spec server fd)
    (hne : ∀ channel, server.listenChannel = some channel → server.listenFd ≠ fd)
    {loop : EventLoop Input} (htracks : Tracks loop (Function.update server.phase fd .closed))
    (htransfers : ∀ fd', fd' ≠ fd → loop.transfers fd' = server.loop.transfers fd') :
    ServerInv spec { server with loop := loop, clients := server.clients.erase fd } := by
  constructor
  case kept => exact hkept.erase hne htracks
  case clients =>
    intro fd' found hfound
    by_cases heq : fd' = fd
    · subst heq
      rw [AList.lookup_erase] at hfound
      exact nomatch hfound
    · rw [AList.lookup_erase_ne heq] at hfound
      exact (hothers fd' found heq hfound).of_transfers (htransfers fd' heq)

/-- A client's output is replaced after calls that have changed no phase. -/
theorem Kept.setOutput (hkept : Kept server) (hlookup : server.clients.lookup fd = some client)
    {loop : EventLoop Input} (htracks : Tracks loop server.phase) (output : Buffer) :
    Kept (SocketServer.setOutput { server with loop := loop } fd client output) := by
  apply hkept.insert { client with output := output } (hkept.ne_listenFd hlookup) _
    server.nextAddress
  rw [← phase_client hlookup, Function.update_eq_self]
  exact htracks

/-- The other clients keep their promise while one client's output is replaced. -/
theorem OthersKept.setOutput (hothers : OthersKept spec server fd) {loop : EventLoop Input}
    (htransfers : ∀ fd', fd' ≠ fd → loop.transfers fd' = server.loop.transfers fd')
    (output : Buffer) :
    OthersKept spec (SocketServer.setOutput { server with loop := loop } fd client output)
      fd := by
  intro fd' found heq hfound
  rw [SocketServer.setOutput, AList.lookup_insert_ne heq] at hfound
  exact (hothers fd' found heq hfound).of_transfers (htransfers fd' heq)

/-- A client's channel is removed and added with other events: nothing is transferred, and
    the kernel's answer decides whether the descriptor is registered. -/
theorem reregister (hkept : Kept server) (hlookup : server.clients.lookup fd = some client)
    (events : UInt32) (granted : Bool) :
    ∃ removed added, server.loop.removeChannel client.channel = (removed, true) ∧
      removed.addChannel (client.channel.setEvents events) granted = (added, granted) ∧
      (∀ fd', added.transfers fd' = server.loop.transfers fd') ∧
      Tracks added (Function.update server.phase fd
        (if granted then .registered (client.channel.setEvents events) else .opened)) := by
  have hfd := hkept.channel_fd hlookup
  obtain ⟨hremoved, htracks⟩ := hkept.tracks.removeChannel (phase_client hlookup)
  have htransfers : ∀ fd', (server.loop.removeChannel client.channel).1.transfers fd' =
      server.loop.transfers fd' := fun fd' => by simp
  have hunregistered := EventLoop.interest_removeChannel server.loop client.channel
  generalize server.loop.removeChannel client.channel = result
    at hremoved htracks htransfers hunregistered
  obtain ⟨removed, unregistered⟩ := result
  obtain rfl : unregistered = true := hremoved
  dsimp only at htracks htransfers hunregistered
  -- the first call has made room for the second, which only the kernel can refuse now
  have hadd := htracks.addChannel (client.channel.setEvents events) hfd
    (Function.update_self _ _ _) granted
  have haddTransfers : ∀ fd',
      (removed.addChannel (client.channel.setEvents events) granted).1.transfers fd' =
        server.loop.transfers fd' := fun fd' => by simp [htransfers]
  have hanswer := EventLoop.addChannel_of_unregistered (client.channel.setEvents events)
    hunregistered granted
  generalize hresult : removed.addChannel (client.channel.setEvents events) granted = result
    at hadd haddTransfers hanswer
  obtain ⟨added, registered⟩ := result
  obtain rfl : registered = granted := hanswer
  refine ⟨removed, added, rfl, hresult, haddTransfers, ?_⟩
  cases hadd with
  | inl hregistered =>
    obtain ⟨hgranted, hregistered⟩ := hregistered
    obtain rfl : registered = true := hgranted
    rw [Function.update_idem] at hregistered
    exact hregistered
  | inr hrefused =>
    obtain ⟨hgranted, hrefused⟩ := hrefused
    obtain rfl : registered = false := hgranted
    exact hrefused

/-! ## The shared handlers -/

/-- `removeClient` does not ask for the promise of the client that it removes. -/
theorem removeClient_serverInv (hkept : Kept server) (hothers : OthersKept spec server fd) :
    ServerInv spec (server.removeClient fd) := by
  simp only [removeClient]
  split
  · rename_i hnone
    refine ⟨hkept, fun fd' client hlookup => hothers fd' client ?_ hlookup⟩
    rintro rfl
    rw [hnone] at hlookup
    exact nomatch hlookup
  · rename_i client hlookup
    exact serverInv_erase hkept hothers (hkept.ne_listenFd hlookup)
      (hkept.tracks.drop (phase_client hlookup)) fun fd' _ => by simp

/-- A server that only has called something on its listening socket. -/
theorem useListenFd_serverInv (h : ServerInv spec server)
    (hlisten : server.listenChannel.isSome) :
    ServerInv spec { server with loop := server.loop.record (.used server.listenFd) } := by
  constructor
  case kept =>
    exact ⟨h.kept.tracks.used (h.kept.listenFd_open hlisten), h.kept.listening,
      h.kept.stopped⟩
  case clients =>
    intro fd client hlookup
    exact (h.clients fd client hlookup).of_transfers rfl

/-- The body of `handleAccept` for an accepted descriptor. -/
theorem addClient_serverInv (h : ServerInv spec server) (hlisten : server.listenChannel.isSome)
    {empty : Buffer} (hrelated : spec.related [] [] empty) (hidle : ¬ spec.pending empty)
    (hfree : server.loop.isFree fd = true) (granted : Bool) :
    ServerInv spec (server.addClient empty fd granted) := by
  -- a free number is closed, so it is neither the listening socket's nor a client's
  have hclosed := h.kept.tracks.closed_of_isFree hfree
  have hopen := h.kept.listenFd_open hlisten
  have hne : ∀ channel, server.listenChannel = some channel → server.listenFd ≠ fd := by
    rintro channel - rfl
    exact hopen hclosed
  have hnone : server.clients.lookup fd = none := by
    cases hlookup : server.clients.lookup fd with
    | none => rfl
    | some client =>
      rw [phase_client hlookup] at hclosed
      exact nomatch hclosed
  have hopened := (h.kept.tracks.used hopen).opened (show
    EventLoop.isFree (server.loop.record (.used server.listenFd)) fd = true from hfree)
  have htransfers : ∀ fd', fd' ≠ fd →
      ((server.loop.record (.used server.listenFd)).record (.opened fd)).transfers fd' =
        server.loop.transfers fd' := by
    intro fd' heq
    rw [EventLoop.transfers_opened_ne heq.symm]
    rfl
  simp only [addClient]
  generalize hchannel : (Channel.mk server.nextAddress fd (EPOLLIN ||| EPOLLRDHUP)) = channel
  have hfd : channel.fd = fd := by rw [← hchannel]
  have hevents : channel.events = EPOLLIN ||| EPOLLRDHUP := by rw [← hchannel]
  have hadd := hopened.addChannel channel hfd (Function.update_self _ _ _) granted
  have haddTransfers : ∀ fd', (EventLoop.addChannel ((server.loop.record
      (.used server.listenFd)).record (.opened fd)) channel granted).1.transfers fd' =
      ((server.loop.record (.used server.listenFd)).record (.opened fd)).transfers fd' :=
    fun fd' => by simp
  generalize EventLoop.addChannel _ channel granted = result at hadd haddTransfers
  obtain ⟨loop, added⟩ := result
  cases hadd with
  | inl hadded =>
    obtain ⟨hresult, htracks⟩ := hadded
    obtain rfl : added = true := hresult
    rw [Function.update_idem] at htracks
    simp only [hnone]
    apply serverInv_insert h.kept (h.others fd) _ hne htracks
    · intro fd' heq
      rw [haddTransfers, htransfers fd' heq]
    · constructor
      case related =>
        -- what an earlier client transferred under the same number does not count
        rw [haddTransfers, EventLoop.transfers_opened_self]
        exact hrelated
      case mask =>
        apply iff_of_false _ hidle
        dsimp only
        rw [hevents]
        decide
  | inr hrefused =>
    -- the refused descriptor is closed again
    obtain ⟨hresult, htracks⟩ := hrefused
    obtain rfl : added = false := hresult
    have hclose := htracks.close (Function.update_self _ _ _)
    rw [Function.update_idem, ← hclosed, Function.update_eq_self] at hclose
    constructor
    case kept => exact ⟨hclose, h.kept.listening, h.kept.stopped⟩
    case clients =>
      intro fd' client hlookup
      have heq : fd' ≠ fd := by
        rintro rfl
        rw [hnone] at hlookup
        exact nomatch hlookup
      apply (h.clients fd' client hlookup).of_transfers
      rw [EventLoop.transfers_close, haddTransfers, htransfers fd' heq]

/-- `handleAccept`. -/
theorem acceptClients_serverInv {empty : Buffer} (hrelated : spec.related [] [] empty)
    (hidle : ¬ spec.pending empty) (results : List AcceptResult)
    {server server' : SocketServer Input Buffer} (h : ServerInv spec server)
    (hlisten : server.listenChannel.isSome)
    (haccept : server.acceptClients empty results = some server') : ServerInv spec server' := by
  induction results generalizing server with
  | nil =>
    obtain rfl := Option.some.inj haccept
    exact useListenFd_serverInv h hlisten
  | cons result results ih =>
    cases result with
    | wouldBlock | failed =>
      obtain rfl := Option.some.inj haccept
      exact useListenFd_serverInv h hlisten
    | interrupted => exact ih (useListenFd_serverInv h hlisten) hlisten haccept
    | accepted fd granted =>
      obtain ⟨hfree, haccept⟩ := Option.ite_none_left_eq_some.mp haccept
      rw [not_or] at hfree
      have hfree : server.loop.isFree fd = true := by simpa using hfree.2
      -- taking a client in does not touch the listening socket
      have hlistenChannel :
          (server.addClient empty fd granted).listenChannel = server.listenChannel := by
        simp only [addClient]
        split
        · rfl
        · split <;> rfl
      exact ih (addClient_serverInv h hlisten hrelated hidle hfree granted)
        (by rw [hlistenChannel]; exact hlisten) haccept

/-! ### Reading -/

/-- The inputs that a sequence of `recv` results brings. -/
def receivedInputs (bytesRead : Input → Nat) : List (RecvResult Input) → List Input
  | .received input :: results =>
    if 0 < bytesRead input then input :: receivedInputs bytesRead results else []
  | .interrupted :: results => receivedInputs bytesRead results
  | _ => []

/-- How a sequence of `recv` results ends. -/
def recvEnding (bytesRead : Input → Nat) : List (RecvResult Input) → RecvEnd
  | .received input :: results =>
    if 0 < bytesRead input then recvEnding bytesRead results else .ended
  | .interrupted :: results => recvEnding bytesRead results
  | .failed :: _ => .failed
  | _ => .wouldBlock

/-- The loop around `recv` absorbs what was received, in order, and touches nothing
    else. -/
theorem recvLoop_spec (bytesRead : Input → Nat) (absorb : Buffer → Input → Buffer)
    (results : List (RecvResult Input)) (output : Buffer) {loop : EventLoop Input}
    {phase : Int → DescriptorPhase} (h : Tracks loop phase) (hopen : phase fd ≠ .closed) :
    Tracks (recvLoop bytesRead absorb fd loop output results).1 phase ∧
      (recvLoop bytesRead absorb fd loop output results).1.transfers fd =
        ((loop.transfers fd).1 ++ receivedInputs bytesRead results, (loop.transfers fd).2) ∧
      (∀ fd', fd' ≠ fd → (recvLoop bytesRead absorb fd loop output results).1.transfers fd' =
        loop.transfers fd') ∧
      (recvLoop bytesRead absorb fd loop output results).2.1 =
        (receivedInputs bytesRead results).foldl absorb output ∧
      (recvLoop bytesRead absorb fd loop output results).2.2 =
        recvEnding bytesRead results := by
  -- the call that ends the loop transfers nothing
  have hstop : Tracks (loop.record (.used fd)) phase ∧
      (loop.record (.used fd)).transfers fd =
        ((loop.transfers fd).1 ++ [], (loop.transfers fd).2) ∧
      (∀ fd', fd' ≠ fd → (loop.record (.used fd)).transfers fd' = loop.transfers fd') := by
    refine ⟨h.used hopen, ?_, fun _ _ => rfl⟩
    rw [List.append_nil]
    rfl
  induction results generalizing loop output with
  | nil => exact ⟨hstop.1, hstop.2.1, hstop.2.2, rfl, rfl⟩
  | cons result results ih =>
    cases result with
    | wouldBlock | failed => exact ⟨hstop.1, hstop.2.1, hstop.2.2, rfl, rfl⟩
    | interrupted =>
      obtain ⟨htracks, htransfers, hothers, houtput, hending⟩ :=
        ih output (h.used hopen)
          ⟨(h.used hopen).used hopen, by rw [List.append_nil]; rfl, fun _ _ => rfl⟩
      exact ⟨htracks, htransfers, hothers, houtput, hending⟩
    | received input =>
      by_cases hlength : 0 < bytesRead input
      · have hreceived := h.received hopen input
        obtain ⟨htracks, htransfers, hothers, houtput, hending⟩ :=
          ih (absorb output input) hreceived
            ⟨hreceived.used hopen, by rw [List.append_nil]; rfl, fun _ _ => rfl⟩
        simp only [recvLoop, receivedInputs, recvEnding, if_pos hlength]
        refine ⟨htracks, ?_, ?_, houtput, hending⟩
        · rw [htransfers, EventLoop.transfers_received_self, List.append_assoc]
          rfl
        · intro fd' heq
          rw [hothers fd' heq, EventLoop.transfers_received_ne heq.symm]
      · simp only [recvLoop, receivedInputs, recvEnding, if_neg hlength]
        exact ⟨hstop.1, hstop.2.1, hstop.2.2, rfl, trivial⟩

/-- What fits one input fits a sequence of them. -/
theorem related_foldl {absorb : Buffer → Input → Buffer}
    (habsorb : ∀ received sent output input, spec.related received sent output →
      spec.related (received ++ [input]) sent (absorb output input))
    (new : List Input) {received : List Input} {sent : List Bytes} {output : Buffer}
    (h : spec.related received sent output) :
    spec.related (received ++ new) sent (new.foldl absorb output) := by
  induction new generalizing received output with
  | nil =>
    rw [List.append_nil]
    exact h
  | cons input new ih =>
    rw [List.append_cons]
    exact ih (habsorb received sent output input h)

/-- A read pass absorbs what was received, and the way its loop ends decides what comes
    next. -/
theorem readClient_eq (bytesRead : Input → Nat) (absorb : Buffer → Input → Buffer)
    (handleClientWrite : SocketServer Input Buffer → SocketServer Input Buffer)
    (hkept : Kept server) (hlookup : server.clients.lookup fd = some client)
    (recvs : List (RecvResult Input)) :
    ∃ loop, Tracks loop server.phase ∧
      loop.transfers fd = ((server.loop.transfers fd).1 ++ receivedInputs bytesRead recvs,
        (server.loop.transfers fd).2) ∧
      (∀ fd', fd' ≠ fd → loop.transfers fd' = server.loop.transfers fd') ∧
      readClient bytesRead absorb handleClientWrite server fd recvs =
        let absorbed := SocketServer.setOutput { server with loop := loop } fd client
          ((receivedInputs bytesRead recvs).foldl absorb client.output)
        match recvEnding bytesRead recvs with
        | .wouldBlock => handleClientWrite absorbed
        | .ended => absorbed.removeClient fd
        | .failed => absorbed.removeClient fd := by
  obtain ⟨htracks, htransfers, hothers, houtput, hending⟩ :=
    recvLoop_spec bytesRead absorb recvs client.output hkept.tracks (phase_client_open hlookup)
  refine ⟨_, htracks, htransfers, hothers, ?_⟩
  cases hend : recvEnding bytesRead recvs <;> rw [hend] at hending <;>
    simp only [readClient, hlookup, houtput, hending]

/-- `handleClientRead`, given that `handleClientWrite` restores the promise for the client
    whose buffer has grown. -/
theorem readClient_serverInv {bytesRead : Input → Nat} {absorb : Buffer → Input → Buffer}
    (habsorb : ∀ received sent output input, spec.related received sent output →
      spec.related (received ++ [input]) sent (absorb output input))
    {handleClientWrite : SocketServer Input Buffer → SocketServer Input Buffer}
    (hwrite : ∀ server client, Kept server → OthersKept spec server fd →
      server.clients.lookup fd = some client →
      spec.related (server.loop.transfers fd).1 (server.loop.transfers fd).2 client.output →
      ServerInv spec (handleClientWrite server))
    (h : ServerInv spec server) (recvs : List (RecvResult Input)) :
    ServerInv spec (readClient bytesRead absorb handleClientWrite server fd recvs) := by
  cases hlookup : server.clients.lookup fd with
  | none =>
    simp only [readClient, hlookup]
    exact h
  | some client =>
    obtain ⟨loop, htracks, htransfers, hothers, hread⟩ :=
      readClient_eq bytesRead absorb handleClientWrite h.kept hlookup recvs
    rw [hread]
    generalize houtput : (receivedInputs bytesRead recvs).foldl absorb client.output = output
    have hkept := h.kept.setOutput hlookup htracks output
    have hothersKept : OthersKept spec
        (SocketServer.setOutput { server with loop := loop } fd client output) fd :=
      (h.others fd).setOutput hothers output
    cases recvEnding bytesRead recvs with
    | wouldBlock =>
      refine hwrite _ { client with output := output } hkept hothersKept
        (AList.lookup_insert _) ?_
      show spec.related (loop.transfers fd).1 (loop.transfers fd).2 output
      rw [htransfers, ← houtput]
      exact related_foldl habsorb _ (h.clients fd client hlookup).related
    -- the client leaves, so its promise is not asked for
    | ended => exact removeClient_serverInv hkept hothersKept
    | failed => exact removeClient_serverInv hkept hothersKept

/-! ### Stopping -/

/-- The loop of `stop` closes what the server holds for its clients. -/
theorem closeClients_kept (entries : List (Sigma fun _ : Int => ClientState Buffer))
    {server : SocketServer Input Buffer} (h : Kept server)
    (hentries : server.clients.entries = entries) :
    Kept ({ server with loop := closeClients server.loop entries, clients := ∅ } :
      SocketServer Input Buffer) := by
  -- the map that still is to be closed shrinks by its first entry
  induction entries generalizing server with
  | nil =>
    have hempty : server.clients = ∅ := AList.ext hentries
    rw [← hempty]
    exact h
  | cons entry entries ih =>
    obtain ⟨fd, client⟩ := entry
    have hlookup : server.clients.lookup fd = some client := by
      rw [AList.lookup, hentries]
      exact List.dlookup_cons_eq entries fd client
    have herased := h.erase (h.ne_listenFd hlookup)
      (h.tracks.drop (phase_client hlookup))
    have hrest : (server.clients.erase fd).entries = entries := by
      show List.kerase fd server.clients.entries = entries
      rw [hentries]
      exact List.kerase_cons_eq rfl
    exact ih herased hrest

/-- `stop` closes everything that the server holds. -/
theorem stop_serverInv (h : Kept server) : ServerInv spec server.stop := by
  have hclosed := closeClients_kept server.clients.entries h rfl
  simp only [stop]
  cases hlisten : server.listenChannel with
  | none =>
    have hnone : ¬ 0 ≤ server.listenFd := not_le.mpr (h.stopped hlisten)
    simp only [if_neg hnone]
    rw [hlisten] at hclosed
    exact ⟨hclosed, fun fd client hlookup => nomatch hlookup⟩
  | some channel =>
    have hnonneg := (h.listening channel hlisten).2
    simp only [if_pos hnonneg]
    have hphase : SocketServer.phase
        ({ server with
           loop := closeClients server.loop server.clients.entries
           clients := ∅ } : SocketServer Input Buffer) =
          Function.update (fun _ => .closed) server.listenFd (.registered channel) :=
      phase_listening rfl hlisten
    -- after the clients, the listening socket is all that is open
    have htracks := hclosed.tracks
    rw [hphase] at htracks
    have hdropped := htracks.drop (Function.update_self _ _ _)
    rw [Function.update_idem, Function.update_eq_self] at hdropped
    refine ⟨⟨?_, fun channel heq => (nomatch heq), fun _ => by dsimp only; decide⟩,
      fun fd client hlookup => nomatch hlookup⟩
    rw [phase_stopped rfl rfl]
    exact hdropped

/-! ## Runs -/

/-- A change by another component. -/
theorem foreignChange_serverInv (h : ServerInv spec server) {change : ForeignChange}
    {loop : EventLoop Input} (hchange : server.loop.foreignChange change = some loop) :
    ServerInv spec { server with loop := loop } := by
  constructor
  case kept =>
    exact ⟨h.kept.tracks.foreignChange hchange, h.kept.listening, h.kept.stopped⟩
  case clients =>
    intro fd client hlookup
    exact (h.clients fd client hlookup).of_transfers
      (EventLoop.transfers_foreignChange hchange)

/-- A started server has no clients. -/
theorem openListener_serverInv {loop : EventLoop Input} {nextAddress : Nat} {fd : Int}
    {granted : Bool} {server : SocketServer Input Buffer}
    (hchannels : ∀ fd address, loop.channels fd ≠ some (.own address))
    (htrace : loop.trace = [])
    (hopen : openListener loop nextAddress fd granted = some server) :
    ServerInv spec server ∧ server.listenChannel.isSome := by
  -- at the start all descriptors are closed
  have hclosed : Tracks loop fun _ => .closed := by
    constructor
    case proper => rw [htrace]; trivial
    case isOpen => intro fd; rw [htrace]; simp [isOpen]
    case channels =>
      intro fd address
      apply iff_of_false (hchannels fd address)
      rintro ⟨channel, heq, -⟩
      cases heq
    case interest =>
      intro _ _ heq
      cases heq
    case foreign => exact fun _ _ => rfl
  obtain ⟨hfree, hopen⟩ := Option.ite_none_left_eq_some.mp hopen
  rw [not_or, not_lt] at hfree
  dsimp only at hopen
  have hopened := hclosed.opened (show loop.isFree fd = true by simpa using hfree.2)
  generalize hchannel : (Channel.mk nextAddress fd EPOLLIN) = channel at hopen
  have hadd := hopened.addChannel channel (by rw [← hchannel])
    (Function.update_self _ _ _) granted
  generalize EventLoop.addChannel _ channel granted = result at hadd hopen
  obtain ⟨loop', added⟩ := result
  cases added with
  | false => cases hopen
  | true =>
    obtain rfl := Option.some.inj hopen
    cases hadd with
    | inr hrefused => cases hrefused.1
    | inl hadded =>
      refine ⟨⟨⟨?_, fun channel _ => ⟨AList.lookup_empty _, hfree.1⟩,
        fun hnone => by cases hnone⟩, fun fd client hlookup => by cases hlookup⟩, rfl⟩
      have htracks := hadded.2
      rw [Function.update_idem] at htracks
      rw [phase_listening rfl rfl]
      exact htracks

/-- Nothing was transferred on any descriptor before the server has started. -/
theorem openListener_transfers {loop : EventLoop Input} {nextAddress : Nat} {listenFd : Int}
    {granted : Bool} {server : SocketServer Input Buffer} (htrace : loop.trace = [])
    (hopen : openListener loop nextAddress listenFd granted = some server) :
    server.loop.transfers fd = ([], []) := by
  have hnothing : (loop.record (.opened listenFd)).transfers fd = ([], []) := by
    by_cases heq : listenFd = fd
    · rw [heq, EventLoop.transfers_opened_self]
    · rw [EventLoop.transfers_opened_ne heq, EventLoop.transfers, htrace]
      rfl
  obtain ⟨-, hopen⟩ := Option.ite_none_left_eq_some.mp hopen
  dsimp only at hopen
  generalize Channel.mk nextAddress listenFd EPOLLIN = channel at hopen
  have hadded : ((loop.record (.opened listenFd)).addChannel channel granted).1.transfers fd =
      ([], []) := by simpa using hnothing
  generalize EventLoop.addChannel _ channel granted = result at hadded hopen
  obtain ⟨loop', added⟩ := result
  cases added with
  | false => exact nomatch hopen
  | true =>
    obtain rfl := Option.some.inj hopen
    exact hadded

end SocketServer

/-- The two handlers of a server keep the invariant. -/
structure LawfulHandlers (spec : StreamSpec Input Buffer)
    (handlers : ServerHandlers Input Buffer) : Prop where
  related_empty : spec.related [] [] handlers.empty
  idle_empty : ¬ spec.pending handlers.empty
  read : ∀ server fd recvs sends granted, SocketServer.ServerInv spec server →
    SocketServer.ServerInv spec (handlers.handleClientRead server fd recvs sends granted)
  write : ∀ server fd sends granted, SocketServer.ServerInv spec server →
    SocketServer.ServerInv spec (handlers.handleClientWrite server fd sends granted)

/-- The invariant holds in every reachable state. -/
theorem LawfulHandlers.serverInv {spec : StreamSpec Input Buffer}
    {handlers : ServerHandlers Input Buffer} (hlawful : LawfulHandlers spec handlers)
    {ok : SocketServer Input Buffer → ServerAction Input → Prop}
    {server : SocketServer Input Buffer}
    (h : (socketServerSystem handlers).Reachable ok server) :
    SocketServer.ServerInv spec server := by
  induction h with
  | init hinitial =>
    obtain ⟨loop, nextAddress, fd, granted, hchannels, htrace, hopen⟩ := hinitial
    exact (SocketServer.openListener_serverInv hchannels htrace hopen).1
  | @step server server' action hreach hok hstep ih =>
    cases action with
    | accept results =>
      obtain ⟨hlisten, haccept⟩ := Option.ite_none_right_eq_some.mp hstep
      exact SocketServer.acceptClients_serverInv hlawful.related_empty hlawful.idle_empty
        results ih hlisten haccept
    | read fd recvs sends granted =>
      obtain rfl := Option.some.inj hstep
      exact hlawful.read server fd recvs sends granted ih
    | write fd sends granted =>
      obtain rfl := Option.some.inj hstep
      exact hlawful.write server fd sends granted ih
    | error fd =>
      obtain rfl := Option.some.inj hstep
      exact SocketServer.removeClient_serverInv ih.kept (ih.others fd)
    | stop =>
      obtain rfl := Option.some.inj hstep
      exact SocketServer.stop_serverInv ih.kept
    | foreign change =>
      obtain ⟨loop, hchange, rfl⟩ := Option.map_eq_some_iff.mp hstep
      exact SocketServer.foreignChange_serverInv ih hchange

/-! ## A started server -/

/-- A loop that nothing is registered on. -/
def idleLoop : EventLoop Input where
  channels _ := none
  interest _ := none
  foreignOpen _ := false
  trace := []

/-- A server that listens at descriptor 3. -/
def startedServer : SocketServer Input Buffer :=
  let channel : Channel := { address := 0, fd := 3, events := EPOLLIN }
  { loop := ((idleLoop.record (.opened 3)).addChannel channel true).1
    nextAddress := 1
    listenFd := 3
    listenChannel := some channel
    clients := ∅ }

theorem startedServer_init (handlers : ServerHandlers Input Buffer) :
    (socketServerSystem handlers).init startedServer :=
  ⟨idleLoop, 0, 3, true, fun _ _ heq => (nomatch heq), rfl, rfl⟩

end EdgeLink
