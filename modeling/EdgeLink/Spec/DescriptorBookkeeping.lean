import EdgeLink.Spec.TcpServerCorrect
import EdgeLink.Spec.UnixDomainServerCorrect

/-! # Descriptor bookkeeping

The channels that the event loop has for a server are those that the server holds, and the
descriptors that the server has open are those of these channels.

* `Bookkeeping.of_kept`: what `Kept` means for the map, the interest list and the trace.
* `descriptor_bookkeeping`: it holds for both servers in every reachable state. -/

namespace EdgeLink

open DescriptorTrace

namespace SocketServer

variable {Input Buffer : Type}

/-- The server holds the descriptor: it is a client's, or the listening one. -/
def Holds (server : SocketServer Input Buffer) (fd : Int) : Prop :=
  fd ∈ server.clients ∨ (server.listenChannel.isSome ∧ fd = server.listenFd)

instance (server : SocketServer Input Buffer) (fd : Int) : Decidable (server.Holds fd) :=
  inferInstanceAs (Decidable (_ ∨ _))

/-- The books of the server, the event loop and the kernel agree. -/
structure Bookkeeping [DecidableEq Input] (server : SocketServer Input Buffer) : Prop where
  channels : ∀ fd, server.Holds fd ↔
    ∃ address, server.loop.channels fd = some (.own address)
  client : ∀ fd client, server.clients.lookup fd = some client →
    server.loop.channels fd = some (.own client.channel.address) ∧
      client.channel.fd = fd ∧ server.loop.interest fd = some client.channel.events
  listening : ∀ channel, server.listenChannel = some channel →
    server.loop.channels server.listenFd = some (.own channel.address) ∧
      channel.fd = server.listenFd ∧
      server.loop.interest server.listenFd = some channel.events
  /-- No call names a closed descriptor, and none is opened while it is open. -/
  proper : Proper server.loop.trace
  /-- Every descriptor was closed once for each time that it was opened, unless the server
      holds it. -/
  closed : ∀ fd, server.loop.trace.count (.opened fd) =
    server.loop.trace.count (.closed fd) + if server.Holds fd then 1 else 0

variable {server : SocketServer Input Buffer} {fd : Int}

/-- A held descriptor is one with a held channel. -/
theorem holds_iff : server.Holds fd ↔ ∃ channel, server.heldChannel fd = some channel := by
  rw [← Option.isSome_iff_exists, Holds, ← AList.lookup_isSome]
  simp only [heldChannel]
  cases server.clients.lookup fd with
  | some client => simp
  | none => by_cases heq : fd = server.listenFd <;> simp [heq]

/-- The phases of a server that keeps its invariant are those of the held channels. -/
theorem phase_held {channel : Channel} (h : server.heldChannel fd = some channel) :
    server.phase fd = .registered channel := by
  rw [phase, h]
  rfl

theorem phase_registered_iff {channel : Channel} :
    server.phase fd = .registered channel ↔ server.heldChannel fd = some channel := by
  rw [phase]
  cases server.heldChannel fd with
  | none => simp
  | some held => simp

/-- What the loop and the trace are when they track what the server holds. -/
theorem Bookkeeping.of_kept [DecidableEq Input] (h : Kept server) : Bookkeeping server := by
  -- a channel that the server holds is the one that is registered
  have hregistered (fd : Int) (channel : Channel) (hheld : server.heldChannel fd = some channel) :
      server.loop.channels fd = some (.own channel.address) ∧ channel.fd = fd ∧
        server.loop.interest fd = some channel.events := by
    have hphase := phase_held hheld
    obtain ⟨hinterest, hfd⟩ := h.tracks.interest fd channel hphase
    exact ⟨(h.tracks.channels fd channel.address).mpr ⟨channel, hphase, rfl⟩, hfd, hinterest⟩
  constructor
  case channels =>
    intro fd
    rw [holds_iff]
    constructor
    · rintro ⟨channel, hheld⟩
      exact ⟨channel.address, (hregistered fd channel hheld).1⟩
    · rintro ⟨address, hchannel⟩
      obtain ⟨channel, hphase, -⟩ := (h.tracks.channels fd address).mp hchannel
      exact ⟨channel, phase_registered_iff.mp hphase⟩
  case client =>
    intro fd client hlookup
    exact hregistered fd client.channel (heldChannel_client hlookup)
  case listening =>
    intro channel hlisten
    apply hregistered server.listenFd channel
    simp only [heldChannel, (h.listening channel hlisten).1, if_true, hlisten]
  case proper => exact h.tracks.proper
  case closed =>
    intro fd
    rw [h.tracks.proper.opened_eq fd]
    have hopen : isOpen fd server.loop.trace = true ↔ server.Holds fd := by
      rw [h.tracks.isOpen, holds_iff, phase]
      cases server.heldChannel fd <;> simp
    by_cases hholds : server.Holds fd
    · rw [if_pos hholds, hopen.mpr hholds]
      rfl
    · rw [if_neg hholds, Bool.eq_false_iff.mpr fun htrue => hholds (hopen.mp htrue)]
      rfl

end SocketServer

/-- In every reachable state of a `TcpServer` and of a `UnixDomainServer` the books
    agree. -/
theorem descriptor_bookkeeping :
    (∀ server, tcpServerSystem.Reachable TransitionSystem.anyStep server →
      server.Bookkeeping) ∧
    (∀ server, unixDomainServerSystem.Reachable TransitionSystem.anyStep server →
      server.Bookkeeping) :=
  ⟨fun _ h => .of_kept (TcpServer.lawfulHandlers.serverInv h).kept,
    fun _ h => .of_kept (UnixDomainServer.lawfulHandlers.serverInv h).kept⟩

/-- Descriptor 7 of a client that left is given out again. -/
theorem descriptor_bookkeeping_reused :
    ∃ server : TcpServer, 7 ∈ server.clients ∧
      server.loop.trace.count (.opened 7) = 2 ∧ server.loop.trace.count (.closed 7) = 1 ∧
      server.Bookkeeping := by
  obtain ⟨server, -, hreach, hreused⟩ := TransitionSystem.exists_of_run tcpServerSystem
    TransitionSystem.anyStep
    [.accept [.accepted 7 true], .read 7 [.received []] [] true,
      .accept [.accepted 8 false, .accepted 7 true]]
    (fun server => (7 ∈ server.clients ∧
      server.loop.trace.count (.opened 7) = 2 ∧ server.loop.trace.count (.closed 7) = 1 : Bool))
    (startedServer_init TcpServer.handlers) (by decide)
  obtain ⟨hclient, hopened, hclosed⟩ := of_decide_eq_true hreused
  exact ⟨server, hclient, hopened, hclosed, descriptor_bookkeeping.1 server hreach⟩

end EdgeLink
