import EdgeLink.Native.EventLoop

/-! # Descriptors on the event loop

What the calls of a server mean for a descriptor: it is closed, open, or open with a
registered channel. `Tracks loop phase` says that `channels_`, the interest list and the
trace of calls are those of the phases, and each call of the loop moves one phase.

* `Tracks.opened`, `Tracks.addChannel`, `Tracks.removeChannel`, `Tracks.close`: the life
  of a descriptor.
* `Tracks.used`, `Tracks.received`, `Tracks.sent`: calls that change no phase.
* `Tracks.foreignChange`: other components change no phase either. -/

namespace EdgeLink

/-- Where a descriptor is in its life. -/
inductive DescriptorPhase where
  | closed
  | opened
  | registered (channel : Channel)

variable {Input : Type}

namespace EventLoop

/-- `removeChannel` leaves the descriptor unregistered. -/
theorem interest_removeChannel (loop : EventLoop Input) (channel : Channel) :
    (loop.removeChannel channel).1.interest channel.fd = none := by
  simp only [removeChannel]
  split
  · exact Function.update_self _ _ _
  · rename_i hnone
    exact Option.not_isSome_iff_eq_none.mp hnone

/-- The kernel decides about a descriptor that is not registered. -/
theorem addChannel_of_unregistered {loop : EventLoop Input} (channel : Channel)
    (h : loop.interest channel.fd = none) (granted : Bool) :
    (loop.addChannel channel granted).2 = granted := by
  have hrecorded : (loop.record (.used channel.fd)).interest channel.fd = none := h
  simp only [addChannel, hrecorded]
  cases granted <;> rfl

end EventLoop

/-- The loop and the trace agree with the phases of the server's descriptors. -/
structure Tracks (loop : EventLoop Input) (phase : Int → DescriptorPhase) : Prop where
  proper : DescriptorTrace.Proper loop.trace
  isOpen : ∀ fd, DescriptorTrace.isOpen fd loop.trace = true ↔ phase fd ≠ .closed
  channels : ∀ fd address, loop.channels fd = some (.own address) ↔
    ∃ channel, phase fd = .registered channel ∧ channel.address = address
  interest : ∀ fd channel, phase fd = .registered channel →
    loop.interest fd = some channel.events ∧ channel.fd = fd
  foreign : ∀ fd, loop.foreignOpen fd = true → phase fd = .closed

/-- Two loops that differ at one descriptor only. -/
private structure AgreesElsewhere (fd : Int) (loop loop' : EventLoop Input) : Prop where
  isOpen : ∀ fd', fd' ≠ fd →
    DescriptorTrace.isOpen fd' loop'.trace = DescriptorTrace.isOpen fd' loop.trace
  channels : ∀ fd', fd' ≠ fd → loop'.channels fd' = loop.channels fd'
  interest : ∀ fd', fd' ≠ fd → loop'.interest fd' = loop.interest fd'
  foreignOpen : ∀ fd', fd' ≠ fd → loop'.foreignOpen fd' = loop.foreignOpen fd'

namespace Tracks

variable {loop : EventLoop Input} {phase : Int → DescriptorPhase} {fd : Int}
  {channel : Channel}

/-- A call that opens and closes nothing. -/
private theorem record (h : Tracks loop phase) {call : DescriptorCall Input Bytes}
    (hallowed : DescriptorTrace.Allowed loop.trace call)
    (hsame : ∀ fd, DescriptorTrace.isOpen fd (call :: loop.trace) =
      DescriptorTrace.isOpen fd loop.trace) : Tracks (loop.record call) phase where
  proper := ⟨hallowed, h.proper⟩
  isOpen fd := by
    show DescriptorTrace.isOpen fd (call :: loop.trace) = true ↔ _
    rw [hsame]
    exact h.isOpen fd
  channels := h.channels
  interest := h.interest
  foreign := h.foreign

theorem used (h : Tracks loop phase) (hopen : phase fd ≠ .closed) :
    Tracks (loop.record (.used fd)) phase :=
  h.record ((h.isOpen fd).mpr hopen) fun _ => rfl

theorem received (h : Tracks loop phase) (hopen : phase fd ≠ .closed) (input : Input) :
    Tracks (loop.record (.received fd input)) phase :=
  h.record ((h.isOpen fd).mpr hopen) fun _ => rfl

theorem sent (h : Tracks loop phase) (hopen : phase fd ≠ .closed) (output : Bytes) :
    Tracks (loop.record (.sent fd output)) phase :=
  h.record ((h.isOpen fd).mpr hopen) fun _ => rfl

/-- A free number is closed. -/
theorem closed_of_isFree (h : Tracks loop phase) (hfree : loop.isFree fd = true) :
    phase fd = .closed := by
  simp only [EventLoop.isFree, Bool.and_eq_true, Bool.not_eq_true'] at hfree
  by_contra hopen
  have htrue := (h.isOpen fd).mpr hopen
  rw [hfree.1] at htrue
  exact nomatch htrue

/-- One descriptor goes on to another phase: what the loop and the trace say of it has to
    be shown, and of the others nothing has changed. -/
private theorem change (h : Tracks loop phase) {loop' : EventLoop Input} {next : DescriptorPhase}
    (hproper : DescriptorTrace.Proper loop'.trace) (helsewhere : AgreesElsewhere fd loop loop')
    (hisOpen : DescriptorTrace.isOpen fd loop'.trace = true ↔ next ≠ .closed)
    (hchannels : ∀ address, loop'.channels fd = some (.own address) ↔
      ∃ channel, next = .registered channel ∧ channel.address = address)
    (hinterest : ∀ channel, next = .registered channel →
      loop'.interest fd = some channel.events ∧ channel.fd = fd)
    (hforeign : loop'.foreignOpen fd = true → next = .closed) :
    Tracks loop' (Function.update phase fd next) := by
  constructor
  case proper => exact hproper
  case isOpen =>
    intro fd'
    by_cases heq : fd' = fd
    · subst heq
      rw [Function.update_self]
      exact hisOpen
    · rw [Function.update_of_ne heq, helsewhere.isOpen fd' heq]
      exact h.isOpen fd'
  case channels =>
    intro fd' address
    by_cases heq : fd' = fd
    · subst heq
      rw [Function.update_self]
      exact hchannels address
    · rw [Function.update_of_ne heq, helsewhere.channels fd' heq]
      exact h.channels fd' address
  case interest =>
    intro fd' channel hregistered
    by_cases heq : fd' = fd
    · subst heq
      rw [Function.update_self] at hregistered
      exact hinterest channel hregistered
    · rw [Function.update_of_ne heq] at hregistered
      rw [helsewhere.interest fd' heq]
      exact h.interest fd' channel hregistered
  case foreign =>
    intro fd' hopen
    by_cases heq : fd' = fd
    · subst heq
      rw [Function.update_self]
      exact hforeign hopen
    · rw [helsewhere.foreignOpen fd' heq] at hopen
      rw [Function.update_of_ne heq]
      exact h.foreign fd' hopen

/-- A descriptor without a registered channel has none of the server's in `channels_`. -/
theorem channels_ne_own (h : Tracks loop phase)
    (hphase : ∀ channel, phase fd ≠ .registered channel) (address : Nat) :
    loop.channels fd ≠ some (.own address) := by
  rw [Ne, h.channels]
  rintro ⟨channel, hregistered, -⟩
  exact hphase channel hregistered

/-- The kernel gives out a free number. -/
theorem opened (h : Tracks loop phase) (hfree : loop.isFree fd = true) :
    Tracks (loop.record (.opened fd)) (Function.update phase fd .opened) := by
  have hunregistered (channel : Channel) : phase fd ≠ .registered channel := by
    rw [h.closed_of_isFree hfree]
    intro heq
    cases heq
  simp only [EventLoop.isFree, Bool.and_eq_true, Bool.not_eq_true'] at hfree
  apply h.change
  case hproper => exact ⟨hfree.1, h.proper⟩
  case helsewhere =>
    exact ⟨fun fd' hne => DescriptorTrace.isOpen_opened_ne (Ne.symm hne), fun _ _ => rfl,
      fun _ _ => rfl, fun _ _ => rfl⟩
  case hisOpen =>
    apply iff_of_true DescriptorTrace.isOpen_opened_self
    intro heq
    cases heq
  case hchannels =>
    intro address
    apply iff_of_false (h.channels_ne_own hunregistered address)
    rintro ⟨channel, heq, -⟩
    cases heq
  case hinterest =>
    intro channel heq
    cases heq
  case hforeign =>
    intro hforeign
    rw [EventLoop.record, hfree.2] at hforeign
    cases hforeign

/-- A descriptor that is not registered is closed. -/
theorem close (h : Tracks loop phase) (hphase : phase fd = .opened) :
    Tracks (loop.close fd) (Function.update phase fd .closed) := by
  have hunregistered (channel : Channel) : phase fd ≠ .registered channel := by
    rw [hphase]
    intro heq
    cases heq
  have hopen : phase fd ≠ .closed := by
    rw [hphase]
    intro heq
    cases heq
  apply h.change
  case hproper => exact ⟨(h.isOpen fd).mpr hopen, h.proper⟩
  case helsewhere =>
    exact ⟨fun fd' hne => DescriptorTrace.isOpen_closed_ne (Ne.symm hne), fun _ _ => rfl,
      fun fd' hne => Function.update_of_ne hne _ _, fun _ _ => rfl⟩
  case hisOpen =>
    show DescriptorTrace.isOpen fd (.closed fd :: loop.trace) = true ↔ _
    simp
  case hchannels =>
    intro address
    apply iff_of_false (h.channels_ne_own hunregistered address)
    rintro ⟨channel, heq, -⟩
    cases heq
  case hinterest =>
    intro channel heq
    cases heq
  case hforeign => exact fun _ => rfl

/-- The phases after the registration of a channel at `fd` has been replaced. -/
private theorem reregister (h : Tracks loop phase) (hopen : phase fd ≠ .closed)
    (registration : Option Channel) (hfd : ∀ channel, registration = some channel →
      channel.fd = fd) :
    Tracks
      { loop with
        interest := Function.update loop.interest fd (registration.map Channel.events)
        channels := Function.update loop.channels fd
          (registration.map fun channel => .own channel.address) }
      (Function.update phase fd (registration.elim .opened .registered)) := by
  apply h.change
  case hproper => exact h.proper
  case helsewhere =>
    exact ⟨fun _ _ => rfl, fun fd' hne => Function.update_of_ne hne _ _,
      fun fd' hne => Function.update_of_ne hne _ _, fun _ _ => rfl⟩
  case hisOpen =>
    apply iff_of_true ((h.isOpen fd).mpr hopen)
    intro heq
    cases registration <;> cases heq
  case hchannels =>
    intro address
    cases registration <;> simp
  case hinterest =>
    intro channel hregistered
    cases hregistration : registration with
    | none =>
      rw [hregistration] at hregistered
      cases hregistered
    | some registered =>
      rw [hregistration] at hregistered
      obtain rfl := DescriptorPhase.registered.inj hregistered
      exact ⟨Function.update_self _ _ _, hfd _ hregistration⟩
  case hforeign => exact fun hforeign => absurd (h.foreign fd hforeign) hopen

/-- `addChannel` for an open descriptor: it is registered, or nothing has changed. -/
theorem addChannel (h : Tracks loop phase) (channel : Channel) (hfd : channel.fd = fd)
    (hphase : phase fd = .opened) (granted : Bool) :
    ((loop.addChannel channel granted).2 = true ∧
      Tracks (loop.addChannel channel granted).1
        (Function.update phase fd (.registered channel))) ∨
      ((loop.addChannel channel granted).2 = false ∧
        Tracks (loop.addChannel channel granted).1 phase) := by
  have hopen : phase fd ≠ .closed := by rw [hphase]; exact fun heq => nomatch heq
  subst hfd
  simp only [EventLoop.addChannel]
  split
  · exact .inl ⟨rfl, (h.used hopen).reregister hopen (some channel)
      fun _ heq => by obtain rfl := Option.some.inj heq; rfl⟩
  · exact .inr ⟨rfl, h.used hopen⟩

/-- `removeChannel` for a registered descriptor succeeds. -/
theorem removeChannel (h : Tracks loop phase) (hphase : phase fd = .registered channel) :
    (loop.removeChannel channel).2 = true ∧
      Tracks (loop.removeChannel channel).1 (Function.update phase fd .opened) := by
  have hopen : phase fd ≠ .closed := by rw [hphase]; exact fun heq => nomatch heq
  obtain ⟨hinterest, rfl⟩ := h.interest fd channel hphase
  have hregistered : ((loop.record (.used channel.fd)).interest channel.fd).isSome = true := by
    show (loop.interest channel.fd).isSome = true
    rw [hinterest]
    rfl
  simp only [EventLoop.removeChannel, hregistered, if_true, true_and]
  exact (h.used hopen).reregister hopen none fun _ heq => nomatch heq

/-- `removeChannel` for an open descriptor leaves it as it is, whatever the kernel says. -/
theorem removeChannel_opened (h : Tracks loop phase) (channel : Channel)
    (hfd : channel.fd = fd)
    (hphase : phase fd = .opened) : Tracks (loop.removeChannel channel).1 phase := by
  have hopen : phase fd ≠ .closed := by rw [hphase]; exact fun heq => nomatch heq
  subst hfd
  simp only [EventLoop.removeChannel]
  split
  · have hkept := (h.used hopen).reregister hopen none fun _ heq => nomatch heq
    have hsame : Function.update phase channel.fd .opened = phase := by
      rw [← hphase]
      exact Function.update_eq_self _ _
    rw [Option.elim_none, hsame] at hkept
    exact hkept
  · exact h.used hopen

/-- A registered descriptor is removed from the loop and closed. -/
theorem drop (h : Tracks loop phase) (hphase : phase fd = .registered channel) :
    Tracks ((loop.removeChannel channel).1.close fd) (Function.update phase fd .closed) := by
  have hclosed := (h.removeChannel hphase).2.close (Function.update_self _ _ _)
  rwa [Function.update_idem] at hclosed

/-- A change at a descriptor that is none of the server's. -/
private theorem foreignUpdate (h : Tracks loop phase) (hphase : phase fd = .closed)
    {channels : Int → Option ChannelPointer} {interest : Int → Option UInt32}
    {foreignOpen : Int → Bool}
    (helsewhere : AgreesElsewhere fd loop { loop with channels, interest, foreignOpen })
    (hself : ∀ address, channels fd ≠ some (.own address)) :
    Tracks { loop with channels, interest, foreignOpen } phase := by
  have hsame : Function.update phase fd .closed = phase := by
    rw [← hphase]
    exact Function.update_eq_self _ _
  rw [← hsame]
  apply h.change
  case hproper => exact h.proper
  case helsewhere => exact helsewhere
  case hisOpen =>
    have hisOpen := h.isOpen fd
    rw [hphase] at hisOpen
    exact hisOpen
  case hchannels =>
    intro address
    apply iff_of_false (hself address)
    rintro ⟨channel, heq, -⟩
    cases heq
  case hinterest =>
    intro channel heq
    cases heq
  case hforeign => exact fun _ => rfl

/-- Another component's change concerns none of the server's descriptors. -/
theorem foreignChange (h : Tracks loop phase) {change : ForeignChange}
    {loop' : EventLoop Input} (hchange : loop.foreignChange change = some loop') :
    Tracks loop' phase := by
  -- a descriptor that is closed for the server has no channel of the server
  have hnone (fd : Int) (hphase : phase fd = .closed) (address : Nat) :
      loop.channels fd ≠ some (.own address) := by
    apply h.channels_ne_own
    intro channel hregistered
    rw [hphase] at hregistered
    cases hregistered
  cases change with
  | opened fd =>
    obtain ⟨hfree, hloop⟩ := Option.ite_none_right_eq_some.mp hchange
    obtain rfl := Option.some.inj hloop
    have hphase := h.closed_of_isFree hfree
    exact h.foreignUpdate hphase ⟨fun _ _ => rfl, fun _ _ => rfl, fun _ _ => rfl,
      fun _ hne => Function.update_of_ne hne _ _⟩ (hnone fd hphase)
  | closed fd =>
    obtain ⟨hopen, hloop⟩ := Option.ite_none_right_eq_some.mp hchange
    obtain rfl := Option.some.inj hloop
    have hphase := h.foreign fd hopen
    exact h.foreignUpdate hphase ⟨fun _ _ => rfl, fun _ _ => rfl,
      fun _ hne => Function.update_of_ne hne _ _, fun _ hne => Function.update_of_ne hne _ _⟩
      (hnone fd hphase)
  | added fd address events =>
    obtain ⟨hopen, hloop⟩ := Option.ite_none_right_eq_some.mp hchange
    obtain rfl := Option.some.inj hloop
    exact h.foreignUpdate (h.foreign fd hopen) ⟨fun _ _ => rfl,
      fun _ hne => Function.update_of_ne hne _ _, fun _ hne => Function.update_of_ne hne _ _,
      fun _ _ => rfl⟩ fun _ => by simp
  | removed fd =>
    obtain ⟨hopen, hloop⟩ := Option.ite_none_right_eq_some.mp hchange
    obtain rfl := Option.some.inj hloop
    exact h.foreignUpdate (h.foreign fd hopen) ⟨fun _ _ => rfl,
      fun _ hne => Function.update_of_ne hne _ _, fun _ hne => Function.update_of_ne hne _ _,
      fun _ _ => rfl⟩ fun _ => by simp

end Tracks

end EdgeLink
