import EdgeLink.Native.SharedMemoryMessageBridge
import EdgeLink.Spec.IpcMessageCodecCorrect

/-!
# Bridge correctness

What holds in every interleaving of a sender and a receiver on one slot.

The slot can be overwritten while a notification for an earlier message is half
handled, so the receiver may combine the size of one message with the bytes of
another. Two facts make this harmless: the bytes of the last written message are
always a prefix of the data area (`BridgeInv.slot`), and no accepted byte string is a
proper prefix of another (`accepted_prefixFree`). Together they give `decode_slot`:
whatever size was fetched, either the last written message comes out or nothing does.

## Key results

- `self_delimiting`: with another length than its own, the message in the slot is rejected
- `bridge_inv`: the invariant over all program points of both processes
- `bridge_convergence`: nothing is invented, the counters are bounded by the
  notifications, and the bridge ends up at the last written message
- `published_le_three`: a written message is published at most three times
-/

namespace EdgeLink

open IpcMessageCodec BridgeState

/-! ## Reading a slot that starts with a message -/

/-- A slot that starts with the encoding of a message yields that message or nothing,
    whatever size was fetched. -/
theorem decode_slot (message decoded previous : Message) (encodedMessage data : Bytes)
    (size : Nat) (hencode : encode message = some encodedMessage)
    (hbefore : encodedMessage <+: data)
    (hdecode : decode (data.take size) previous = (true, decoded)) : decoded = message := by
  obtain ⟨hencodable, rfl⟩ := (encode_eq_some_iff _ _).mp hencode
  have hlayout := decode_layout message previous hencodable
  have heq : data.take size = layout message :=
    (accepted_prefixFree previous).take_eq (by rw [hlayout]) hbefore (by rw [hdecode])
  rw [heq, hlayout] at hdecode
  exact (Prod.mk.inj hdecode).2.symm

/-- With the size of the message it starts with, such a slot yields the message. -/
theorem decode_slot_own_size (message previous : Message) (encodedMessage data : Bytes)
    (hencode : encode message = some encodedMessage) (hbefore : encodedMessage <+: data) :
    decode (data.take encodedMessage.length) previous = (true, message) := by
  obtain ⟨hencodable, rfl⟩ := (encode_eq_some_iff _ _).mp hencode
  rw [← List.prefix_iff_eq_take.mp hbefore]
  exact decode_layout message previous hencodable

/-- Copying into the slot does not change the length of the data area. -/
theorem SharedMemory.length_copyData (memory : SharedMemory) (bytes : Bytes)
    (h : bytes.length ≤ memory.data.length) :
    (memory.copyData bytes).data.length = memory.data.length := by
  simp only [SharedMemory.copyData, List.length_append, List.length_drop]
  omega

/-- The format is self-delimiting: an accepted input that is a prefix of another one is that
    input. So an encoding that is cut, an encoding with something behind it, and a slot that is
    read with another length than that of the encoding it starts with are all rejected. -/
theorem self_delimiting :
    (∀ short long previous previous', (decode short previous).1 = true →
      (decode long previous').1 = true → short <+: long → short = long) ∧
    ∀ message encodedMessage, encode message = some encodedMessage → ∀ previous,
      (∀ size < encodedMessage.length, (decode (encodedMessage.take size) previous).1 = false) ∧
      (∀ leftOver ≠ [], (decode (encodedMessage ++ leftOver) previous).1 = false) ∧
      ∀ (memory : SharedMemory) size, encodedMessage.length ≤ memory.data.length →
        size ≤ memory.data.length → size ≠ encodedMessage.length →
        (decode ((memory.copyData encodedMessage).copyOut size) previous).1 = false := by
  refine ⟨?_, fun message encodedMessage hencode previous => ?_⟩
  · intro short long previous previous' hshort hlong hprefix
    rw [accepted_congr long previous' previous] at hlong
    exact accepted_prefixFree previous short long hshort hlong hprefix
  · have hfree := accepted_prefixFree previous
    have haccepted : (decode encodedMessage previous).1 = true :=
      (codec_exact encodedMessage previous).1.mpr ⟨message, hencode⟩
    simp only [← Bool.not_eq_true]
    refine ⟨fun size hlt => hfree.not_take haccepted hlt,
      fun leftOver hne => hfree.not_append haccepted hne, ?_⟩
    intro memory size hfits hsize hne
    rw [← memory.length_copyData encodedMessage hfits] at hsize
    exact hfree.not_take_of_ne haccepted (List.prefix_append _ _) hsize hne

/-- A short message over a longer one: neither of the two lengths fits the other message. -/
theorem self_delimiting_mixture :
    ∃ long short,
      encode ⟨ascii "t", ascii "device", ascii "tag", .string [65, 0, 66], .good, 7⟩ = some long ∧
      encode ⟨ascii "t", ascii "d", [], .monostate, .good, 8⟩ = some short ∧
      ¬ short <+: long ∧
      (decode (long.take short.length) Message.empty).1 = false ∧
      (decode ((((SharedMemory.create 64).copyData long).copyData short).copyOut long.length)
        Message.empty).1 = false := by
  refine ⟨_, _, rfl, rfl, fun hprefix => ?_, ?_, ?_⟩
  · have heq := self_delimiting.1 _ _ Message.empty Message.empty (by decide) (by decide) hprefix
    exact absurd heq (by decide)
  · exact (self_delimiting.2 ⟨ascii "t", ascii "device", ascii "tag", .string [65, 0, 66], .good, 7⟩
      _ rfl Message.empty).1 _ (by decide)
  · exact (self_delimiting.2 ⟨ascii "t", ascii "d", [], .monostate, .good, 8⟩
      _ rfl Message.empty).2.2 _ _ (by decide) (by decide) (by decide)

/-! ## The steps -/

/-- What a step can be: the process that moves was at that point of its function. -/
theorem BridgeState.step_cases (σ σ' : BridgeState) (action : BridgeAction)
    (h : σ.step action = some σ') :
    (∃ message, σ.sender = .idle ∧ σ' = σ.send message) ∨
    (∃ message e, σ.sender = .copyData message e ∧ σ' = σ.copyData message e) ∨
    (∃ message e, σ.sender = .storeDataSize message e ∧ σ' = σ.storeDataSize message e) ∨
    (∃ message, σ.sender = .notify message ∧ σ' = σ.notify) ∨
    (σ.receiver = .idle ∧ σ' = σ.handleRead) ∨
    (σ.receiver = .checkHeader ∧ σ' = σ.checkHeader) ∨
    (∃ size, σ.receiver = .copyOut size ∧ σ' = σ.copyOut size) := by
  cases action <;> simp only [BridgeState.step] at h <;> split at h <;>
    simp only [Option.some.injEq, reduceCtorEq] at h <;> rename_i hpc <;> subst h <;>
    simp [hpc]

/-! ## The invariant -/

/-- Handlings in progress: 1 between a successful eventfd read and its publication. -/
def ReceiverPc.handling : ReceiverPc → Nat
  | .idle => 0
  | .checkHeader | .copyOut _ => 1

/-- What ties the slot, the eventfd and both program counters together. -/
structure BridgeInv (σ : BridgeState) : Prop where
  /-- The header stays valid. -/
  header : σ.memory.hasValidHeader σ.memory.data.length
  /-- Before the copy, the sender holds an encoding that fits. -/
  copying : ∀ m e, σ.sender = .copyData m e →
    encode m = some e ∧ e.length ≤ σ.memory.data.length
  /-- After the copy, its message is the last written one. -/
  storing : ∀ m e, σ.sender = .storeDataSize m e →
    encode m = some e ∧ e.length ≤ σ.memory.data.length ∧ σ.written.getLast? = some m
  notifying : ∀ m, σ.sender = .notify m → σ.written ≠ []
  /-- Only encoded messages are written. -/
  encoded : ∀ m ∈ σ.written, ∃ e, encode m = some e
  /-- The data area starts with the last written message, and outside of the window
      between copy and store the size is its size. -/
  slot : ∀ m, σ.written.getLast? = some m → ∃ e, encode m = some e ∧
    e <+: σ.memory.data ∧
    ((∀ m' e', σ.sender ≠ .storeDataSize m' e') → σ.memory.dataSize = e.length)
  /-- A notification implies an earlier write. -/
  busy : σ.receiver ≠ .idle → σ.written ≠ []
  pending : 0 < σ.counter → σ.written ≠ []
  succeeded : 0 < σ.notified → σ.written ≠ []
  /-- Every publication is of the message that was last written at that time. -/
  published : ∀ p ∈ σ.published, 0 < p.1 ∧ σ.written[p.1 - 1]? = some p.2
  /-- Each handled notification consumes at least one `notify`. -/
  counts : σ.forwardedMessageCount + σ.failedMessageCount + σ.receiver.handling +
    σ.counter ≤ σ.notified
  /-- After a send, a read of the last written message is due, under way or done. -/
  settled : σ.sender = .idle → σ.written ≠ [] →
    0 < σ.counter ∨ σ.receiver = .checkHeader ∨ σ.receiver = .copyOut σ.memory.dataSize ∨
    (σ.receiver = .idle ∧ σ.lastHandled = σ.written.getLast?)

/-- The invariant holds before the first step. -/
theorem BridgeInv.initial (σ : BridgeState) (h : Initial σ) : BridgeInv σ := by
  obtain ⟨hheader, hcounter, hsender, hreceiver, hforwarded, hfailed, hwritten, hnotified,
    hpublished⟩ := h
  constructor <;> simp_all [ReceiverPc.handling]

/-! ### The sender's steps -/

private theorem inv_send (σ : BridgeState) (message : Message) (h : BridgeInv σ)
    (hsender : σ.sender = .idle) : BridgeInv (σ.send message) := by
  rw [BridgeState.send]
  split
  · exact h
  · rename_i encodedMessage hencode
    split
    · exact h
    · rename_i hfits
      constructor
      case copying => rintro m e ⟨⟩; exact ⟨hencode, Nat.not_lt.mp hfits⟩
      case storing => exact fun _ _ hpc => nomatch hpc
      case notifying => exact fun _ hpc => nomatch hpc
      case slot =>
        intro m hm
        obtain ⟨e, he, hbefore, hsize⟩ := h.slot m hm
        exact ⟨e, he, hbefore, fun _ => hsize (by simp [hsender])⟩
      case settled => exact fun hpc => nomatch hpc
      exacts [h.header, h.encoded, h.busy, h.pending, h.succeeded, h.published, h.counts]

private theorem inv_copyData (σ : BridgeState) (message : Message) (encodedMessage : Bytes)
    (h : BridgeInv σ) (hsender : σ.sender = .copyData message encodedMessage) :
    BridgeInv (σ.copyData message encodedMessage) := by
  obtain ⟨hencode, hfits⟩ := h.copying _ _ hsender
  have hlength := σ.memory.length_copyData encodedMessage hfits
  have hne : σ.written ++ [message] ≠ [] := by simp
  constructor
  case header =>
    obtain ⟨hmagic, hversion, hcapacity, hsize⟩ := h.header
    exact ⟨hmagic, hversion, hcapacity.trans hlength.symm, hsize.trans hlength.symm.le⟩
  case copying => exact fun _ _ hpc => nomatch hpc
  case storing =>
    rintro m e ⟨⟩
    exact ⟨hencode, hfits.trans hlength.symm.le, by simp [BridgeState.copyData]⟩
  case notifying => exact fun _ hpc => nomatch hpc
  case encoded =>
    intro m hm
    rcases List.mem_append.mp hm with hm | hm
    · exact h.encoded m hm
    · exact ⟨encodedMessage, List.mem_singleton.mp hm ▸ hencode⟩
  case slot =>
    -- the new message is the last written one; its size is not stored yet
    intro m hm
    simp only [BridgeState.copyData, List.getLast?_append, List.getLast?_singleton,
      Option.some_or, Option.some.injEq] at hm
    subst hm
    exact ⟨encodedMessage, hencode, List.prefix_append _ _, fun hsize =>
      absurd rfl (hsize message encodedMessage)⟩
  case published =>
    -- earlier writes keep their numbers
    intro p hp
    obtain ⟨hpos, hget⟩ := h.published p hp
    refine ⟨hpos, ?_⟩
    have hlt := (List.getElem?_eq_some_iff.mp hget).1
    simp only [BridgeState.copyData]
    rw [List.getElem?_append_left hlt, hget]
  case settled => exact fun hpc => nomatch hpc
  case counts => exact h.counts
  all_goals exact fun _ => hne

private theorem inv_storeDataSize (σ : BridgeState) (message : Message)
    (encodedMessage : Bytes) (h : BridgeInv σ)
    (hsender : σ.sender = .storeDataSize message encodedMessage) :
    BridgeInv (σ.storeDataSize message encodedMessage) := by
  obtain ⟨hencode, hfits, hlast⟩ := h.storing _ _ hsender
  constructor
  case header =>
    obtain ⟨hmagic, hversion, hcapacity, -⟩ := h.header
    exact ⟨hmagic, hversion, hcapacity, hfits⟩
  case copying => exact fun _ _ hpc => nomatch hpc
  case storing => exact fun _ _ hpc => nomatch hpc
  case notifying =>
    intro m _ hnil
    change σ.written = [] at hnil
    rw [hnil] at hlast
    exact nomatch hlast
  case slot =>
    intro m hm
    obtain ⟨e, he, hbefore, -⟩ := h.slot m hm
    refine ⟨e, he, hbefore, fun _ => ?_⟩
    obtain rfl := Option.some.inj (hlast.symm.trans hm)
    obtain rfl := Option.some.inj (hencode.symm.trans he)
    rfl
  case settled => exact fun hpc => nomatch hpc
  exacts [h.encoded, h.busy, h.pending, h.succeeded, h.published, h.counts]

private theorem inv_notify (σ : BridgeState) (message : Message) (h : BridgeInv σ)
    (hsender : σ.sender = .notify message) : BridgeInv σ.notify := by
  have hwritten := h.notifying _ hsender
  -- the size has been stored, whatever the sender does now
  have hslot : ∀ (stored : Prop) m, σ.written.getLast? = some m → ∃ e, encode m = some e ∧
      e <+: σ.memory.data ∧ (stored → σ.memory.dataSize = e.length) := by
    intro stored m hm
    obtain ⟨e, he, hbefore, hsize⟩ := h.slot m hm
    exact ⟨e, he, hbefore, fun _ => hsize (by simp [hsender])⟩
  rw [BridgeState.notify, eventfdNotify]
  split
  · rename_i counter hcounter
    split at hcounter
    · obtain rfl := Option.some.inj hcounter
      constructor
      case copying => exact fun _ _ hpc => nomatch hpc
      case storing => exact fun _ _ hpc => nomatch hpc
      case notifying => exact fun _ hpc => nomatch hpc
      case slot => exact hslot _
      case counts => have := h.counts; dsimp only; omega
      case settled => exact fun _ _ => .inl (Nat.succ_pos _)
      case pending => exact fun _ => hwritten
      case succeeded => exact fun _ => hwritten
      exacts [h.header, h.encoded, h.busy, h.published]
    · exact nomatch hcounter
  · rename_i hcounter
    split at hcounter
    · exact nomatch hcounter
    · -- the counter is full, so a read is still due
      rename_i hfull
      constructor
      case copying => exact fun _ _ hpc => nomatch hpc
      case storing => exact fun _ _ hpc => nomatch hpc
      case notifying => exact fun _ hpc => nomatch hpc
      case slot => exact hslot _
      case settled =>
        intro _ _
        simp only [eventfdMax] at hfull
        exact .inl (by dsimp only; omega)
      exacts [h.header, h.encoded, h.busy, h.pending, h.succeeded, h.published, h.counts]

/-! ### The receiver's steps -/

private theorem inv_handleRead (σ : BridgeState) (h : BridgeInv σ)
    (hreceiver : σ.receiver = .idle) : BridgeInv σ.handleRead := by
  rw [BridgeState.handleRead, eventfdRead]
  split
  · rename_i count hcount
    split at hcount
    · exact nomatch hcount
    · rename_i hpos
      have hwritten := h.pending (Nat.pos_of_ne_zero hpos)
      constructor
      case busy => exact fun _ => hwritten
      case pending => exact fun hpos => nomatch hpos
      case counts =>
        have := h.counts
        simp only [hreceiver, ReceiverPc.handling] at this ⊢
        omega
      case settled => exact fun _ _ => .inr (.inl rfl)
      exacts [h.header, h.copying, h.storing, h.notifying, h.encoded, h.slot, h.succeeded,
        h.published]
  · exact h

/-- Giving up on a notification keeps the invariant, unless the last written message
    was about to be read. -/
private theorem inv_failNotification (σ : BridgeState) (h : BridgeInv σ)
    (hreceiver : σ.receiver.handling = 1)
    (hsettled : σ.sender = .idle → σ.written ≠ [] → 0 < σ.counter) :
    BridgeInv σ.failNotification := by
  constructor
  case busy => exact fun hne => absurd rfl hne
  case counts =>
    have := h.counts
    rw [hreceiver] at this
    simp only [failNotification, ReceiverPc.handling]
    omega
  case settled => exact fun hsender hwritten => .inl (hsettled hsender hwritten)
  exacts [h.header, h.copying, h.storing, h.notifying, h.encoded, h.slot, h.pending, h.succeeded,
    h.published]

private theorem inv_checkHeader (σ : BridgeState) (h : BridgeInv σ)
    (hreceiver : σ.receiver = .checkHeader) : BridgeInv σ.checkHeader := by
  have hwritten := h.busy (by simp [hreceiver])
  -- the header check never fails
  rw [BridgeState.checkHeader, if_pos h.header]
  constructor
  case busy => exact fun _ => hwritten
  case counts =>
    have := h.counts
    simp only [hreceiver, ReceiverPc.handling] at this ⊢
    exact this
  case settled => exact fun _ _ => .inr (.inr (.inl rfl))
  exacts [h.header, h.copying, h.storing, h.notifying, h.encoded, h.slot, h.pending, h.succeeded,
    h.published]

private theorem inv_copyOut (σ : BridgeState) (dataSize : Nat) (h : BridgeInv σ)
    (hreceiver : σ.receiver = .copyOut dataSize) : BridgeInv (σ.copyOut dataSize) := by
  have hwritten := h.busy (by simp [hreceiver])
  obtain ⟨last, hlast⟩ := Option.ne_none_iff_exists'.mp
    (fun hnone => hwritten (List.getLast?_eq_none_iff.mp hnone))
  obtain ⟨e, he, hbefore, hsize⟩ := h.slot last hlast
  have hlength : 0 < σ.written.length := List.length_pos_iff.mpr hwritten
  rw [BridgeState.copyOut]
  split
  · rename_i message hdecode
    -- whatever size was fetched, the last written message has come out
    obtain rfl := decode_slot last message Message.empty e σ.memory.data dataSize he hbefore hdecode
    constructor
    case busy => exact fun hne => absurd rfl hne
    case published =>
      intro p hp
      rcases List.mem_append.mp hp with hp | hp
      · exact h.published p hp
      · obtain rfl := List.mem_singleton.mp hp
        exact ⟨hlength, List.getLast?_eq_getElem?.symm.trans hlast⟩
    case counts =>
      have := h.counts
      simp only [forwardMessage, hreceiver, ReceiverPc.handling] at this ⊢
      omega
    case settled => exact fun _ _ => .inr (.inr (.inr ⟨rfl, hlast.symm⟩))
    exacts [h.header, h.copying, h.storing, h.notifying, h.encoded, h.slot, h.pending, h.succeeded]
  · rename_i hdecode
    refine inv_failNotification σ h (by rw [hreceiver]; rfl) fun hsender _ => ?_
    rcases h.settled hsender hwritten with hcounter | hcheck | hcopy | ⟨hidle, -⟩
    · exact hcounter
    · rw [hcheck] at hreceiver; exact nomatch hreceiver
    · -- the size in hand is the size of the last message, so decoding cannot have failed
      rw [hreceiver, ReceiverPc.copyOut.injEq, hsize (by simp [hsender])] at hcopy
      have hown := decode_slot_own_size last Message.empty e σ.memory.data he hbefore
      rw [SharedMemory.copyOut, hcopy, hown] at hdecode
      exact nomatch hdecode
    · rw [hidle] at hreceiver; exact nomatch hreceiver

/-- Every step of either process keeps the invariant. -/
theorem BridgeInv.step (σ σ' : BridgeState) (action : BridgeAction) (h : BridgeInv σ)
    (hstep : σ.step action = some σ') : BridgeInv σ' := by
  rcases step_cases σ σ' action hstep with ⟨message, hpc, rfl⟩ | ⟨message, e, hpc, rfl⟩ |
    ⟨message, e, hpc, rfl⟩ | ⟨message, hpc, rfl⟩ | ⟨hpc, rfl⟩ | ⟨hpc, rfl⟩ | ⟨size, hpc, rfl⟩
  · exact inv_send σ message h hpc
  · exact inv_copyData σ message e h hpc
  · exact inv_storeDataSize σ message e h hpc
  · exact inv_notify σ message h hpc
  · exact inv_handleRead σ h hpc
  · exact inv_checkHeader σ h hpc
  · exact inv_copyOut σ size h hpc

/-- The invariant holds in every reachable state. -/
theorem bridge_inv (σ : BridgeState)
    (h : bridgeSystem.Reachable TransitionSystem.anyStep σ) : BridgeInv σ :=
  h.invariant BridgeInv BridgeInv.initial
    fun σ action σ' _ hinv _ hstep => hinv.step σ σ' action hstep

/-- Convergence: what the bridge publishes was written by an earlier send, it handles
    no more notifications than were sent, and once the counter is zero and nothing is
    in progress, the last handled notification published the last written message. -/
theorem bridge_convergence (σ : BridgeState)
    (h : bridgeSystem.Reachable TransitionSystem.anyStep σ) :
    (∀ p ∈ σ.published, (∃ e, encode p.2 = some e) ∧
      0 < p.1 ∧ σ.written[p.1 - 1]? = some p.2) ∧
    σ.forwardedMessageCount + σ.failedMessageCount ≤ σ.notified ∧
    (σ.counter = 0 → σ.sender = .idle → σ.receiver = .idle → 0 < σ.notified →
      ∃ message, σ.written.getLast? = some message ∧ σ.lastHandled = some message) := by
  have hinv := bridge_inv σ h
  refine ⟨fun p hp => ?_, ?_, fun hcounter hsender hreceiver hnotified => ?_⟩
  · obtain ⟨hpos, hget⟩ := hinv.published p hp
    exact ⟨hinv.encoded p.2 (List.mem_of_getElem? hget), hpos, hget⟩
  · have := hinv.counts
    omega
  · have hwritten := hinv.succeeded hnotified
    -- nothing is pending or in progress, so only the last case is left
    rcases hinv.settled hsender hwritten with hpos | hcheck | hcopy | ⟨-, hlast⟩
    · omega
    · rw [hcheck] at hreceiver; exact nomatch hreceiver
    · rw [hcopy] at hreceiver; exact nomatch hreceiver
    · rw [hlast]
      cases hget : σ.written.getLast? with
      | none => exact absurd (List.getLast?_eq_none_iff.mp hget) hwritten
      | some message => exact ⟨message, rfl, rfl⟩

/-- A tag update for the runs below. -/
def sampleMessage (quality : Quality) : Message :=
  ⟨ascii "t", ascii "d", ascii "n", .bool true, quality, 0⟩

/-- The steps of one `send` call. -/
def sendSteps (message : Message) : List BridgeAction :=
  [.send message, .copyData, .storeDataSize, .notify]

/-- The steps of one handled notification. -/
def handleSteps : List BridgeAction :=
  [.handleRead, .checkHeader, .copyOut]

/-- One send and one notification: the bridge has published the message. -/
theorem bridge_convergence_one_send :
    ∃ σ, bridgeSystem.run TransitionSystem.anyStep (start 64)
        (sendSteps (sampleMessage .good) ++ handleSteps) = some σ ∧
      ∃ message, σ.written.getLast? = some message ∧ σ.lastHandled = some message := by
  obtain ⟨σ, hrun, hreach, hσ⟩ := TransitionSystem.exists_of_run
    bridgeSystem TransitionSystem.anyStep
    (sendSteps (sampleMessage .good) ++ handleSteps)
    (fun σ => σ.counter = 0 ∧ σ.sender = .idle ∧ σ.receiver = .idle ∧ 0 < σ.notified)
    (initial_start 64) (by decide)
  rw [decide_eq_true_eq] at hσ
  obtain ⟨hcounter, hsender, hreceiver, hnotified⟩ := hσ
  exact ⟨σ, hrun, (bridge_convergence σ hreach).2.2 hcounter hsender hreceiver hnotified⟩

/-! ## Duplicates -/

/-- How often the message of the `i`-th slot write was published. -/
def BridgeState.publications (σ : BridgeState) (i : Nat) : Nat :=
  σ.published.countP fun p => p.1 = i

/-- Notifications of the sender for a message that is in the slot already. -/
def SenderPc.unnotified : SenderPc → Nat
  | .idle | .copyData _ _ => 0
  | .storeDataSize _ _ | .notify _ => 1

/-- How often the last written message may still be published before the next write:
    by the handling in progress, by a pending notification, by its own notification. -/
def BridgeState.due (σ : BridgeState) : Nat :=
  σ.receiver.handling + min σ.counter 1 + σ.sender.unnotified

theorem ReceiverPc.handling_le (pc : ReceiverPc) : pc.handling ≤ 1 := by
  cases pc <;> simp [handling]

/-- Publications of the last written message and those still due are at most three. -/
structure DuplicateInv (σ : BridgeState) : Prop where
  index_le : ∀ p ∈ σ.published, p.1 ≤ σ.written.length
  last : σ.publications σ.written.length + σ.due ≤ 3
  every : ∀ i, σ.publications i ≤ 3

private theorem publications_append (σ : BridgeState) (message : Message) (i : Nat) :
    (σ.forwardMessage message).publications i =
      σ.publications i + (if σ.written.length = i then 1 else 0) := by
  simp [BridgeState.publications, forwardMessage, List.countP_append, List.countP_singleton]

/-- A step that writes and publishes nothing, and does not make more publications due, keeps
    the bound. -/
theorem DuplicateInv.of_due_le {σ σ' : BridgeState} (h : DuplicateInv σ)
    (hwritten : σ'.written = σ.written) (hpublished : σ'.published = σ.published)
    (hdue : σ'.due ≤ σ.due) : DuplicateInv σ' := by
  have hpublications (i : Nat) : σ'.publications i = σ.publications i := by
    rw [BridgeState.publications, hpublished, BridgeState.publications]
  constructor
  case index_le => rw [hpublished, hwritten]; exact h.index_le
  case last =>
    rw [hpublications, hwritten]
    exact Nat.le_trans (Nat.add_le_add_left hdue _) h.last
  case every =>
    intro i
    rw [hpublications]
    exact h.every i

/-- A new slot write has no publications yet, and at most three are due for it. -/
private theorem duplicate_copyData (σ : BridgeState) (message : Message)
    (encodedMessage : Bytes) (h : DuplicateInv σ) :
    DuplicateInv (σ.copyData message encodedMessage) := by
  have hlength : (σ.copyData message encodedMessage).written.length = σ.written.length + 1 := by
    simp [BridgeState.copyData]
  constructor
  case every => exact h.every
  case index_le =>
    intro p hp
    have hle := h.index_le p hp
    omega
  case last =>
    have hzero : (σ.copyData message encodedMessage).publications (σ.written.length + 1) = 0 := by
      rw [BridgeState.publications, List.countP_eq_zero]
      intro p hp heq
      have hle := h.index_le p hp
      simp only [decide_eq_true_eq] at heq
      omega
    -- one handling, one pending notification and the own one
    have hhandling := σ.receiver.handling_le
    rw [hlength, hzero]
    simp only [BridgeState.due, BridgeState.copyData, SenderPc.unnotified]
    omega

/-- A publication uses up the handling in progress. -/
private theorem duplicate_copyOut (σ : BridgeState) (dataSize : Nat) (h : DuplicateInv σ)
    (hreceiver : σ.receiver = .copyOut dataSize) : DuplicateInv (σ.copyOut dataSize) := by
  rw [BridgeState.copyOut]
  split
  · rename_i message _
    have hlast := h.last
    simp only [BridgeState.due, hreceiver, ReceiverPc.handling] at hlast
    constructor
    case index_le =>
      intro p hp
      cases List.mem_append.mp hp with
      | inl hp => exact h.index_le p hp
      | inr hp => exact (List.mem_singleton.mp hp) ▸ Nat.le_refl _
    -- one publication more, and one handling less
    case last =>
      rw [publications_append]
      simp only [BridgeState.due, forwardMessage, ReceiverPc.handling, ↓reduceIte]
      omega
    case every =>
      intro i
      have hevery := h.every i
      rw [publications_append]
      split
      · -- this publication was due
        rename_i hi
        rw [← hi]
        omega
      · omega
  · refine h.of_due_le rfl rfl ?_
    simp only [BridgeState.due, hreceiver, failNotification, ReceiverPc.handling]
    omega

/-- Every step keeps the bound on duplicates. -/
theorem DuplicateInv.step (σ σ' : BridgeState) (action : BridgeAction) (h : DuplicateInv σ)
    (hstep : σ.step action = some σ') : DuplicateInv σ' := by
  rcases step_cases σ σ' action hstep with ⟨message, hpc, rfl⟩ | ⟨message, e, hpc, rfl⟩ |
    ⟨message, e, hpc, rfl⟩ | ⟨message, hpc, rfl⟩ | ⟨hpc, rfl⟩ | ⟨hpc, rfl⟩ | ⟨size, hpc, rfl⟩
  · -- `send`
    rw [BridgeState.send]
    split
    · exact h
    · split
      · exact h
      · refine h.of_due_le rfl rfl ?_
        simp only [BridgeState.due, hpc, SenderPc.unnotified]
        omega
  · exact duplicate_copyData σ message e h
  · -- `storeDataSize`
    refine h.of_due_le rfl rfl ?_
    simp only [BridgeState.due, BridgeState.storeDataSize, hpc, SenderPc.unnotified]
    omega
  · -- `notify`: the own notification is now pending, together with earlier ones
    rw [BridgeState.notify]
    split
    · refine h.of_due_le rfl rfl ?_
      simp only [BridgeState.due, hpc, SenderPc.unnotified]
      omega
    · refine h.of_due_le rfl rfl ?_
      simp only [BridgeState.due, hpc, SenderPc.unnotified]
      omega
  · -- `handleRead`: pending notifications become one handling
    rw [BridgeState.handleRead, eventfdRead]
    split
    · rename_i hcount
      split at hcount
      · exact nomatch hcount
      · refine h.of_due_le rfl rfl ?_
        simp only [BridgeState.due, hpc, ReceiverPc.handling]
        omega
    · exact h
  · -- `checkHeader`
    rw [BridgeState.checkHeader]
    split
    · refine h.of_due_le rfl rfl ?_
      simp only [BridgeState.due, hpc, ReceiverPc.handling]
      omega
    · refine h.of_due_le rfl rfl ?_
      simp only [BridgeState.due, hpc, failNotification, ReceiverPc.handling]
      omega
  · exact duplicate_copyOut σ size h hpc

/-- The bound on duplicates holds in every reachable state. -/
theorem duplicate_inv (σ : BridgeState)
    (h : bridgeSystem.Reachable TransitionSystem.anyStep σ) : DuplicateInv σ := by
  refine h.invariant DuplicateInv (fun σ hinit => ?_)
    fun σ action σ' _ hinv _ hstep => hinv.step σ σ' action hstep
  have hpublished := hinit.published
  refine ⟨by simp [hpublished], ?_, by simp [BridgeState.publications, hpublished]⟩
  simp [BridgeState.publications, BridgeState.due, hpublished, hinit.counter, hinit.sender,
    hinit.receiver, ReceiverPc.handling, SenderPc.unnotified]

/-- The message of a slot write is published at most three times, and what is
    published under its number is that message. -/
theorem published_le_three (σ : BridgeState)
    (h : bridgeSystem.Reachable TransitionSystem.anyStep σ) (i : Nat) :
    σ.publications i ≤ 3 ∧
    ∀ p ∈ σ.published, p.1 = i → 0 < i ∧ σ.written[i - 1]? = some p.2 := by
  refine ⟨(duplicate_inv σ h).every i, ?_⟩
  rintro p hp rfl
  exact (bridge_inv σ h).published p hp

/-- Three sends, of which the last is published by a notification read before the
    second one, by that of the second, and by its own. -/
def tripleSteps : List BridgeAction :=
  [sendSteps (sampleMessage .good), [.handleRead], sendSteps (sampleMessage .stale),
    [.send (sampleMessage .timeout), .copyData, .storeDataSize, .checkHeader, .copyOut],
    handleSteps, [.notify], handleSteps].flatten

/-- One successful send can be published three times. -/
theorem published_three_times :
    ¬∀ σ, bridgeSystem.Reachable TransitionSystem.anyStep σ →
      σ.notified = σ.written.length → ∀ i, σ.publications i ≤ 1 := by
  intro hclaim
  obtain ⟨σ, -, hreach, hσ⟩ := TransitionSystem.exists_of_run
    bridgeSystem TransitionSystem.anyStep tripleSteps
    (fun σ => σ.notified = σ.written.length ∧ σ.publications 3 = 3)
    (initial_start 64) (by decide)
  rw [decide_eq_true_eq] at hσ
  have := hclaim σ hreach hσ.1 3
  omega

/-- On that run the bound of three is met exactly. -/
theorem published_le_three_tight :
    ∃ σ, bridgeSystem.run TransitionSystem.anyStep (start 64) tripleSteps = some σ ∧
      σ.publications 3 = 3 ∧ σ.publications 3 ≤ 3 := by
  obtain ⟨σ, hrun, hreach, hσ⟩ := TransitionSystem.exists_of_run
    bridgeSystem TransitionSystem.anyStep tripleSteps
    (fun σ => σ.publications 3 = 3) (initial_start 64) (by decide)
  rw [decide_eq_true_eq] at hσ
  exact ⟨σ, hrun, hσ, (published_le_three σ hreach 3).1⟩

end EdgeLink
