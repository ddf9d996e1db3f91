import Mathlib.Data.List.Basic
import EdgeLink.Native.SocketCanPlugin
import EdgeLink.Spec.SocketCanTransportCorrect

/-! # Delivery on the CAN bus

Over every run of any number of SocketCAN plugins on one interface, with frames of others,
failing calls, full queues and lost frames.

* `SocketInv`: the descriptors of a plugin; each function keeps it.
* `Line`: what a plugin has received, what waits for it and what the interface still has to
  send are, in this order, frames that were given to the interface.
* `can_bus_delivery`: the result over runs. -/

namespace EdgeLink

open DescriptorTrace SocketCanTransport

/-! ## Descriptors -/

namespace SocketCanPlugin

/-- The plugin has its socket open and nothing else. -/
structure SocketInv (plugin : SocketCanPlugin) : Prop where
  proper : Proper plugin.trace
  isOpen_eq : ∀ fd, isOpen fd plugin.trace = (plugin.isConnected && decide (plugin.socketFd = fd))

variable {plugin : SocketCanPlugin}

theorem socketInv_create (interfaceName : Bytes) : (create interfaceName).SocketInv where
  proper := trivial
  isOpen_eq _ := rfl

theorem SocketInv.isOpen_socketFd (h : plugin.SocketInv) (hconnected : plugin.isConnected = true) :
    isOpen plugin.socketFd plugin.trace = true := by
  simp [h.isOpen_eq, hconnected]

/-- A descriptor that was opened, used and closed again. -/
theorem isOpen_closed_opened (trace : CanTrace) (opened fd : Int)
    (hfresh : isOpen opened trace = false) :
    isOpen fd (.closed opened :: .opened opened :: trace) = isOpen fd trace := by
  by_cases heq : opened = fd
  · subst heq
    rw [isOpen_closed_self, hfresh]
  · rw [isOpen_closed_ne heq, isOpen_opened_ne heq]

/-- A plugin without a socket has no descriptor. -/
theorem SocketInv.isOpen_none (h : plugin.SocketInv) (hclosed : plugin.isConnected = false)
    (fd : Int) : isOpen fd plugin.trace = false := by
  rw [h.isOpen_eq, hclosed]
  rfl

/-- A connect that fails leaves no descriptor behind. -/
theorem SocketInv.connect (h : plugin.SocketInv) (answers : ConnectAnswers) :
    (plugin.connect answers).1.SocketInv := by
  unfold SocketCanPlugin.connect
  cases hclosed : plugin.isConnected with
  | true => exact h
  | false =>
    have hfresh := h.isOpen_none hclosed
    simp only [Bool.false_eq_true, if_false]
    split
    · exact h
    · split
      · exact h
      · rename_i hsocket
        split
        · refine ⟨⟨isOpen_opened_self, isOpen_opened_self, hfresh _, h.proper⟩, fun fd => ?_⟩
          show isOpen fd (.closed answers.socket :: .opened answers.socket :: plugin.trace) = _
          rw [isOpen_closed_opened _ _ _ (hfresh _), h.isOpen_eq]
          rfl
        · split
          · refine ⟨⟨isOpen_opened_self, isOpen_opened_self, isOpen_opened_self, hfresh _,
              h.proper⟩, fun fd => ?_⟩
            show isOpen fd (.closed answers.socket :: .opened answers.socket :: plugin.trace) = _
            rw [isOpen_closed_opened _ _ _ (hfresh _), h.isOpen_eq]
            rfl
          · refine ⟨⟨isOpen_opened_self, isOpen_opened_self, hfresh _, h.proper⟩, fun fd => ?_⟩
            have hconnected : decide (0 ≤ answers.socket) = true :=
              decide_eq_true (not_lt.mp hsocket)
            show isOpen fd (.opened answers.socket :: plugin.trace) =
              (decide (0 ≤ answers.socket) && decide (answers.socket = fd))
            rw [hconnected, Bool.true_and]
            by_cases heq : answers.socket = fd
            · subst heq
              simp
            · rw [isOpen_opened_ne heq, hfresh]
              simp [heq]

theorem SocketInv.start (h : plugin.SocketInv) (answers : ConnectAnswers) :
    (plugin.start answers).1.SocketInv := by
  have hinitialized : ({ plugin with initialized := true } : SocketCanPlugin).SocketInv :=
    ⟨h.proper, h.isOpen_eq⟩
  exact hinitialized.connect answers

/-- A plugin that is connected stays so. -/
theorem isConnected_start (hconnected : plugin.isConnected = true) (answers : ConnectAnswers) :
    (plugin.start answers).1.isConnected = true := by
  have hinitialized : ({ plugin with initialized := true } : SocketCanPlugin).isConnected = true :=
    hconnected
  rw [start, connect, if_pos hinitialized]
  exact hconnected

theorem isConnected_disconnect (plugin : SocketCanPlugin) :
    plugin.disconnect.isConnected = false := by
  unfold disconnect
  split
  · rename_i hclosed
    simpa using hclosed
  · rfl

theorem SocketInv.disconnect (h : plugin.SocketInv) : plugin.disconnect.SocketInv := by
  unfold SocketCanPlugin.disconnect
  cases hconnected : plugin.isConnected with
  | false => exact h
  | true =>
    refine ⟨⟨h.isOpen_socketFd hconnected, h.proper⟩, fun fd => ?_⟩
    show isOpen fd (.closed plugin.socketFd :: plugin.trace) = false
    by_cases heq : plugin.socketFd = fd
    · subst heq
      exact isOpen_closed_self
    · rw [isOpen_closed_ne heq, h.isOpen_eq]
      simp [heq]

/-- A call that transfers something or nothing on the socket. -/
theorem SocketInv.transfer (h : plugin.SocketInv) (hconnected : plugin.isConnected = true)
    {call : DescriptorCall CanFrame CanFrame}
    (hcall : call = .used plugin.socketFd ∨ (∃ frame, call = .sent plugin.socketFd frame) ∨
      ∃ frame, call = .received plugin.socketFd frame) :
    ({ plugin with trace := call :: plugin.trace } : SocketCanPlugin).SocketInv := by
  have hopen := h.isOpen_socketFd hconnected
  rcases hcall with rfl | ⟨frame, rfl⟩ | ⟨frame, rfl⟩
  · exact ⟨⟨hopen, h.proper⟩, h.isOpen_eq⟩
  · exact ⟨⟨hopen, h.proper⟩, h.isOpen_eq⟩
  · exact ⟨⟨hopen, h.proper⟩, h.isOpen_eq⟩

/-- When `sendFrame` returns true, what it writes, and that it never leaves the arrays. -/
theorem sendFrame_spec (h : plugin.SocketInv) (frame : SocketCanFrame) (writtenBytes : Int) :
    ∃ plugin' sent, plugin.sendFrame frame writtenBytes =
        some (plugin', sent, plugin.isConnected && isValidFrame frame &&
          decide (writtenBytes = canFrameSize)) ∧
      plugin'.SocketInv ∧ plugin'.isConnected = plugin.isConnected ∧
      ∀ kernelFrame, sent = some kernelFrame →
        isValidFrame frame = true ∧ kernelFrame = encoded frame := by
  unfold SocketCanPlugin.sendFrame
  cases hconnected : plugin.isConnected with
  | false => exact ⟨plugin, none, rfl, h, hconnected, fun _ hsome => by cases hsome⟩
  | true =>
    cases hvalid : isValidFrame frame with
    | false =>
      refine ⟨plugin, none, ?_, h, hconnected, fun _ hsome => by cases hsome⟩
      simp [SocketCanTransport.sendFrame, hvalid]
    | true =>
      rw [sendFrame_valid ⟨true⟩ rfl hvalid]
      by_cases hfailed : writtenBytes < 0
      · exact ⟨{ plugin with trace := .used plugin.socketFd :: plugin.trace }, none,
          by simp [hfailed], h.transfer hconnected (.inl rfl), hconnected,
          fun _ hsome => by cases hsome⟩
      · refine ⟨{ plugin with
            trace := .sent plugin.socketFd (encoded frame) :: plugin.trace },
          some (encoded frame), by simp [hfailed],
          h.transfer hconnected (.inr (.inl ⟨_, rfl⟩)), hconnected, fun kernelFrame hsome => ?_⟩
        exact ⟨rfl, (Option.some.inj hsome).symm⟩

theorem SocketInv.recordRead (h : plugin.SocketInv) (answer : CanRead) :
    (plugin.recordRead answer).SocketInv := by
  unfold SocketCanPlugin.recordRead
  cases hconnected : plugin.isConnected with
  | false => exact h
  | true =>
    cases answer with
    | wouldBlock => exact h.transfer hconnected (.inl rfl)
    | failed => exact h.transfer hconnected (.inl rfl)
    | bytes count kernelFrame => exact h.transfer hconnected (.inr (.inr ⟨_, rfl⟩))

theorem isConnected_recordRead (plugin : SocketCanPlugin) (answer : CanRead) :
    (plugin.recordRead answer).isConnected = plugin.isConnected := by
  unfold recordRead
  split
  · rfl
  · split
    · rfl
    · rfl
    · rfl

end SocketCanPlugin

/-! ## Frames -/

/-- What a receiver makes of a kernel frame. -/
def heardFrame (frame : CanFrame) : Option SocketCanFrame :=
  if frame.can_id &&& CAN_ERR_FLAG ≠ 0 then none else receivedFrame frame

/-- What a receiver is to hear: the frame of the sender without the data after its length. -/
def WireFrame.heard {Node : Type} (frame : WireFrame Node) : Option SocketCanFrame :=
  match frame.origin with
  | some (_, _, sent) => some (kept sent)
  | none => heardFrame frame.frame

theorem heardFrame_encoded {frame : SocketCanFrame} (h : isValidFrame frame = true) :
    heardFrame (encoded frame) = some (kept frame) := by
  have hplain : ¬ (encoded frame).can_id &&& CAN_ERR_FLAG ≠ 0 := (canId_flags h).2.2
  rw [heardFrame, if_neg hplain, receivedFrame_kernelFrame h]

/-- `receiveFrame` hands over what there is to hear. -/
theorem receiveFrame_heard (connected : Bool) {kernelFrame : CanFrame}
    (hlength : kernelFrame.can_dlc.toNat ≤ 8) (before : SocketCanFrame) :
    ∃ result frame, SocketCanTransport.receiveFrame ⟨connected⟩
        (.bytes canFrameSize kernelFrame) before = some (result, frame) ∧
      (result = .received → connected = true) ∧
      (connected = true →
        heardFrame kernelFrame = if result = .received then some frame else none) := by
  cases connected with
  | false =>
    exact ⟨.error, before, rfl, (fun h => by cases h), fun h => absurd h Bool.false_ne_true⟩
  | true =>
    obtain ⟨received, hreceived⟩ := receivedFrame_isSome hlength
    unfold SocketCanTransport.receiveFrame heardFrame
    by_cases herror : kernelFrame.can_id &&& CAN_ERR_FLAG ≠ 0
    · refine ⟨.error, before, by simp [herror], (fun h => by cases h), fun _ => ?_⟩
      rw [if_pos herror]
      rfl
    · refine ⟨.received, received, by simp [herror, hreceived], (fun _ => rfl), fun _ => ?_⟩
      rw [if_neg herror, hreceived]
      rfl

/-! ## Lines -/

variable {Node : Type} [DecidableEq Node]

/-- The frames that were not written by this socket. -/
def others (node : Node) (socket : Nat) (frames : List (WireFrame Node)) : List CanFrame :=
  (frames.filter fun frame => !frame.isOwn node socket).map WireFrame.frame

/-- What was read, what waits in the queue and what the interface has to send are frames that
    the interface was given, in this order, and `received` is what `receiveFrame` made of those
    that were read. -/
def Line (node : Node) (socket : Nat) (received : List SocketCanFrame) (queue : List CanFrame)
    (device wire : List (WireFrame Node)) : Prop :=
  ∃ reads : List CanFrame, received = reads.filterMap heardFrame ∧
    (reads ++ (queue ++ others node socket device)).Sublist (others node socket wire)

section

variable {node : Node} {socket : Nat} {received : List SocketCanFrame} {queue : List CanFrame}
  {device wire : List (WireFrame Node)} {frame : WireFrame Node} {kernelFrame : CanFrame}

theorem others_append (node : Node) (socket : Nat) (front back : List (WireFrame Node)) :
    others node socket (front ++ back) = others node socket front ++ others node socket back := by
  rw [others, List.filter_append, List.map_append]
  rfl

/-- The interface is given a frame. -/
theorem Line.give (h : Line node socket received queue device wire) (frame : WireFrame Node) :
    Line node socket received queue (device ++ [frame]) (wire ++ [frame]) := by
  obtain ⟨reads, hreceived, hline⟩ := h
  refine ⟨reads, hreceived, ?_⟩
  rw [others_append, others_append, ← List.append_assoc queue, ← List.append_assoc reads]
  exact hline.append_right _

/-- A copy of the frame that is sent joins the queue. -/
theorem Line.deliver (h : Line node socket received queue (frame :: device) wire)
    (hother : frame.isOwn node socket = false) :
    Line node socket received (queue ++ [frame.frame]) device wire := by
  obtain ⟨reads, hreceived, hline⟩ := h
  refine ⟨reads, hreceived, ?_⟩
  have hfront : others node socket (frame :: device) =
      frame.frame :: others node socket device := by
    rw [others, List.filter_cons, hother]
    rfl
  rw [hfront] at hline
  rwa [List.append_assoc]

/-- The frame that is sent is not for this plugin. -/
theorem Line.skip (h : Line node socket received queue (frame :: device) wire) :
    Line node socket received queue device wire := by
  obtain ⟨reads, hreceived, hline⟩ := h
  refine ⟨reads, hreceived, List.Sublist.trans ?_ hline⟩
  have hrest : (others node socket device).Sublist (others node socket (frame :: device)) :=
    ((List.sublist_cons_self frame device).filter _).map _
  exact (hrest.append_left queue).append_left reads

/-- The queue of a socket that is closed is gone. -/
theorem Line.clear (h : Line node socket received queue device wire) :
    Line node socket received [] device wire := by
  obtain ⟨reads, hreceived, hline⟩ := h
  exact ⟨reads, hreceived,
    ((List.sublist_append_right queue _).append_left reads).trans hline⟩

/-- A socket that was just bound has read nothing. -/
theorem Line.fresh (h : device.Sublist wire) : Line node socket [] [] device wire :=
  ⟨[], rfl, (h.filter _).map _⟩

/-- The first frame of the queue is read. -/
theorem Line.read (h : Line node socket received (kernelFrame :: queue) device wire) :
    Line node socket (received ++ (heardFrame kernelFrame).toList) queue device wire := by
  obtain ⟨reads, hreceived, hline⟩ := h
  refine ⟨reads ++ [kernelFrame], ?_, ?_⟩
  · rw [hreceived, List.filterMap_append]
    cases hheard : heardFrame kernelFrame with
    | none => rw [List.filterMap_cons_none hheard, List.filterMap_nil, Option.toList_none]
    | some frame => rw [List.filterMap_cons_some hheard, List.filterMap_nil, Option.toList_some]
  · rwa [List.append_assoc]

/-- Waiting frames were given to the interface. -/
theorem Line.mem_wire (h : Line node socket received queue device wire)
    (hmem : kernelFrame ∈ queue) : ∃ frame ∈ wire, frame.frame = kernelFrame := by
  obtain ⟨reads, -, hline⟩ := h
  have hwire : kernelFrame ∈ others node socket wire :=
    hline.subset (List.mem_append_right _ (List.mem_append_left _ hmem))
  obtain ⟨frame, hframe, heq⟩ := List.mem_map.mp hwire
  exact ⟨frame, (List.mem_filter.mp hframe).1, heq⟩

end

/-! ## The bus -/

/-- The interface has only frames that the kernel lets through, and those of a plugin are the
    valid frames that it was asked to send. -/
def WireFrame.Sound (frame : WireFrame Node) : Prop :=
  frame.frame.can_dlc.toNat ≤ 8 ∧ ∀ node socket sent, frame.origin = some (node, socket, sent) →
    isValidFrame sent = true ∧ frame.frame = encoded sent

/-- The bus with its plugins. -/
structure CanBusInv (s : CanBus Node) : Prop where
  sockets : ∀ node, (s.plugins node).SocketInv
  dead : ∀ node, s.alive node = false → (s.plugins node).isConnected = false
  closed : ∀ node, (s.plugins node).isConnected = false → s.queues node = []
  wire : ∀ frame ∈ s.wire, frame.Sound
  device : s.device.Sublist s.wire
  lines : ∀ node,
    Line node (s.sockets node) (s.received node) (s.queues node) s.device s.wire

namespace CanBusInv

variable {s : CanBus Node}

/-- One plugin changes. -/
theorem sockets_update (h : CanBusInv s) {node : Node} {plugin : SocketCanPlugin}
    (hplugin : plugin.SocketInv) :
    ∀ other, (Function.update s.plugins node plugin other).SocketInv :=
  (Function.forall_update_iff s.plugins fun _ plugin => plugin.SocketInv).mpr
    ⟨hplugin, fun other _ => h.sockets other⟩

/-- A plugin does something on its socket. -/
theorem update (h : CanBusInv s) {node : Node} {plugin : SocketCanPlugin}
    (hplugin : plugin.SocketInv) (hsame : plugin.isConnected = (s.plugins node).isConnected) :
    CanBusInv { s with plugins := Function.update s.plugins node plugin } := by
  have hconnected : ∀ other, (Function.update s.plugins node plugin other).isConnected =
      (s.plugins other).isConnected := by
    intro other
    by_cases heq : other = node
    · subst heq
      rw [Function.update_self, hsame]
    · rw [Function.update_of_ne heq]
  refine ⟨h.sockets_update hplugin, fun other hdead => ?_, fun other hclosed => ?_, h.wire,
    h.device, h.lines⟩
  · exact (hconnected other).trans (h.dead other hdead)
  · exact h.closed other ((hconnected other).symm.trans hclosed)

/-- A plugin binds a new socket. -/
theorem bind (h : CanBusInv s) {node : Node} {plugin : SocketCanPlugin}
    (halive : s.alive node = true) (hplugin : plugin.SocketInv) (socket : Nat) :
    CanBusInv { s with
      plugins := Function.update s.plugins node plugin
      sockets := Function.update s.sockets node socket
      queues := Function.update s.queues node []
      received := Function.update s.received node [] } := by
  refine ⟨h.sockets_update hplugin, fun other hdead => ?_, fun other hclosed => ?_, h.wire,
    h.device, fun other => ?_⟩
  · have hne : other ≠ node := by
      rintro rfl
      exact absurd (halive.symm.trans hdead) (by decide)
    simpa [hne] using h.dead other hdead
  · by_cases heq : other = node
    · subst heq
      simp
    · simp only [Function.update_of_ne heq] at hclosed ⊢
      exact h.closed other hclosed
  · by_cases heq : other = node
    · subst heq
      simp only [Function.update_self]
      exact .fresh h.device
    · simp only [Function.update_of_ne heq]
      exact h.lines other

theorem start (h : CanBusInv s) {node : Node} (halive : s.alive node = true)
    (answers : ConnectAnswers) : CanBusInv (s.start node answers) := by
  have hplugin := (h.sockets node).start answers
  unfold CanBus.start
  dsimp only
  split
  · exact h.bind halive hplugin _
  · rename_i hbound
    refine h.update hplugin ?_
    cases hconnected : (s.plugins node).isConnected with
    | true => exact SocketCanPlugin.isConnected_start hconnected answers
    | false => simpa [hconnected] using hbound

theorem stop (h : CanBusInv s) (node : Node) : CanBusInv (s.stop node) := by
  have hplugin := (h.sockets node).disconnect
  have hclosed := SocketCanPlugin.isConnected_disconnect (s.plugins node)
  unfold CanBus.stop
  refine ⟨h.sockets_update hplugin, fun other hdead => ?_, fun other hother => ?_, h.wire,
    h.device, fun other => ?_⟩
  · by_cases heq : other = node
    · subst heq
      simpa using hclosed
    · simpa [heq] using h.dead other hdead
  · by_cases heq : other = node
    · subst heq
      simp
    · simp only [Function.update_of_ne heq] at hother ⊢
      exact h.closed other hother
  · by_cases heq : other = node
    · subst heq
      simp only [Function.update_self]
      exact (h.lines other).clear
    · simp only [Function.update_of_ne heq]
      exact h.lines other

/-- The destructor stops the plugin. -/
theorem destroy (h : CanBusInv s) (node : Node) :
    CanBusInv { s.stop node with alive := Function.update s.alive node false } := by
  have hstopped := h.stop node
  refine ⟨hstopped.sockets, fun other hdead => ?_, hstopped.closed, hstopped.wire,
    hstopped.device, hstopped.lines⟩
  by_cases heq : other = node
  · subst heq
    simpa [CanBus.stop] using SocketCanPlugin.isConnected_disconnect (s.plugins other)
  · simp only [Function.update_of_ne heq] at hdead
    exact hstopped.dead other hdead

theorem give (h : CanBusInv s) {frame : WireFrame Node} (hsound : frame.Sound) :
    CanBusInv (s.give frame) := by
  refine ⟨h.sockets, h.dead, h.closed, fun other hmem => ?_, h.device.append_right _,
    fun node => (h.lines node).give frame⟩
  rcases List.mem_append.mp hmem with hmem | hmem
  · exact h.wire other hmem
  · rwa [List.mem_singleton.mp hmem]

/-- The call runs to its end. -/
theorem sendFrame (h : CanBusInv s) (node : Node) (frame : SocketCanFrame) (writtenBytes : Int) :
    ∃ s', s.sendFrame node frame writtenBytes = some s' ∧ CanBusInv s' := by
  obtain ⟨plugin, sent, hsend, hplugin, hsame, hsent⟩ :=
    SocketCanPlugin.sendFrame_spec (h.sockets node) frame writtenBytes
  have hupdate := h.update hplugin hsame
  unfold CanBus.sendFrame
  rw [hsend]
  cases sent with
  | none => exact ⟨_, rfl, hupdate⟩
  | some kernelFrame =>
    obtain ⟨hvalid, rfl⟩ := hsent kernelFrame rfl
    refine ⟨_, rfl, hupdate.give ⟨(isValidFrame_iff.mp hvalid).1, ?_⟩⟩
    intro writer socket other horigin
    obtain ⟨-, -, rfl⟩ : node = writer ∧ s.sockets node = socket ∧ frame = other := by
      simpa using horigin
    exact ⟨hvalid, rfl⟩

theorem transmit (h : CanBusInv s) {dropped : Node → Bool} {s' : CanBus Node}
    (hstep : s.transmit dropped = some s') : CanBusInv s' := by
  unfold CanBus.transmit at hstep
  cases hdevice : s.device with
  | nil =>
    rw [hdevice] at hstep
    cases hstep
  | cons frame rest =>
    rw [hdevice] at hstep
    obtain rfl := Option.some.inj hstep
    have hrest : rest.Sublist s.wire :=
      (List.sublist_cons_self frame rest).trans (hdevice ▸ h.device)
    refine ⟨h.sockets, h.dead, fun node hclosed => ?_, h.wire, hrest, fun node => ?_⟩
    · simp only [hclosed, Bool.false_and, Bool.false_eq_true, if_false]
      exact h.closed node hclosed
    · have hline := h.lines node
      rw [hdevice] at hline
      dsimp only
      split
      · rename_i hgets
        have hother : frame.isOwn node (s.sockets node) = false := by
          simp only [Bool.and_eq_true, Bool.not_eq_true'] at hgets
          exact hgets.1.2
        exact hline.deliver hother
      · exact hline.skip

theorem lose (h : CanBusInv s) : CanBusInv { s with device := s.device.tail } := by
  refine ⟨h.sockets, h.dead, h.closed, h.wire, (List.tail_sublist _).trans h.device,
    fun node => ?_⟩
  have hline := h.lines node
  cases hdevice : s.device with
  | nil =>
    rw [hdevice] at hline
    exact hline
  | cons frame rest =>
    rw [hdevice] at hline
    exact hline.skip

/-- The first frame of a queue is read. -/
theorem read (h : CanBusInv s) {node : Node} {kernelFrame : CanFrame} {rest : List CanFrame}
    (hqueue : s.queues node = kernelFrame :: rest) :
    CanBusInv { s with
      queues := Function.update s.queues node rest
      received := Function.update s.received node
        (s.received node ++ (heardFrame kernelFrame).toList) } := by
  refine ⟨h.sockets, h.dead, fun other hclosed => ?_, h.wire, h.device, fun other => ?_⟩
  · have hempty := h.closed other hclosed
    have hne : other ≠ node := by
      rintro rfl
      rw [hqueue] at hempty
      cases hempty
    simpa [hne] using hempty
  · by_cases heq : other = node
    · subst heq
      have hline := h.lines other
      rw [hqueue] at hline
      simpa using hline.read
    · simpa [heq] using h.lines other

/-- The call runs to its end. -/
theorem receiveFrame (h : CanBusInv s) (node : Node) (failed : Bool) (frame : SocketCanFrame) :
    ∃ s', s.receiveFrame node failed frame = some s' ∧ CanBusInv s' := by
  have hupdate := fun answer => h.update ((h.sockets node).recordRead answer)
    (SocketCanPlugin.isConnected_recordRead (s.plugins node) answer)
  unfold CanBus.receiveFrame SocketCanPlugin.receiveFrame CanBus.read
  cases failed with
  | true =>
    have hfailed : SocketCanTransport.receiveFrame ⟨(s.plugins node).isConnected⟩ .failed frame =
        some (.error, frame) := by
      cases (s.plugins node).isConnected with
      | false => rfl
      | true => rfl
    simp only [if_true, hfailed]
    exact ⟨_, rfl, hupdate .failed⟩
  | false =>
    cases hqueue : s.queues node with
    | nil =>
      have hnone : ∃ result, result ≠ .received ∧ SocketCanTransport.receiveFrame
          ⟨(s.plugins node).isConnected⟩ .wouldBlock frame = some (result, frame) := by
        cases (s.plugins node).isConnected with
        | false => exact ⟨.error, by decide, rfl⟩
        | true => exact ⟨.noData, by decide, rfl⟩
      obtain ⟨result, hresult, hreceive⟩ := hnone
      have hself : Function.update s.queues node [] = s.queues := by
        rw [← hqueue, Function.update_eq_self]
      simp only [Bool.false_eq_true, if_false, hreceive, List.tail_nil, Option.map_some,
        if_neg hresult, hself]
      exact ⟨_, rfl, hupdate .wouldBlock⟩
    | cons kernelFrame rest =>
      have hconnected : (s.plugins node).isConnected = true := by
        cases hclosed : (s.plugins node).isConnected with
        | true => rfl
        | false =>
          rw [h.closed node hclosed] at hqueue
          cases hqueue
      obtain ⟨wired, hwired, rfl⟩ := (h.lines node).mem_wire (hqueue ▸ List.mem_cons_self)
      obtain ⟨result, received, hreceive, -, hheard⟩ := receiveFrame_heard
        (s.plugins node).isConnected (h.wire wired hwired).1 frame
      have hread := (hupdate (.bytes canFrameSize wired.frame)).read hqueue
      rw [hheard hconnected] at hread
      simp only [Bool.false_eq_true, if_false, hreceive, List.tail_cons, Option.map_some]
      refine ⟨_, rfl, ?_⟩
      by_cases hresult : result = .received
      · simpa [hresult] using hread
      · simpa [hresult] using hread

theorem step (h : CanBusInv s) (action : CanAction Node) {s' : CanBus Node}
    (hstep : s.step action = some s') : CanBusInv s' := by
  cases action with
  | start node answers =>
    obtain ⟨halive, hstep⟩ := Option.ite_none_right_eq_some.mp hstep
    obtain rfl := Option.some.inj hstep
    exact h.start halive answers
  | stop node =>
    obtain ⟨-, hstep⟩ := Option.ite_none_right_eq_some.mp hstep
    obtain rfl := Option.some.inj hstep
    exact h.stop node
  | destroy node =>
    obtain ⟨-, hstep⟩ := Option.ite_none_right_eq_some.mp hstep
    obtain rfl := Option.some.inj hstep
    exact h.destroy node
  | sendFrame node frame writtenBytes =>
    obtain ⟨-, hstep⟩ := Option.ite_none_right_eq_some.mp hstep
    obtain ⟨s₁, hsend, hinv⟩ := h.sendFrame node frame writtenBytes
    obtain rfl := Option.some.inj (hsend.symm.trans hstep)
    exact hinv
  | receiveFrame node failed frame =>
    obtain ⟨-, hstep⟩ := Option.ite_none_right_eq_some.mp hstep
    obtain ⟨s₁, hreceive, hinv⟩ := h.receiveFrame node failed frame
    obtain rfl := Option.some.inj (hreceive.symm.trans hstep)
    exact hinv
  | foreign frame =>
    obtain ⟨hlength, hstep⟩ := Option.ite_none_right_eq_some.mp hstep
    obtain rfl := Option.some.inj hstep
    exact h.give ⟨UInt8.le_iff_toNat_le.mp hlength, fun _ _ _ horigin => by cases horigin⟩
  | transmit dropped => exact h.transmit hstep
  | lose =>
    obtain ⟨-, hstep⟩ := Option.ite_none_left_eq_some.mp hstep
    obtain rfl := Option.some.inj hstep
    exact h.lose

end CanBusInv

/-! ## Runs -/

/-- The invariant over every run. -/
theorem canBus_invariant {interfaceName : Bytes} {s : CanBus Node}
    (h : (canBusSystem interfaceName).Reachable TransitionSystem.anyStep s) : CanBusInv s := by
  refine h.invariant CanBusInv ?_ ?_
  · rintro s rfl
    exact ⟨fun _ => SocketCanPlugin.socketInv_create interfaceName,
      fun _ halive => absurd halive.symm Bool.false_ne_true, fun _ _ => rfl,
      fun _ hmem => absurd hmem List.not_mem_nil, List.Sublist.refl _,
      fun _ => .fresh (List.Sublist.refl _)⟩
  · intro s action s' _ hs _ hstep
    exact hs.step action hstep

/-- What a plugin has received since it was connected is, in order, part of what others gave
    to the interface. -/
theorem CanBusInv.received_sublist {s : CanBus Node} (h : CanBusInv s) (node : Node) :
    (s.received node).Sublist
      ((s.wire.filter fun frame => !frame.isOwn node (s.sockets node)).filterMap
        WireFrame.heard) := by
  obtain ⟨reads, hreceived, hline⟩ := h.lines node
  have hreads : reads.Sublist (others node (s.sockets node) s.wire) :=
    (List.sublist_append_left reads _).trans hline
  have hheard := hreads.filterMap heardFrame
  rw [others, List.filterMap_map] at hheard
  have hsame : ∀ frame ∈ s.wire.filter fun frame => !frame.isOwn node (s.sockets node),
      frame.heard = (heardFrame ∘ WireFrame.frame) frame := by
    intro frame hframe
    obtain ⟨-, hsent⟩ := h.wire frame (List.mem_filter.mp hframe).1
    rw [WireFrame.heard, Function.comp_apply]
    split
    · rename_i writer socket sent horigin
      obtain ⟨hvalid, hencoded⟩ := hsent writer socket sent horigin
      rw [hencoded, heardFrame_encoded hvalid]
    · rfl
  rw [hreceived, List.filterMap_congr hsame]
  exact hheard

/-- Over every run of any number of plugins on one interface, with frames of others, failing
    calls, full queues and lost frames: `sendFrame` and `receiveFrame` never copy outside their
    arrays, and `sendFrame` returns true exactly when the plugin is connected, the frame valid
    and the write complete; every call on a descriptor names the one socket that is open, and
    each socket is closed once, those of living plugins that are connected not yet; only valid
    frames are written; and what `receiveFrame` has handed over since the plugin was connected
    are frames that others gave to the interface, in their order, none twice, those of plugins
    with the identifier, flags, length and data that they were sent with. -/
theorem can_bus_delivery (interfaceName : Bytes) {s : CanBus Node}
    (h : (canBusSystem interfaceName).Reachable TransitionSystem.anyStep s) :
    (∀ node frame writtenBytes, ∃ plugin sent,
      (s.plugins node).sendFrame frame writtenBytes =
        some (plugin, sent, (s.plugins node).isConnected && isValidFrame frame &&
          decide (writtenBytes = canFrameSize))) ∧
      (∀ node failed frame, (s.receiveFrame node failed frame).isSome) ∧
      (∀ node, Proper (s.plugins node).trace ∧
        ∀ fd, (s.plugins node).trace.count (.opened fd) =
          (s.plugins node).trace.count (.closed fd) +
            (if (s.plugins node).isConnected ∧ (s.plugins node).socketFd = fd then 1 else 0)) ∧
      (∀ node, s.alive node = false → (s.plugins node).isConnected = false) ∧
      (∀ frame ∈ s.wire, ∀ node socket sent, frame.origin = some (node, socket, sent) →
        isValidFrame sent = true) ∧
      ∀ node, (s.received node).Sublist
        ((s.wire.filter fun frame => !frame.isOwn node (s.sockets node)).filterMap
          WireFrame.heard) := by
  have hinv := canBus_invariant h
  refine ⟨fun node frame writtenBytes => ?_, fun node failed frame => ?_, fun node => ?_,
    hinv.dead, fun frame hframe node socket sent horigin => ?_, hinv.received_sublist⟩
  · obtain ⟨plugin, sent, hsend, -⟩ :=
      SocketCanPlugin.sendFrame_spec (hinv.sockets node) frame writtenBytes
    exact ⟨plugin, sent, hsend⟩
  · obtain ⟨s', hreceive, -⟩ := hinv.receiveFrame node failed frame
    rw [hreceive]
    rfl
  · have hsocket := hinv.sockets node
    refine ⟨hsocket.proper, fun fd => ?_⟩
    rw [hsocket.proper.opened_eq, hsocket.isOpen_eq]
    by_cases hopen : (s.plugins node).isConnected = true ∧ (s.plugins node).socketFd = fd
    · simp [hopen.1, hopen.2]
    · rw [if_neg hopen]
      rw [not_and] at hopen
      cases hconnected : (s.plugins node).isConnected with
      | false => rfl
      | true => simp [hopen hconnected]
  · exact ((hinv.wire frame hframe).2 node socket sent horigin).1

/-- A frame with two data bytes. -/
def sampleFrame : SocketCanFrame := { id := 0x123, dataLength := 2, extended := false }

theorem can_bus_delivery_sample :
    ∃ s : CanBus Bool, s.received false = [sampleFrame] ∧
      (s.received false).Sublist
        ((s.wire.filter fun frame => !frame.isOwn false (s.sockets false)).filterMap
          WireFrame.heard) := by
  obtain ⟨s, -, hreach, hreceived⟩ := TransitionSystem.exists_of_run
    (canBusSystem (ascii "vcan0")) TransitionSystem.anyStep
    [.start true ⟨3, 0, 0⟩, .start false ⟨4, 0, 0⟩, .sendFrame true sampleFrame 16,
      .transmit fun _ => false, .receiveFrame false false {}, .destroy true]
    (fun s => s.received false = [sampleFrame]) rfl (by decide +kernel)
  exact ⟨s, of_decide_eq_true hreceived, (can_bus_delivery _ hreach).2.2.2.2.2 false⟩

end EdgeLink
