import EdgeLink.ForStd.WordBits
import EdgeLink.Native.SocketCanTransport

/-! # CAN frames there and back

The identifier and the flags share one word. An identifier that `isValidFrame` accepts stays
below the flags, so both can be taken apart again, and the mask that `receiveFrame` uses is
the one of the format that the word says it has.

* `canId_flags`, `canId_mask`: the word of a valid frame.
* `receivedFrame_kernelFrame`: decoding what was encoded.
* `can_frame_round_trip`: both directions, and that a rejected frame is not written. -/

namespace EdgeLink

namespace SocketCanTransport

variable {frame : SocketCanFrame}

/-- What `isValidFrame` checks. -/
theorem isValidFrame_iff :
    isValidFrame frame = true ↔
      frame.dataLength.toNat ≤ 8 ∧
        frame.id.toNat < 2 ^ (if frame.extended then 29 else 11) := by
  have hmaximum : (if frame.extended then CAN_EFF_MASK else CAN_SFF_MASK).toNat =
      2 ^ (if frame.extended then 29 else 11) - 1 := by
    cases frame.extended <;> rfl
  have hlength : socketCanClassicMaxDataLength.toNat = 8 := rfl
  have hpower := Nat.two_pow_pos (if frame.extended then 29 else 11)
  unfold isValidFrame
  split
  · rename_i hlong
    rw [gt_iff_lt, UInt8.lt_iff_toNat_lt, hlength] at hlong
    exact iff_of_false Bool.false_ne_true (by omega)
  · rename_i hshort
    rw [gt_iff_lt, UInt8.lt_iff_toNat_lt, hlength] at hshort
    rw [decide_eq_true_iff, UInt32.le_iff_toNat_le, hmaximum]
    omega

/-- The bits of the identifier word. -/
theorem testBit_canId (frame : SocketCanFrame) (i : Nat) :
    (canId frame).toNat.testBit i =
      (frame.id.toNat.testBit i || (frame.extended && decide (31 = i)) ||
        (frame.remoteTransmissionRequest && decide (30 = i))) := by
  have heff : (2 ^ 31).testBit i = decide (31 = i) := Nat.testBit_two_pow
  have hrtr : (2 ^ 30).testBit i = decide (30 = i) := Nat.testBit_two_pow
  change CAN_EFF_FLAG.toNat.testBit i = _ at heff
  change CAN_RTR_FLAG.toNat.testBit i = _ at hrtr
  unfold canId
  cases frame.extended <;> cases frame.remoteTransmissionRequest <;>
    simp [UInt32.toNat_or, Nat.testBit_or, heff, hrtr]

/-- The identifier has no bit where the flags are. -/
theorem testBit_id (h : isValidFrame frame = true) {i : Nat} (hi : 29 ≤ i) :
    frame.id.toNat.testBit i = false := by
  have hid := (isValidFrame_iff.mp h).2
  apply Nat.testBit_eq_false_of_lt
  refine lt_of_lt_of_le hid (Nat.pow_le_pow_right (by decide) ?_)
  split <;> omega

/-- The flags of the identifier word are those of the frame, and there is no error flag. -/
theorem canId_flags (h : isValidFrame frame = true) :
    (canId frame &&& CAN_EFF_FLAG ≠ 0 ↔ frame.extended = true) ∧
      (canId frame &&& CAN_RTR_FLAG ≠ 0 ↔ frame.remoteTransmissionRequest = true) ∧
      ¬ canId frame &&& CAN_ERR_FLAG ≠ 0 := by
  have heff : CAN_EFF_FLAG.toNat = 2 ^ 31 := rfl
  have hrtr : CAN_RTR_FLAG.toNat = 2 ^ 30 := rfl
  have herr : CAN_ERR_FLAG.toNat = 2 ^ 29 := rfl
  rw [UInt32.and_bit_ne_zero_iff _ heff, UInt32.and_bit_ne_zero_iff _ hrtr,
    UInt32.and_bit_ne_zero_iff _ herr]
  simp [testBit_canId, testBit_id h]

/-- A mask that is as wide as the identifier cuts it out. -/
theorem canId_mod {n : Nat} (hn : n ≤ 29) (hid : frame.id.toNat < 2 ^ n) :
    (canId frame).toNat % 2 ^ n = frame.id.toNat := by
  apply Nat.eq_of_testBit_eq
  intro i
  rw [Nat.testBit_mod_two_pow, testBit_canId]
  by_cases hi : i < n
  · have h31 : ¬ 31 = i := by omega
    have h30 : ¬ 30 = i := by omega
    simp [hi, h31, h30]
  · have hnone : frame.id.toNat.testBit i = false :=
      Nat.testBit_eq_false_of_lt
        (lt_of_lt_of_le hid (Nat.pow_le_pow_right (by decide) (by omega)))
    simp [hi, hnone]

/-- The identifier under the mask of a format. -/
theorem toNat_and_idMask (word : UInt32) (extended : Bool) :
    (word &&& if extended then CAN_EFF_MASK else CAN_SFF_MASK).toNat =
      word.toNat % 2 ^ (if extended then 29 else 11) := by
  cases extended with
  | true => exact UInt32.toNat_and_mask (n := 29) word rfl
  | false => exact UInt32.toNat_and_mask (n := 11) word rfl

/-- So the identifier comes back. -/
theorem canId_mask (h : isValidFrame frame = true) :
    canId frame &&& (if frame.extended then CAN_EFF_MASK else CAN_SFF_MASK) = frame.id := by
  rw [← UInt32.toNat_inj, toNat_and_idMask]
  apply canId_mod _ (isValidFrame_iff.mp h).2
  split <;> omega

/-! ## Data -/

/-- An array of zeros. -/
def zeros : CanData := Vector.replicate 8 0

/-- The frame without the data bytes after its length. -/
def kept (frame : SocketCanFrame) : SocketCanFrame :=
  { frame with data := overwrite zeros frame.data frame.dataLength.toNat }

/-- The kernel frame of a valid frame. -/
def encoded (frame : SocketCanFrame) : CanFrame where
  can_id := canId frame
  can_dlc := frame.dataLength
  data := (kept frame).data

/-- The bytes after a copy. -/
theorem getElem_overwrite (destination source : CanData) (count : Nat) {i : Nat} (hi : i < 8) :
    (overwrite destination source count)[i] = if i < count then source[i] else destination[i] := by
  simp [overwrite]

/-- Copying the bytes that were copied changes nothing. -/
theorem overwrite_twice (destination source : CanData) (count : Nat) :
    overwrite destination (overwrite destination source count) count =
      overwrite destination source count := by
  apply Vector.ext
  intro i hi
  rw [getElem_overwrite, getElem_overwrite]
  split <;> rfl

/-- A copy of at most eight bytes stays within the arrays. -/
theorem copyData_eq_some_iff {destination source data : CanData} {count : Nat} :
    copyData destination source count = some data ↔
      count ≤ 8 ∧ overwrite destination source count = data := by
  unfold copyData
  split
  · rename_i hcount
    rw [Option.some.injEq, and_iff_right hcount]
  · rename_i hcount
    exact iff_of_false nofun fun h => hcount h.1

/-- The kernel frame of a valid frame. -/
theorem kernelFrame_eq (h : isValidFrame frame = true) :
    kernelFrame frame = some (encoded frame) := by
  rw [kernelFrame, copyData_eq_some_iff.mpr ⟨(isValidFrame_iff.mp h).1, rfl⟩]
  rfl

/-- Decoding the kernel frame of a valid frame gives the frame, as far as its length goes. -/
theorem receivedFrame_kernelFrame (h : isValidFrame frame = true) :
    receivedFrame (encoded frame) = some (kept frame) := by
  obtain ⟨heff, hrtr, -⟩ := canId_flags h
  have hmask := canId_mask h
  have hcopy : copyData (Vector.replicate 8 0) (encoded frame).data frame.dataLength.toNat =
      some (kept frame).data :=
    copyData_eq_some_iff.mpr ⟨(isValidFrame_iff.mp h).1, overwrite_twice _ _ _⟩
  rw [receivedFrame]
  simp only [encoded] at hcopy ⊢
  rw [hcopy]
  simp [heff, hrtr, hmask, kept]

/-- What is received is valid, and has no data after its length. -/
theorem receivedFrame_valid {kernelFrame : CanFrame} {received : SocketCanFrame}
    (h : receivedFrame kernelFrame = some received) :
    isValidFrame received = true ∧ kept received = received := by
  obtain ⟨data, hcopy, rfl⟩ := Option.map_eq_some_iff.mp h
  obtain ⟨hlength, rfl⟩ := copyData_eq_some_iff.mp hcopy
  constructor
  · rw [isValidFrame_iff]
    refine ⟨hlength, ?_⟩
    -- the mask is the one of the format that the flag says
    show (_ &&& if _ then CAN_EFF_MASK else CAN_SFF_MASK).toNat < _
    rw [toNat_and_idMask]
    exact Nat.mod_lt _ (Nat.two_pow_pos _)
  · unfold kept
    congr 1
    exact overwrite_twice _ _ _

/-- A kernel frame whose length fits is decoded. -/
theorem receivedFrame_isSome {kernelFrame : CanFrame} (h : kernelFrame.can_dlc.toNat ≤ 8) :
    ∃ received, receivedFrame kernelFrame = some received := by
  unfold receivedFrame
  rw [copyData_eq_some_iff.mpr ⟨h, rfl⟩]
  exact ⟨_, rfl⟩

/-! ## The two calls -/

/-- A valid frame is sent as its kernel frame. -/
theorem sendFrame_valid (transport : SocketCanTransport) (hconnected : transport.connected = true)
    (h : isValidFrame frame = true) (writtenBytes : Int) :
    sendFrame transport frame writtenBytes =
      some (some (encoded frame), decide (writtenBytes = canFrameSize)) := by
  rw [sendFrame, hconnected, h, kernelFrame_eq h]
  rfl

/-- Received again, it is the frame that was sent, without the data after its length. -/
theorem receiveFrame_kernelFrame (transport : SocketCanTransport)
    (hconnected : transport.connected = true) (h : isValidFrame frame = true)
    (before : SocketCanFrame) :
    receiveFrame transport (.bytes canFrameSize (encoded frame)) before =
      some (.received, kept frame) := by
  have herr : ¬ (encoded frame).can_id &&& CAN_ERR_FLAG ≠ 0 := (canId_flags h).2.2
  rw [receiveFrame, hconnected]
  simp only [herr, receivedFrame_kernelFrame h]
  rfl

/-- A kernel frame whose length fits is read without leaving the arrays, and a frame that is
    delivered is the decoded one. -/
theorem receiveFrame_cases (transport : SocketCanTransport) (count : Nat) {kernelFrame : CanFrame}
    (h : kernelFrame.can_dlc.toNat ≤ 8) (before : SocketCanFrame) :
    receiveFrame transport (.bytes count kernelFrame) before = some (.error, before) ∨
      ∃ received, receivedFrame kernelFrame = some received ∧
        receiveFrame transport (.bytes count kernelFrame) before = some (.received, received) := by
  obtain ⟨received, hreceived⟩ := receivedFrame_isSome h
  cases hconnected : transport.connected with
  | false => exact .inl (by simp [receiveFrame, hconnected])
  | true =>
    by_cases herror : count ≠ canFrameSize ∨ kernelFrame.can_id &&& CAN_ERR_FLAG ≠ 0
    · exact .inl (by simp only [receiveFrame, hconnected, Bool.not_true, Bool.false_eq_true,
        if_false, if_pos herror])
    · exact .inr ⟨received, hreceived, by simp only [receiveFrame, hconnected, Bool.not_true,
        Bool.false_eq_true, if_false, if_neg herror, hreceived, Option.map_some]⟩

/-- A valid frame arrives as it was sent, up to its length; a rejected frame is not written;
    and a frame that was received is valid, and arrives unchanged when it is sent on. -/
theorem can_frame_round_trip :
    (∀ (sender receiver : SocketCanTransport) (frame before : SocketCanFrame)
        (writtenBytes : Int),
      sender.connected = true → receiver.connected = true → isValidFrame frame = true →
        ∃ kernelFrame received,
          sendFrame sender frame writtenBytes =
              some (some kernelFrame, decide (writtenBytes = canFrameSize)) ∧
            receiveFrame receiver (.bytes canFrameSize kernelFrame) before =
              some (.received, received) ∧
            received.id = frame.id ∧ received.extended = frame.extended ∧
            received.remoteTransmissionRequest = frame.remoteTransmissionRequest ∧
            received.dataLength = frame.dataLength ∧
            ∀ i (hi : i < 8), i < frame.dataLength.toNat → received.data[i] = frame.data[i]) ∧
    (∀ (sender : SocketCanTransport) (frame : SocketCanFrame) (writtenBytes : Int),
      isValidFrame frame = false → sendFrame sender frame writtenBytes = some (none, false)) ∧
    ∀ (receiver : SocketCanTransport) (count : Nat) (kernelFrame : CanFrame)
        (before : SocketCanFrame),
      kernelFrame.can_dlc.toNat ≤ 8 →
        ∃ result received,
          receiveFrame receiver (.bytes count kernelFrame) before = some (result, received) ∧
            (result = .received →
              isValidFrame received = true ∧
                ∀ (sender receiver : SocketCanTransport) (before : SocketCanFrame)
                    (writtenBytes : Int),
                  sender.connected = true → receiver.connected = true →
                    ∃ kernelFrame,
                      sendFrame sender received writtenBytes =
                          some (some kernelFrame, decide (writtenBytes = canFrameSize)) ∧
                        receiveFrame receiver (.bytes canFrameSize kernelFrame) before =
                          some (.received, received)) := by
  refine ⟨?_, ?_, ?_⟩
  · intro sender receiver frame before writtenBytes hsender hreceiver hvalid
    refine ⟨_, kept frame, sendFrame_valid sender hsender hvalid writtenBytes,
      receiveFrame_kernelFrame receiver hreceiver hvalid before, rfl, rfl, rfl, rfl, ?_⟩
    intro i hi hkept
    exact (getElem_overwrite _ _ _ hi).trans (if_pos hkept)
  · intro sender frame writtenBytes hinvalid
    rw [sendFrame, hinvalid]
    split <;> rfl
  · intro receiver count kernelFrame before hlength
    obtain herror | ⟨received, hreceived, hresult⟩ :=
      receiveFrame_cases receiver count hlength before
    · exact ⟨_, _, herror, fun h => nomatch h⟩
    · refine ⟨_, _, hresult, fun _ => ?_⟩
      obtain ⟨hvalid, hkept⟩ := receivedFrame_valid hreceived
      refine ⟨hvalid, fun sender receiver before writtenBytes hsender hreceiver => ?_⟩
      have hagain := receiveFrame_kernelFrame receiver hreceiver hvalid before
      -- nothing stands after the length, so the whole frame comes back
      rw [show (.received, kept received) = (SocketCanReceiveResult.received, received) by
        rw [hkept]] at hagain
      exact ⟨_, sendFrame_valid sender hsender hvalid writtenBytes, hagain⟩

end SocketCanTransport

end EdgeLink
