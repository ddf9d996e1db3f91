import Mathlib.Data.List.Basic
import Mathlib.Tactic.Ring

/-!
# Object representations of fixed-width integers

Generic facts about little-endian byte strings and about the types whose values
are copied in and out of memory byte by byte (`memcpy`).

* `LittleEndian.encode` / `LittleEndian.decode`: a natural number as `width` bytes,
  low byte first, and back.
* `Pod`: a trivially copyable type. The class carries the proofs that its
  representation is exactly `width` bytes and loses nothing, so no later proof
  looks at the individual integer type again.
-/

namespace LittleEndian

/-- The `width` low-order bytes of `n`, low byte first. -/
def encode : (width : Nat) → (n : Nat) → List UInt8
  | 0, _ => []
  | width + 1, n => UInt8.ofNat n :: encode width (n / 256)

/-- The number a little-endian byte string denotes. -/
def decode : List UInt8 → Nat
  | [] => 0
  | byte :: bytes => byte.toNat + 256 * decode bytes

@[simp] theorem length_encode (width n : Nat) : (encode width n).length = width := by
  induction width generalizing n with
  | zero => rfl
  | succ width ih => simp [encode, ih]

/-- A byte string of `bytes.length` bytes denotes a number below `256 ^ bytes.length`. -/
theorem decode_lt (bytes : List UInt8) : decode bytes < 256 ^ bytes.length := by
  induction bytes with
  | nil => simp [decode]
  | cons byte bytes ih =>
    have hbyte : byte.toNat < 256 := byte.toNat_lt
    simp only [decode, List.length_cons, Nat.pow_succ]
    omega

/-- Decoding gives back every number that fits in the width. -/
theorem decode_encode (width n : Nat) (h : n < 256 ^ width) :
    decode (encode width n) = n := by
  induction width generalizing n with
  | zero => simp only [Nat.pow_zero] at h; simp only [encode, decode]; omega
  | succ width ih =>
    have hdiv : n / 256 < 256 ^ width := by
      rw [Nat.pow_succ] at h
      exact Nat.div_lt_of_lt_mul (by omega)
    simp only [encode, decode, ih _ hdiv, UInt8.toNat_ofNat']
    omega

/-- Encoding gives back every byte string of the width. -/
theorem encode_decode (bytes : List UInt8) :
    encode bytes.length (decode bytes) = bytes := by
  induction bytes with
  | nil => rfl
  | cons byte bytes ih =>
    have hbyte : byte.toNat < 256 := byte.toNat_lt
    have hdiv : (byte.toNat + 256 * decode bytes) / 256 = decode bytes := by omega
    have hlow : UInt8.ofNat (byte.toNat + 256 * decode bytes) = byte := by
      apply UInt8.toNat_inj.mp
      rw [UInt8.toNat_ofNat']
      omega
    simp only [List.length_cons, encode, decode, hdiv, ih, hlow]

end LittleEndian

/-- A trivially copyable type: its values are exactly the byte strings of `width`
    bytes, read as little-endian numbers. -/
class Pod (α : Type) where
  /-- `sizeof(α)` -/
  width : Nat
  toNat : α → Nat
  ofNat : Nat → α
  toNat_lt (a : α) : toNat a < 256 ^ width
  ofNat_toNat (a : α) : ofNat (toNat a) = a
  toNat_ofNat (n : Nat) (h : n < 256 ^ width) : toNat (ofNat n) = n

namespace Pod

instance : Pod UInt8 where
  width := 1
  toNat := UInt8.toNat
  ofNat := UInt8.ofNat
  toNat_lt a := a.toNat_lt
  ofNat_toNat a := by simp
  toNat_ofNat n h := by simpa using Nat.mod_eq_of_lt h

instance : Pod UInt16 where
  width := 2
  toNat := UInt16.toNat
  ofNat := UInt16.ofNat
  toNat_lt a := a.toNat_lt
  ofNat_toNat a := by simp
  toNat_ofNat n h := by simpa using Nat.mod_eq_of_lt h

instance : Pod UInt32 where
  width := 4
  toNat := UInt32.toNat
  ofNat := UInt32.ofNat
  toNat_lt a := a.toNat_lt
  ofNat_toNat a := by simp
  toNat_ofNat n h := by simpa using Nat.mod_eq_of_lt h

instance : Pod UInt64 where
  width := 8
  toNat := UInt64.toNat
  ofNat := UInt64.ofNat
  toNat_lt a := a.toNat_lt
  ofNat_toNat a := by simp
  toNat_ofNat n h := by simpa using Nat.mod_eq_of_lt h

instance : Pod Int8 where
  width := 1
  toNat a := a.toUInt8.toNat
  ofNat n := (UInt8.ofNat n).toInt8
  toNat_lt a := a.toUInt8.toNat_lt
  ofNat_toNat a := by simp
  toNat_ofNat n h := by simpa using Nat.mod_eq_of_lt h

instance : Pod Int16 where
  width := 2
  toNat a := a.toUInt16.toNat
  ofNat n := (UInt16.ofNat n).toInt16
  toNat_lt a := a.toUInt16.toNat_lt
  ofNat_toNat a := by simp
  toNat_ofNat n h := by simpa using Nat.mod_eq_of_lt h

instance : Pod Int32 where
  width := 4
  toNat a := a.toUInt32.toNat
  ofNat n := (UInt32.ofNat n).toInt32
  toNat_lt a := a.toUInt32.toNat_lt
  ofNat_toNat a := by simp
  toNat_ofNat n h := by simpa using Nat.mod_eq_of_lt h

instance : Pod Int64 where
  width := 8
  toNat a := a.toUInt64.toNat
  ofNat n := (UInt64.ofNat n).toInt64
  toNat_lt a := a.toUInt64.toNat_lt
  ofNat_toNat a := by simp
  toNat_ofNat n h := by simpa using Nat.mod_eq_of_lt h

variable {α : Type} [Pod α]

/-- The object representation of a value. -/
def bytes (a : α) : List UInt8 := LittleEndian.encode (width α) (toNat a)

/-- The value with the given object representation. -/
def ofBytes (α : Type) [Pod α] (bytes : List UInt8) : α := ofNat (LittleEndian.decode bytes)

@[simp] theorem length_bytes (a : α) : (bytes a).length = width α := by
  simp [bytes]

/-- Copying a value out of memory and back loses nothing. -/
@[simp] theorem ofBytes_bytes (a : α) : ofBytes α (bytes a) = a := by
  rw [ofBytes, bytes, LittleEndian.decode_encode _ _ (toNat_lt a), ofNat_toNat]

/-- Every byte string of the right length is the representation of a value. -/
theorem bytes_ofBytes (bs : List UInt8) (h : bs.length = width α) :
    bytes (ofBytes α bs) = bs := by
  have hlt : LittleEndian.decode bs < 256 ^ width α := h ▸ LittleEndian.decode_lt bs
  rw [bytes, ofBytes, toNat_ofNat _ hlt, ← h, LittleEndian.encode_decode]

end Pod
