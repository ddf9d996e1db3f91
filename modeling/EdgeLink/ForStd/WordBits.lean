import Mathlib.Data.Nat.Bitwise

/-! # Flags and fields of a word

A 32-bit word with a number in its low bits and flags above it: a flag is tested with a
single bit, and the number is cut out with a mask of ones.

* `UInt32.and_bit_ne_zero_iff`: the test of a flag.
* `UInt32.toNat_and_mask`: the number under a mask. -/

namespace UInt32

/-- A word and a single bit. -/
theorem and_bit_ne_zero_iff (word : UInt32) {bit : UInt32} {i : Nat} (hbit : bit.toNat = 2 ^ i) :
    word &&& bit ≠ 0 ↔ word.toNat.testBit i = true := by
  rw [ne_eq, ← UInt32.toNat_inj, UInt32.toNat_and, hbit, Nat.and_two_pow]
  cases word.toNat.testBit i with
  | false => simp
  | true => simp

/-- The low bits of a word. -/
theorem toNat_and_mask (word : UInt32) {mask : UInt32} {n : Nat}
    (hmask : mask.toNat = 2 ^ n - 1) : (word &&& mask).toNat = word.toNat % 2 ^ n := by
  rw [UInt32.toNat_and, hmask, Nat.and_two_pow_sub_one_eq_mod]

end UInt32
