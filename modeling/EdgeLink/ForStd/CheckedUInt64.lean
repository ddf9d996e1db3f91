import Mathlib.Algebra.Order.Ring.Nat

/-! # Unsigned arithmetic that must not wrap

The operations of `UInt64`, with `none` where the exact result does not fit. Code that is
written with them has wrapped nowhere if it gives a result.

* `checkedAdd_of_lt`, `checkedSub_of_le`, `checkedMul_of_lt`: when an operation gives a result,
  and which.
* `add_guard`: the usual test before a sum.
* `toInt_toInt64`: the conversion to a signed number. -/

namespace UInt64

/-- A sum that fits. -/
def checkedAdd (a b : UInt64) : Option UInt64 :=
  if a.toNat + b.toNat < 2 ^ 64 then some (a + b) else none

/-- A difference that is not negative. -/
def checkedSub (a b : UInt64) : Option UInt64 :=
  if b.toNat ≤ a.toNat then some (a - b) else none

/-- A product that fits. -/
def checkedMul (a b : UInt64) : Option UInt64 :=
  if a.toNat * b.toNat < 2 ^ 64 then some (a * b) else none

theorem checkedAdd_of_lt {a b : UInt64} (h : a.toNat + b.toNat < 2 ^ 64) :
    ∃ c, checkedAdd a b = some c ∧ c.toNat = a.toNat + b.toNat := by
  refine ⟨a + b, if_pos h, ?_⟩
  rw [UInt64.toNat_add]
  exact Nat.mod_eq_of_lt h

theorem checkedSub_of_le {a b : UInt64} (h : b.toNat ≤ a.toNat) :
    ∃ c, checkedSub a b = some c ∧ c.toNat = a.toNat - b.toNat :=
  ⟨a - b, if_pos h, UInt64.toNat_sub_of_le _ _ (UInt64.le_iff_toNat_le.mpr h)⟩

theorem checkedMul_of_lt {a b : UInt64} (h : a.toNat * b.toNat < 2 ^ 64) :
    ∃ c, checkedMul a b = some c ∧ c.toNat = a.toNat * b.toNat := by
  refine ⟨a * b, if_pos h, ?_⟩
  rw [UInt64.toNat_mul]
  exact Nat.mod_eq_of_lt h

/-- A number other than zero is positive. -/
theorem toNat_pos_of_ne_zero {a : UInt64} (h : a ≠ 0) : 0 < a.toNat := by
  rw [Nat.pos_iff_ne_zero, ne_eq, ← UInt64.toNat_zero, UInt64.toNat_inj]
  exact h

/-- A small number stays the same as a signed one. -/
theorem toInt_toInt64 {a : UInt64} (h : a.toNat < 2 ^ 63) : a.toInt64.toInt = a.toNat := by
  show a.toBitVec.toInt = a.toNat
  rw [BitVec.toInt_eq_toNat_cond]
  exact if_pos (by show 2 * a.toNat < 2 ^ 64; omega)

/-- `std::numeric_limits<std::uint64_t>::max()`. -/
def maximum : UInt64 := 0xFFFFFFFFFFFFFFFF

@[simp] theorem toNat_maximum : maximum.toNat = 2 ^ 64 - 1 := rfl

/-- The guard `a > max - b` of a sum: taking `b` from the maximum never wraps, and the guard
    refuses exactly the sums that would. -/
theorem add_guard (a b : UInt64) :
    ∃ room, maximum.checkedSub b = some room ∧
      ((a > room ∧ 2 ^ 64 ≤ a.toNat + b.toNat) ∨
        (¬ a > room ∧ ∃ c, checkedAdd a b = some c ∧ c.toNat = a.toNat + b.toNat)) := by
  have hb := b.toNat_lt
  obtain ⟨room, hroom, hvalue⟩ :=
    checkedSub_of_le (a := maximum) (b := b) (by rw [toNat_maximum]; omega)
  rw [toNat_maximum] at hvalue
  refine ⟨room, hroom, ?_⟩
  by_cases hguard : a > room
  · have hlt := UInt64.lt_iff_toNat_lt.mp hguard
    exact .inl ⟨hguard, by omega⟩
  · have hle := UInt64.lt_iff_toNat_lt.not.mp hguard
    exact .inr ⟨hguard, checkedAdd_of_lt (by omega)⟩

end UInt64
