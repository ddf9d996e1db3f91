import Mathlib.Algebra.Order.Field.Power
import Mathlib.Tactic.Positivity
import EdgeLink.ForStd.CText

/-!
# Binary floating-point numbers

The interchange formats of IEEE 754, as far as their values go: a bit pattern is a NaN, an
infinity or a sign, a significand and an exponent (`decode`).

The main result is `le_mul_dist`: two numbers of a format with `p` bits of precision are as
far apart as `2 ^ -p` times the one or the other.
-/

open CText

/-- The widths of the two fields of a format. -/
structure BinaryFormat where
  fractionBits : Nat
  exponentBits : Nat

/-- `float`. -/
def binary32 : BinaryFormat := ⟨23, 8⟩

/-- `double`. -/
def binary64 : BinaryFormat := ⟨52, 11⟩

/-- What a bit pattern stands for. A finite number is `± significand * 2 ^ exponent`. -/
inductive FloatValue where
  | nan (negative : Bool)
  | infinite (negative : Bool)
  | finite (negative : Bool) (significand : Nat) (exponent : Int)
deriving DecidableEq

namespace BinaryFormat

/-- The bits of a significand. -/
def precision (F : BinaryFormat) : Nat := F.fractionBits + 1

/-- The exponent of the subnormal numbers. -/
def minExponent (F : BinaryFormat) : Int := 2 - 2 ^ (F.exponentBits - 1) - F.fractionBits

def decode (F : BinaryFormat) (bits : Nat) : FloatValue :=
  let fraction := bits % 2 ^ F.fractionBits
  let exponent := bits / 2 ^ F.fractionBits % 2 ^ F.exponentBits
  let negative := bits / 2 ^ (F.fractionBits + F.exponentBits) % 2 = 1
  if exponent = 2 ^ F.exponentBits - 1 then
    if fraction = 0 then .infinite negative else .nan negative
  -- a subnormal number has no hidden bit
  else if exponent = 0 then .finite negative fraction F.minExponent
  else .finite negative (2 ^ F.fractionBits + fraction) (F.minExponent + (exponent - 1))

end BinaryFormat

namespace FloatValue

def isFinite : FloatValue → Bool
  | .finite _ _ _ => true
  | _ => false

/-- The number of a finite value. -/
def number : FloatValue → ℚ
  | .finite negative significand exponent => signed negative significand * 2 ^ exponent
  | _ => 0

end FloatValue

namespace BinaryFormat

/-- The significands fit into the precision. -/
theorem significand_lt (F : BinaryFormat) {bits significand : Nat} {negative : Bool}
    {exponent : Int} (h : F.decode bits = .finite negative significand exponent) :
    significand < 2 ^ F.precision := by
  have hfraction : bits % 2 ^ F.fractionBits < 2 ^ F.fractionBits :=
    Nat.mod_lt _ (Nat.two_pow_pos _)
  have hprecision : 2 ^ F.precision = 2 ^ F.fractionBits + 2 ^ F.fractionBits := by
    rw [precision, pow_succ]
    omega
  simp only [decode] at h
  split at h
  · split at h
    · cases h
    · cases h
  split at h
  · cases h
    omega
  · cases h
    omega

end BinaryFormat

/-! ## Distances -/

/-- Multiples of different powers of two that differ, differ by the smaller power. -/
theorem zpow_le_dist (s s' e e' : Int) (he : e ≤ e')
    (hne : (s : ℚ) * 2 ^ e ≠ s' * 2 ^ e') : (2 : ℚ) ^ e ≤ |(s : ℚ) * 2 ^ e - s' * 2 ^ e'| := by
  obtain ⟨n, rfl⟩ : ∃ n : Nat, e' = e + n := ⟨(e' - e).toNat, by omega⟩
  have hpos : (0 : ℚ) < 2 ^ e := by positivity
  have hfactor : (s : ℚ) * 2 ^ e - s' * 2 ^ (e + n) = (s - s' * 2 ^ n : Int) * 2 ^ e := by
    rw [zpow_add₀ (by norm_num), zpow_natCast]
    push_cast
    ring
  have hint : (s - s' * 2 ^ n : Int) ≠ 0 := by
    intro hzero
    rw [hzero, Int.cast_zero, zero_mul, sub_eq_zero] at hfactor
    exact hne hfactor
  have hone : (1 : ℚ) ≤ |((s - s' * 2 ^ n : Int) : ℚ)| := by
    rw [← Int.cast_abs]
    exact_mod_cast Int.one_le_abs hint
  rw [hfactor, abs_mul, abs_of_pos hpos]
  exact le_mul_of_one_le_left hpos.le hone

/-- A number is not larger than `2 ^ p` times its distance to another one, where both have
    significands of `p` bits. -/
theorem le_mul_dist (p : Nat) (s s' e e' : Int) (hs : |s| < 2 ^ p) (hs' : |s'| < 2 ^ p)
    (hne : (s : ℚ) * 2 ^ e ≠ s' * 2 ^ e') :
    |(s : ℚ) * 2 ^ e| ≤ 2 ^ p * |(s : ℚ) * 2 ^ e - s' * 2 ^ e'| := by
  -- at most `2 ^ p - 1` of the units in which the significand counts
  have hbound : ∀ (t f : Int), |t| < 2 ^ p →
      |(t : ℚ) * 2 ^ f| ≤ (2 ^ p - 1) * 2 ^ f := by
    intro t f ht
    have hpos : (0 : ℚ) < 2 ^ f := by positivity
    have hcast : |(t : ℚ)| ≤ 2 ^ p - 1 := by
      have hle : |t| ≤ 2 ^ p - 1 := by omega
      exact_mod_cast hle
    rw [abs_mul, abs_of_pos hpos]
    exact mul_le_mul_of_nonneg_right hcast hpos.le
  have hp : (1 : ℚ) ≤ 2 ^ p := one_le_pow₀ (by norm_num)
  have hnonneg := abs_nonneg ((s : ℚ) * 2 ^ e - s' * 2 ^ e')
  rcases le_total e e' with he | he
  · have hdist := zpow_le_dist s s' e e' he hne
    calc |(s : ℚ) * 2 ^ e| ≤ (2 ^ p - 1) * 2 ^ e := hbound s e hs
      _ ≤ (2 ^ p - 1) * |(s : ℚ) * 2 ^ e - s' * 2 ^ e'| :=
        mul_le_mul_of_nonneg_left hdist (by linarith)
      _ ≤ 2 ^ p * |(s : ℚ) * 2 ^ e - s' * 2 ^ e'| :=
        mul_le_mul_of_nonneg_right (by linarith) hnonneg
  · have hdist := zpow_le_dist s' s e' e he hne.symm
    rw [abs_sub_comm] at hdist
    have htriangle : |(s : ℚ) * 2 ^ e| ≤
        |(s' : ℚ) * 2 ^ e'| + |(s : ℚ) * 2 ^ e - s' * 2 ^ e'| := by
      have hsum := abs_add_le ((s' : ℚ) * 2 ^ e') ((s : ℚ) * 2 ^ e - s' * 2 ^ e')
      rwa [add_sub_cancel] at hsum
    calc |(s : ℚ) * 2 ^ e| ≤ |(s' : ℚ) * 2 ^ e'| + |(s : ℚ) * 2 ^ e - s' * 2 ^ e'| := htriangle
      _ ≤ (2 ^ p - 1) * 2 ^ e' + |(s : ℚ) * 2 ^ e - s' * 2 ^ e'| :=
        add_le_add_left (hbound s' e' hs') _
      _ ≤ (2 ^ p - 1) * |(s : ℚ) * 2 ^ e - s' * 2 ^ e'| + |(s : ℚ) * 2 ^ e - s' * 2 ^ e'| :=
        add_le_add_left (mul_le_mul_of_nonneg_left hdist (by linarith)) _
      _ = 2 ^ p * |(s : ℚ) * 2 ^ e - s' * 2 ^ e'| := by ring
