import Mathlib.Tactic.Linarith
import Mathlib.Order.Interval.Set.Basic

/-! # Capped doubling

The sequence `min (initial * 2 ^ k) maximum` of an exponential backoff, and the facts
about 64-bit words that relate it to machine arithmetic.

* `cappedDoubling_succ`: one doubling and one comparison give the next member.
* `Int64.toInt_add_exact`, `Int64.toInt_mul_exact`: an operation whose exact result
  fits does not wrap. -/

/-- The `k`-th delay of an exponential backoff. -/
def cappedDoubling (initial maximum : Int) (k : Nat) : Int := min (initial * 2 ^ k) maximum

section

variable {initial maximum : Int}

@[simp] theorem cappedDoubling_zero (h : initial ≤ maximum) :
    cappedDoubling initial maximum 0 = initial := by
  simp [cappedDoubling, h]

theorem cappedDoubling_le (initial maximum : Int) (k : Nat) :
    cappedDoubling initial maximum k ≤ maximum :=
  min_le_right _ _

theorem cappedDoubling_pos (hpos : 0 < initial) (h : initial ≤ maximum) (k : Nat) :
    0 < cappedDoubling initial maximum k := by
  have hpower : (0 : Int) < initial * 2 ^ k := by positivity
  exact lt_min hpower (by omega)

/-- The next delay is twice this one, and the maximum where that is too much. -/
theorem cappedDoubling_succ (hpos : 0 < initial) (hle : initial ≤ maximum) (k : Nat) :
    cappedDoubling initial maximum (k + 1) =
      min (cappedDoubling initial maximum k * 2) maximum := by
  have hpower : initial * 2 ^ (k + 1) = initial * 2 ^ k * 2 := by rw [pow_succ, mul_assoc]
  have hnonneg : (0 : Int) < initial * 2 ^ k := by positivity
  simp only [cappedDoubling, hpower]
  generalize initial * 2 ^ k = delay at hnonneg
  omega

/-- Once the maximum is reached the delays stay there. -/
theorem cappedDoubling_succ_of_max (hpos : 0 < initial) (hle : initial ≤ maximum) {k : Nat}
    (h : maximum ≤ cappedDoubling initial maximum k) :
    cappedDoubling initial maximum (k + 1) = maximum := by
  rw [cappedDoubling_succ hpos hle]
  omega

end

/-! ## Words that do not wrap -/

theorem Int64.toInt_add_exact {a b : Int64} (hlow : -2 ^ 63 ≤ a.toInt + b.toInt)
    (hhigh : a.toInt + b.toInt < 2 ^ 63) : (a + b).toInt = a.toInt + b.toInt := by
  rw [Int64.toInt_add]
  exact Int.bmod_eq_of_le (by omega) (by omega)

theorem Int64.toInt_mul_exact {a b : Int64} (hlow : -2 ^ 63 ≤ a.toInt * b.toInt)
    (hhigh : a.toInt * b.toInt < 2 ^ 63) : (a * b).toInt = a.toInt * b.toInt := by
  rw [Int64.toInt_mul]
  exact Int.bmod_eq_of_le (by omega) (by omega)
