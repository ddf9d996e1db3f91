import Mathlib.Data.Int.Log
import Mathlib.Data.List.DropRight
import Mathlib.Data.Rat.Floor
import EdgeLink.ForStd.BinaryFloat
import EdgeLink.ForStd.JsonTokens

/-!
# The `%g` format

What `printf("%.*g")` writes for a floating-point number, and so a C++ stream without
`std::fixed` or `std::scientific`: as many significant digits as the precision says, rounded
to nearest, in fixed notation unless the exponent is below -4 or not below the precision, and
without trailing zeros.

* `roundTo`: the number that is written. `roundTo_eq_iff`: it is the number itself exactly
  when that has no more digits than the precision.
* `numberText_formatG`: the text is a JSON number, and it denotes `roundTo`.
* `roundTo_nearest`: with enough digits no other number of the format is as close to what is
  written, so a correctly rounded reader gets the number back.
-/

open CText

/-! ## Rounding -/

/-- The nearest integer; of two, the even one. -/
def roundHalfEven (q : ℚ) : ℤ :=
  if q - ⌊q⌋ < 1 / 2 then ⌊q⌋
  else if 1 / 2 < q - ⌊q⌋ then ⌊q⌋ + 1
  else if ⌊q⌋ % 2 = 0 then ⌊q⌋ else ⌊q⌋ + 1

theorem roundHalfEven_cases (q : ℚ) :
    roundHalfEven q = ⌊q⌋ ∧ q - ⌊q⌋ ≤ 1 / 2 ∨ roundHalfEven q = ⌊q⌋ + 1 ∧ 1 / 2 ≤ q - ⌊q⌋ := by
  unfold roundHalfEven
  split
  · rename_i h
    exact .inl ⟨rfl, h.le⟩
  rename_i h
  split
  · rename_i h'
    exact .inr ⟨rfl, h'.le⟩
  rename_i h'
  split
  · exact .inl ⟨rfl, not_lt.mp h'⟩
  · exact .inr ⟨rfl, not_lt.mp h⟩

/-- Rounding moves a number by at most a half. -/
theorem roundHalfEven_dist (q : ℚ) : |(roundHalfEven q : ℚ) - q| ≤ 1 / 2 := by
  have hfloor := Int.floor_le q
  have hlt := Int.lt_floor_add_one q
  rw [abs_le]
  rcases roundHalfEven_cases q with ⟨h, hdist⟩ | ⟨h, hdist⟩
  · rw [h]
    constructor <;> linarith
  · rw [h]
    push_cast
    constructor <;> linarith

/-- An integer is not moved. -/
theorem roundHalfEven_intCast (n : ℤ) : roundHalfEven n = n := by
  rcases roundHalfEven_cases n with ⟨h, -⟩ | ⟨-, hdist⟩
  · rw [h, Int.floor_intCast]
  · rw [Int.floor_intCast, sub_self] at hdist
    norm_num at hdist

/-- Rounding does not cross an integer. -/
theorem le_roundHalfEven {q : ℚ} {n : ℤ} (h : n ≤ q) : n ≤ roundHalfEven q := by
  have hfloor := Int.le_floor.mpr h
  rcases roundHalfEven_cases q with ⟨heq, -⟩ | ⟨heq, -⟩
  · rw [heq]
    exact hfloor
  · rw [heq]
    omega

theorem roundHalfEven_le {q : ℚ} {n : ℤ} (h : q < n) : roundHalfEven q ≤ n := by
  have hfloor := Int.floor_lt.mpr h
  rcases roundHalfEven_cases q with ⟨heq, -⟩ | ⟨heq, -⟩
  · rw [heq]
    omega
  · rw [heq]
    omega

/-! ## Significant digits -/

/-- The number scaled so that its first `precision` digits stand before the point. -/
def scaled (precision : Nat) (x : ℚ) : ℚ := x * 10 ^ ((precision : ℤ) - 1 - Int.log 10 x)

/-- The significant digits as a number, and the exponent of the first one. -/
def roundDigits (precision : Nat) (x : ℚ) : Nat × Int :=
  let digits := (roundHalfEven (scaled precision x)).toNat
  -- rounding up can give one more digit
  if digits = 10 ^ precision then (10 ^ (precision - 1), Int.log 10 x + 1)
  else (digits, Int.log 10 x)

/-- The number that is written. -/
def roundTo (precision : Nat) (x : ℚ) : ℚ :=
  (roundDigits precision x).1 * 10 ^ ((roundDigits precision x).2 - (precision - 1))

variable {precision : Nat} {x : ℚ}

theorem ten_zpow_pos (e : ℤ) : (0 : ℚ) < 10 ^ e := zpow_pos (by norm_num) e

/-- The scaled number has `precision` digits before the point. -/
theorem scaled_bounds (hprecision : 0 < precision) (hx : 0 < x) :
    ((10 ^ (precision - 1) : ℤ) : ℚ) ≤ scaled precision x ∧
      scaled precision x < ((10 ^ precision : ℤ) : ℚ) := by
  have hlow := Int.zpow_log_le_self (b := 10) (by norm_num) hx
  have hhigh := Int.lt_zpow_succ_log_self (b := 10) (by norm_num) x
  have hten : (10 : ℚ) ≠ 0 := by norm_num
  push_cast at hlow hhigh
  constructor
  · have hpow : ((10 ^ (precision - 1) : ℤ) : ℚ) =
        10 ^ Int.log 10 x * 10 ^ ((precision : ℤ) - 1 - Int.log 10 x) := by
      rw [← zpow_add₀ hten]
      push_cast
      rw [← zpow_natCast]
      congr 1
      omega
    rw [hpow]
    exact mul_le_mul_of_nonneg_right hlow (ten_zpow_pos _).le
  · have hpow : ((10 ^ precision : ℤ) : ℚ) =
        10 ^ (Int.log 10 x + 1) * 10 ^ ((precision : ℤ) - 1 - Int.log 10 x) := by
      rw [← zpow_add₀ hten]
      push_cast
      rw [← zpow_natCast]
      congr 1
      omega
    rw [hpow]
    exact mul_lt_mul_of_pos_right hhigh (ten_zpow_pos _)

/-- The digits are `precision` many, and the first one is not zero. -/
theorem roundDigits_bounds (hprecision : 0 < precision) (hx : 0 < x) :
    10 ^ (precision - 1) ≤ (roundDigits precision x).1 ∧
      (roundDigits precision x).1 < 10 ^ precision := by
  obtain ⟨hlow, hhigh⟩ := scaled_bounds hprecision hx
  have hle := le_roundHalfEven hlow
  have hge := roundHalfEven_le hhigh
  have hpow : 10 ^ (precision - 1) < 10 ^ precision :=
    Nat.pow_lt_pow_right (by norm_num) (by omega)
  simp only [roundDigits]
  split
  · exact ⟨le_refl _, hpow⟩
  · rename_i hne
    constructor
    · zify
      rw [Int.toNat_of_nonneg (le_trans (by positivity) hle)]
      exact hle
    · apply lt_of_le_of_ne ?_ hne
      rw [Int.toNat_le]
      exact_mod_cast hge

/-- What is written, in terms of the scaled number. -/
theorem roundTo_eq (hprecision : 0 < precision) (hx : 0 < x) :
    roundTo precision x = roundHalfEven (scaled precision x) *
      10 ^ (Int.log 10 x - (precision - 1)) := by
  have hle := le_roundHalfEven (scaled_bounds hprecision hx).1
  have hcast : (((roundHalfEven (scaled precision x)).toNat : ℕ) : ℚ) =
      roundHalfEven (scaled precision x) := by
    have hnonneg : 0 ≤ roundHalfEven (scaled precision x) := le_trans (by positivity) hle
    exact_mod_cast congrArg (Int.cast : ℤ → ℚ) (Int.toNat_of_nonneg hnonneg)
  rw [← hcast]
  simp only [roundTo, roundDigits]
  split
  · rename_i hdigits
    rw [hdigits]
    push_cast
    rw [← zpow_natCast, ← zpow_natCast, ← zpow_add₀ (by norm_num), ← zpow_add₀ (by norm_num)]
    congr 1
    omega
  · rfl

/-- Scaling back gives the number. -/
theorem scaled_mul (precision : Nat) (x : ℚ) :
    scaled precision x * 10 ^ (Int.log 10 x - (precision - 1)) = x := by
  rw [scaled, mul_assoc, ← zpow_add₀ (by norm_num)]
  have hzero : (precision : ℤ) - 1 - Int.log 10 x + (Int.log 10 x - (precision - 1)) = 0 := by
    omega
  rw [hzero, zpow_zero, mul_one]

/-- Zero is written as it is. -/
theorem roundTo_zero (precision : Nat) : roundTo precision 0 = 0 := by
  have hscaled : scaled precision 0 = ((0 : ℤ) : ℚ) := by simp [scaled]
  have hpow : (0 : ℕ) ≠ 10 ^ precision := (Nat.pow_pos (by norm_num)).ne
  simp only [roundTo, roundDigits, hscaled, roundHalfEven_intCast, Int.toNat_zero, if_neg hpow,
    Nat.cast_zero, zero_mul]

/-- A number is written exactly if and only if it has no more than `precision` significant
    digits. -/
theorem roundTo_eq_iff (hprecision : 0 < precision) (hx : 0 < x) :
    roundTo precision x = x ↔ ∃ (m : ℕ) (k : ℤ), m < 10 ^ precision ∧ x = m * 10 ^ k := by
  have hinteger : roundTo precision x = x ↔
      (roundHalfEven (scaled precision x) : ℚ) = scaled precision x := by
    have hback := mul_left_inj' (a := (roundHalfEven (scaled precision x) : ℚ))
      (b := scaled precision x) (ten_zpow_pos (Int.log 10 x - (precision - 1))).ne'
    rw [scaled_mul, ← roundTo_eq hprecision hx] at hback
    exact hback
  obtain ⟨hlow, hhigh⟩ := scaled_bounds hprecision hx
  rw [hinteger]
  constructor
  · intro h
    have hle := le_roundHalfEven hlow
    have hnonneg : 0 ≤ roundHalfEven (scaled precision x) := le_trans (by positivity) hle
    obtain ⟨m, hm⟩ := Int.eq_ofNat_of_zero_le hnonneg
    refine ⟨m, Int.log 10 x - (precision - 1), ?_, ?_⟩
    · rw [← h, hm] at hhigh
      exact_mod_cast hhigh
    · have hback := scaled_mul precision x
      rw [← h, hm] at hback
      exact_mod_cast hback.symm
  · rintro ⟨m, k, hm, hxk⟩
    -- the scaled number is a multiple of `m`
    have hlog : Int.log 10 x < precision + k := by
      have hlow' := Int.zpow_log_le_self (b := 10) (by norm_num) hx
      have hlt : x < 10 ^ ((precision : ℤ) + k) := by
        rw [hxk, zpow_add₀ (by norm_num), zpow_natCast]
        exact mul_lt_mul_of_pos_right (by exact_mod_cast hm) (ten_zpow_pos k)
      push_cast at hlow'
      exact (zpow_lt_zpow_iff_right₀ (by norm_num)).mp (lt_of_le_of_lt hlow' hlt)
    obtain ⟨n, hn⟩ : ∃ n : ℕ, k + ((precision : ℤ) - 1 - Int.log 10 x) = n :=
      ⟨(k + ((precision : ℤ) - 1 - Int.log 10 x)).toNat, by omega⟩
    have hscaled : scaled precision x = ((m * 10 ^ n : ℤ) : ℚ) := by
      unfold scaled
      nth_rewrite 1 [hxk]
      rw [mul_assoc, ← zpow_add₀ (by norm_num), hn, zpow_natCast]
      push_cast
      rfl
    rw [hscaled, roundHalfEven_intCast]

/-- What is written is off by less than `10 ^ (1 - precision)` times half the number. -/
theorem roundTo_dist (hprecision : 0 < precision) (hx : 0 ≤ x) :
    2 * 10 ^ (precision - 1) * |roundTo precision x - x| ≤ x := by
  rcases hx.eq_or_lt with rfl | hx
  · rw [roundTo_zero, sub_zero, abs_zero, mul_zero]
  · have hdist := roundHalfEven_dist (scaled precision x)
    have hlow := Int.zpow_log_le_self (b := 10) (by norm_num) hx
    push_cast at hlow
    have herror : |roundTo precision x - x| ≤
        1 / 2 * 10 ^ (Int.log 10 x - (precision - 1)) := by
      have hsplit : roundTo precision x - x =
          (roundHalfEven (scaled precision x) - scaled precision x) *
            10 ^ (Int.log 10 x - (precision - 1)) := by
        rw [sub_mul, scaled_mul, roundTo_eq hprecision hx]
      rw [hsplit, abs_mul, abs_of_pos (ten_zpow_pos _)]
      exact mul_le_mul_of_nonneg_right hdist (ten_zpow_pos _).le
    have hpow : (10 : ℚ) ^ (precision - 1) * 10 ^ (Int.log 10 x - (precision - 1)) =
        10 ^ Int.log 10 x := by
      rw [← zpow_natCast, ← zpow_add₀ (by norm_num)]
      congr 1
      omega
    calc 2 * 10 ^ (precision - 1) * |roundTo precision x - x|
        ≤ 2 * 10 ^ (precision - 1) * (1 / 2 * 10 ^ (Int.log 10 x - (precision - 1))) :=
          mul_le_mul_of_nonneg_left herror (by positivity)
      _ = 10 ^ (precision - 1) * 10 ^ (Int.log 10 x - (precision - 1)) := by ring
      _ = 10 ^ Int.log 10 x := hpow
      _ ≤ x := hlow

/-- With enough digits, the number is closer to what is written than any other number of
    the format is. -/
theorem roundTo_nearest {p : Nat} (hprecision : 0 < precision)
    (henough : 2 ^ p < 10 ^ (precision - 1)) (s s' e e' : Int) (hs : |s| < 2 ^ p)
    (hs' : |s'| < 2 ^ p) (hnonneg : 0 ≤ s) (hne : (s : ℚ) * 2 ^ e ≠ s' * 2 ^ e') :
    |roundTo precision (s * 2 ^ e) - s * 2 ^ e| <
      |roundTo precision (s * 2 ^ e) - s' * 2 ^ e'| := by
  have hx : (0 : ℚ) ≤ s * 2 ^ e :=
    mul_nonneg (by exact_mod_cast hnonneg) (zpow_pos (by norm_num) e).le
  have hgap := le_mul_dist p s s' e e' hs hs' hne
  have herror := roundTo_dist hprecision hx
  rw [abs_of_nonneg hx] at hgap
  have henough' : (2 : ℚ) ^ p < 10 ^ (precision - 1) := by exact_mod_cast henough
  have hpos : 0 < |(s : ℚ) * 2 ^ e - s' * 2 ^ e'| := abs_pos.mpr (sub_ne_zero.mpr hne)
  -- the error is less than half of the gap
  have hhalf : 2 * |roundTo precision (s * 2 ^ e) - s * 2 ^ e| <
      |(s : ℚ) * 2 ^ e - s' * 2 ^ e'| := by
    by_contra hge
    rw [not_lt] at hge
    have hten : (0 : ℚ) < 10 ^ (precision - 1) := by positivity
    have hle : 10 ^ (precision - 1) * |(s : ℚ) * 2 ^ e - s' * 2 ^ e'| ≤
        2 ^ p * |(s : ℚ) * 2 ^ e - s' * 2 ^ e'| := by
      calc 10 ^ (precision - 1) * |(s : ℚ) * 2 ^ e - s' * 2 ^ e'|
          ≤ 10 ^ (precision - 1) * (2 * |roundTo precision (s * 2 ^ e) - s * 2 ^ e|) :=
            mul_le_mul_of_nonneg_left hge hten.le
        _ = 2 * 10 ^ (precision - 1) * |roundTo precision (s * 2 ^ e) - s * 2 ^ e| := by ring
        _ ≤ s * 2 ^ e := herror
        _ ≤ 2 ^ p * |(s : ℚ) * 2 ^ e - s' * 2 ^ e'| := hgap
    exact absurd (le_of_mul_le_mul_right hle hpos) (not_le.mpr henough')
  have htriangle : |(s : ℚ) * 2 ^ e - s' * 2 ^ e'| ≤
      |roundTo precision (s * 2 ^ e) - s * 2 ^ e| +
        |roundTo precision (s * 2 ^ e) - s' * 2 ^ e'| := by
    have hsum := abs_sub_le ((s : ℚ) * 2 ^ e) (roundTo precision (s * 2 ^ e)) (s' * 2 ^ e')
    rwa [abs_sub_comm ((s : ℚ) * 2 ^ e) (roundTo precision (s * 2 ^ e))] at hsum
  linarith

/-! ## The text -/

/-- A fraction, with its point where there is one. -/
def fractionText (digits : List UInt8) : List UInt8 :=
  if digits.isEmpty then [] else 0x2E :: digits

/-- An exponent: a sign and at least two digits. -/
def exponentText (exponent : Int) : List UInt8 :=
  0x65 :: ((if exponent < 0 then [0x2D] else [0x2B]) ++
    ((if exponent.natAbs < 10 then [48] else []) ++ decimal exponent.natAbs))

/-- Scientific notation. -/
def scientificText (digits : List UInt8) (exponent : Int) : List UInt8 :=
  digits.take 1 ++ (fractionText (digits.drop 1) ++ exponentText exponent)

/-- Fixed notation. -/
def fixedText (digits : List UInt8) (exponent : Int) : List UInt8 :=
  if exponent < 0 then
    48 :: fractionText (List.replicate (-exponent - 1).toNat 48 ++ digits)
  else
    let places := exponent.toNat + 1
    digits.take places ++ List.replicate (places - digits.length) 48 ++
      fractionText (digits.drop places)

/-- The significant digits without the zeros at their end. -/
def significantDigits (digits : Nat) : List UInt8 := (decimal digits).rdropWhile (· = 48)

/-- The text of a number, given without its sign. -/
def formatG (precision : Nat) (negative : Bool) (x : ℚ) : List UInt8 :=
  Json.minus negative ++
    if x = 0 then [48]
    else
      let (digits, exponent) := roundDigits precision x
      if exponent < -4 ∨ precision ≤ exponent then
        scientificText (significantDigits digits) exponent
      else fixedText (significantDigits digits) exponent

/-- `%g` of any value. -/
def printfG (precision : Nat) : FloatValue → List UInt8
  | .nan negative => Json.minus negative ++ [0x6E, 0x61, 0x6E]
  | .infinite negative => Json.minus negative ++ [0x69, 0x6E, 0x66]
  | .finite negative significand exponent =>
    formatG precision negative (significand * 2 ^ exponent)

/-! ### It is a JSON number -/

/-- A run of digits whose first one is not zero. -/
structure Significant (digits : List UInt8) : Prop where
  ne_nil : digits ≠ []
  head_ne : digits.head? ≠ some 48
  isDigit : ∀ c ∈ digits, isDigit c = true

/-- A number of `n` digits is written with `n` digits. -/
theorem length_decimal {d n : Nat} (hlow : 10 ^ (n - 1) ≤ d) (hhigh : d < 10 ^ n) :
    (decimal d).length = n := by
  have hd : d ≠ 0 := by
    have hpos : 0 < 10 ^ (n - 1) := Nat.pow_pos (by norm_num)
    omega
  rw [decimal, if_neg hd, List.length_map, List.length_reverse]
  have hle := (Nat.digits_length_le_iff (by norm_num) d).mpr hhigh
  have hlt := (Nat.lt_digits_length_iff (b := 10) (by norm_num) d).mpr hlow
  omega

/-- The significant digits, and the zeros that were dropped. -/
theorem significantDigits_spec {d n : Nat} (hlow : 10 ^ (n - 1) ≤ d) (hhigh : d < 10 ^ n) :
    Significant (significantDigits d) ∧
      ∃ zeros, digitsValue (significantDigits d) * 10 ^ zeros = d ∧
        (significantDigits d).length + zeros = n := by
  have hd : d ≠ 0 := by
    have hpos : 0 < 10 ^ (n - 1) := Nat.pow_pos (by norm_num)
    omega
  have hsplit : significantDigits d ++ (decimal d).rtakeWhile (· = 48) = decimal d :=
    List.rdropWhile_append_rtakeWhile
  have hzeros : (decimal d).rtakeWhile (· = 48) =
      List.replicate ((decimal d).rtakeWhile (· = 48)).length 48 := by
    apply List.eq_replicate_of_mem
    intro c hc
    simpa using List.mem_rtakeWhile_imp hc
  have hhead := head_decimal_ne d hd
  have hdigits := decimal_isDigit d
  have hvalue := digitsValue_decimal d
  have hlength := length_decimal hlow hhigh
  -- what is known of all digits, said of the significant ones and the zeros
  rw [hzeros] at hsplit
  rw [← hsplit] at hhead hdigits hvalue hlength
  -- zeros alone would be the number zero
  have hne : significantDigits d ≠ [] := by
    intro hnil
    rw [hnil, List.nil_append, digitsValue_replicate_zero] at hvalue
    exact hd hvalue.symm
  refine ⟨⟨hne, ?_, fun c hc => hdigits c (List.mem_append_left _ hc)⟩,
    ((decimal d).rtakeWhile (· = 48)).length, ?_, ?_⟩
  · rwa [List.head?_append_of_ne_nil _ hne] at hhead
  · rw [digitsValue_append, digitsValue_replicate_zero, List.length_replicate] at hvalue
    exact hvalue
  · rw [List.length_append, List.length_replicate] at hlength
    exact hlength

theorem Significant.isNumeral {digits : List UInt8} (h : Significant digits) :
    isNumeral digits = true := by
  simp only [CText.isNumeral, Bool.or_eq_true, Bool.and_eq_true, Bool.not_eq_true',
    List.isEmpty_eq_false_iff, decide_eq_true_eq, List.all_eq_true]
  exact .inr ⟨⟨h.ne_nil, h.head_ne⟩, h.isDigit⟩

/-- The first digits, with digits behind them. -/
theorem Significant.take_append {digits : List UInt8} (h : Significant digits) (n : Nat)
    (more : List UInt8) (hmore : ∀ c ∈ more, CText.isDigit c = true) :
    Significant (digits.take (n + 1) ++ more) := by
  obtain ⟨c, rest, rfl⟩ := List.exists_cons_of_ne_nil h.ne_nil
  refine ⟨by simp, h.head_ne, fun d hd => ?_⟩
  rcases List.mem_append.mp hd with hd | hd
  · exact h.isDigit d (List.mem_of_mem_take hd)
  · exact hmore d hd

theorem fraction_fractionText (digits : List UInt8) (h : ∀ c ∈ digits, isDigit c = true) :
    Json.Fraction (fractionText digits) digits := by
  cases digits with
  | nil => exact .none
  | cons c digits => exact .some _ (List.cons_ne_nil _ _) h

theorem exponent_exponentText (exponent : Int) :
    Json.Exponent (exponentText exponent) exponent := by
  have hdigits : ∀ c ∈ (if exponent.natAbs < 10 then [48] else []) ++ decimal exponent.natAbs,
      isDigit c = true := by
    intro c hc
    rcases List.mem_append.mp hc with hc | hc
    · split at hc
      · rw [List.mem_singleton.mp hc]
        decide
      · cases hc
    · exact decimal_isDigit _ c hc
  have hvalue : digitsValue ((if exponent.natAbs < 10 then [48] else []) ++
      decimal exponent.natAbs) = exponent.natAbs := by
    rw [digitsValue_append, digitsValue_decimal]
    split
    · simp [digitsValue]
    · simp [digitsValue]
  have hne : (if exponent.natAbs < 10 then [48] else []) ++ decimal exponent.natAbs ≠ [] := by
    simp [decimal_ne_nil]
  have hmk (negative : Bool) (sign : List UInt8)
      (hsign : negative = false ∧ (sign = [] ∨ sign = [0x2B]) ∨ negative = true ∧ sign = [0x2D])
      (hexponent : signed negative exponent.natAbs = exponent) :
      Json.Exponent (0x65 :: (sign ++ ((if exponent.natAbs < 10 then [48] else []) ++
        decimal exponent.natAbs))) exponent := by
    have hsome := Json.Exponent.some 0x65 sign _ negative (.inl rfl) hsign hne hdigits
    rwa [hvalue, hexponent] at hsome
  unfold exponentText
  split
  · refine hmk true _ (.inr ⟨rfl, rfl⟩) ?_
    show -(exponent.natAbs : Int) = exponent
    omega
  · refine hmk false _ (.inl ⟨rfl, .inr rfl⟩) ?_
    show (exponent.natAbs : Int) = exponent
    omega

/-- The number of digits that start at an exponent. -/
def digitsAt (digits : List UInt8) (exponent : Int) : ℚ :=
  digitsValue digits * 10 ^ (exponent - (digits.length - 1))

/-- The number with its sign. -/
def withSign (negative : Bool) (x : ℚ) : ℚ := if negative then -x else x

theorem withSign_cast (negative : Bool) (n : Nat) (e : Int) :
    ((signed negative n : Int) : ℚ) * 10 ^ e = withSign negative (n * 10 ^ e) := by
  cases negative with
  | true => simp [signed, withSign]
  | false => simp [signed, withSign]

/-- Both notations denote the digits at the exponent. -/
theorem numberText_scientificText {digits : List UInt8} (h : Significant digits)
    (negative : Bool) (exponent : Int) :
    ∃ m e, Json.NumberText (Json.minus negative ++ scientificText digits exponent) m e ∧
      Json.rational m e = withSign negative (digitsAt digits exponent) := by
  have hinteger : Significant (digits.take 1) := by
    have htake := h.take_append 0 [] (by simp)
    rwa [List.append_nil] at htake
  have hfraction := fraction_fractionText (digits.drop 1)
    fun c hc => h.isDigit c (List.mem_of_mem_drop hc)
  refine ⟨_, _, .mk negative _ _ _ _ _ hinteger.isNumeral hfraction
    (exponent_exponentText exponent), ?_⟩
  have hpos := List.length_pos_iff.mpr h.ne_nil
  rw [Json.rational, withSign_cast, List.take_append_drop, List.length_drop, digitsAt,
    Nat.cast_sub hpos, Nat.cast_one]

theorem numberText_fixedText {digits : List UInt8} (h : Significant digits)
    (negative : Bool) (exponent : Int) :
    ∃ m e, Json.NumberText (Json.minus negative ++ fixedText digits exponent) m e ∧
      Json.rational m e = withSign negative (digitsAt digits exponent) := by
  have hzero : ∀ n, ∀ c ∈ List.replicate n (48 : UInt8), isDigit c = true := by
    intro n c hc
    rw [List.eq_of_mem_replicate hc]
    decide
  have hpos := List.length_pos_iff.mpr h.ne_nil
  unfold fixedText
  split
  · -- all the digits stand behind the point
    rename_i hexponent
    have hfraction := fraction_fractionText
      (List.replicate (-exponent - 1).toNat 48 ++ digits) fun c hc =>
        (List.mem_append.mp hc).elim (hzero _ c) (h.isDigit c)
    have hnumber := Json.NumberText.mk negative [48] _ _ [] 0 rfl hfraction .none
    rw [List.append_nil] at hnumber
    refine ⟨_, _, hnumber, ?_⟩
    rw [Json.rational, withSign_cast, digitsValue_append, digitsValue_append,
      digitsValue_replicate_zero]
    have hvalue : digitsValue [48] = 0 := rfl
    have hplaces : (0 : Int) - (List.replicate (-exponent - 1).toNat 48 ++ digits).length =
        exponent - (digits.length - 1) := by
      rw [List.length_append, List.length_replicate]
      omega
    rw [hvalue, hplaces, zero_mul, zero_mul, zero_add, zero_add]
    rfl
  · -- the point stands behind `exponent + 1` digits or zeros
    rename_i hexponent
    dsimp only
    generalize hplaces : exponent.toNat + 1 = places
    have hinteger := h.take_append exponent.toNat _ (hzero (places - digits.length))
    rw [hplaces] at hinteger
    have hfraction := fraction_fractionText (digits.drop places)
      fun c hc => h.isDigit c (List.mem_of_mem_drop hc)
    have hnumber := Json.NumberText.mk negative _ _ _ [] 0 hinteger.isNumeral hfraction .none
    rw [List.append_nil] at hnumber
    refine ⟨_, _, hnumber, ?_⟩
    rw [Json.rational, withSign_cast]
    congr 1
    rw [List.append_assoc, List.length_drop, digitsAt]
    rcases Nat.le_total digits.length places with hle | hle
    · -- there is no fraction
      rw [List.take_of_length_le hle, List.drop_eq_nil_of_le hle, List.append_nil,
        digitsValue_append, digitsValue_replicate_zero, List.length_replicate,
        Nat.sub_eq_zero_of_le hle]
      push_cast
      rw [add_zero, mul_one, ← zpow_natCast]
      congr 2
      omega
    · rw [Nat.sub_eq_zero_of_le hle, List.replicate_zero, List.nil_append,
        List.take_append_drop]
      congr 2
      omega

/-- The text of a number is a JSON number, and denotes the number that is written. -/
theorem numberText_formatG (hprecision : 0 < precision) (negative : Bool) (hx : 0 ≤ x) :
    ∃ m e, Json.NumberText (formatG precision negative x) m e ∧
      Json.rational m e = withSign negative (roundTo precision x) := by
  unfold formatG
  split
  · rename_i hzero
    refine ⟨_, _, .mk negative [48] [] [] [] 0 rfl .none .none, ?_⟩
    rw [Json.rational, withSign_cast, hzero, roundTo_zero]
    congr 1
    simp [digitsValue]
  · rename_i hne
    obtain ⟨hlow, hhigh⟩ :=
      roundDigits_bounds hprecision (lt_of_le_of_ne hx (Ne.symm hne))
    obtain ⟨hsignificant, zeros, hvalue, hlength⟩ := significantDigits_spec hlow hhigh
    -- dropping zeros at the end does not change the number
    have hdigits : digitsAt (significantDigits (roundDigits precision x).1)
        (roundDigits precision x).2 = roundTo precision x := by
      have hcast : ((roundDigits precision x).1 : ℚ) =
          digitsValue (significantDigits (roundDigits precision x).1) * 10 ^ zeros := by
        exact_mod_cast hvalue.symm
      rw [digitsAt, roundTo, hcast, mul_assoc, ← zpow_natCast, ← zpow_add₀ (by norm_num)]
      congr 2
      omega
    dsimp only
    split
    · rw [← hdigits]
      exact numberText_scientificText hsignificant negative _
    · rw [← hdigits]
      exact numberText_fixedText hsignificant negative _

/-! ## Reading back -/

namespace BinaryFormat

variable (F : BinaryFormat)

/-- The smallest normal number. -/
def smallest : ℚ := 2 ^ (F.minExponent + F.fractionBits)

/-- The largest number. -/
def largest : ℚ := (2 ^ F.precision - 1) * 2 ^ (F.minExponent + 2 ^ F.exponentBits - 3)

/-- The number neither overflows nor underflows. -/
def InRange (q : ℚ) : Prop := q = 0 ∨ F.smallest ≤ |q| ∧ |q| ≤ F.largest

variable {Bits : Type} (toNat : Bits → Nat)

/-- No number of the format is as close to `q` as that of `bits`. -/
structure IsNearest (q : ℚ) (bits : Bits) : Prop where
  isFinite : (F.decode (toNat bits)).isFinite = true
  closest : ∀ other, (F.decode (toNat other)).isFinite = true →
    (F.decode (toNat other)).number ≠ (F.decode (toNat bits)).number →
    |q - (F.decode (toNat bits)).number| < |q - (F.decode (toNat other)).number|

/-- A reader of decimal numbers rounds correctly: where no range error occurs, the result has
    the nearest number. -/
def CorrectlyRounded (read : List UInt8 → Option Bits) : Prop :=
  ∀ text mantissa exponent bits, Json.NumberText text mantissa exponent →
    F.InRange (Json.rational mantissa exponent) →
    F.IsNearest toNat (Json.rational mantissa exponent) bits →
    ∃ result, read text = some result ∧ (F.decode (toNat result)).isFinite = true ∧
      (F.decode (toNat result)).number = (F.decode (toNat bits)).number

open Classical in
/-- A reader that returns a nearest number wherever there is one. -/
noncomputable def nearestReader (text : List UInt8) : Option Bits :=
  if h : ∃ bits mantissa exponent, Json.NumberText text mantissa exponent ∧
      F.IsNearest toNat (Json.rational mantissa exponent) bits then some h.choose
  else none

/-- Two nearest numbers are equal. -/
theorem IsNearest.number_eq {F : BinaryFormat} {toNat : Bits → Nat} {q : ℚ} {bits bits' : Bits}
    (h : F.IsNearest toNat q bits) (h' : F.IsNearest toNat q bits') :
    (F.decode (toNat bits)).number = (F.decode (toNat bits')).number := by
  by_contra hne
  have hlt := h.closest bits' h'.isFinite (Ne.symm hne)
  have hgt := h'.closest bits h.isFinite hne
  exact lt_asymm hlt hgt

theorem nearestReader_correctlyRounded :
    F.CorrectlyRounded toNat (F.nearestReader toNat) := by
  intro text mantissa exponent bits htext _ hbits
  have hexists : ∃ bits mantissa exponent, Json.NumberText text mantissa exponent ∧
      F.IsNearest toNat (Json.rational mantissa exponent) bits :=
    ⟨bits, mantissa, exponent, htext, hbits⟩
  obtain ⟨mantissa', exponent', htext', hchosen⟩ := hexists.choose_spec
  obtain ⟨rfl, rfl⟩ := htext.unique htext'
  exact ⟨_, dif_pos hexists, hchosen.isFinite, hchosen.number_eq hbits⟩

/-- A finite number is written with enough digits to be read back. -/
theorem CorrectlyRounded.read_back {F : BinaryFormat} {toNat : Bits → Nat}
    {read : List UInt8 → Option Bits} (hread : F.CorrectlyRounded toNat read)
    (hprecision : 0 < precision) (henough : 2 ^ F.precision < 10 ^ (precision - 1)) {bits : Bits}
    {negative : Bool} {significand : Nat} {exponent : Int}
    (hbits : F.decode (toNat bits) = .finite negative significand exponent)
    (hrange : F.InRange (roundTo precision (significand * 2 ^ exponent))) :
    ∃ result, read (printfG precision (F.decode (toNat bits))) = some result ∧
      (F.decode (toNat result)).isFinite = true ∧
      (F.decode (toNat result)).number = (F.decode (toNat bits)).number := by
  have hx : (0 : ℚ) ≤ significand * 2 ^ exponent := by positivity
  obtain ⟨m, e, htext, hvalue⟩ := numberText_formatG hprecision negative hx
  have hrange' : F.InRange (Json.rational m e) := by
    rw [hvalue]
    cases negative with
    | false => exact hrange
    | true => simpa [InRange, withSign] using hrange
  have hnearest : F.IsNearest toNat (Json.rational m e) bits := by
    refine ⟨by rw [hbits]; rfl, fun other hother hne => ?_⟩
    rw [hbits] at hne ⊢
    cases hdecode : F.decode (toNat other) with
    | nan negative' => rw [hdecode] at hother; cases hother
    | infinite negative' => rw [hdecode] at hother; cases hother
    | finite negative' significand' exponent' =>
      have hs : |(significand : ℤ)| < 2 ^ F.precision := by
        rw [Nat.abs_cast]
        exact_mod_cast F.significand_lt hbits
      have hs' : ∀ sign, |signed sign significand'| < 2 ^ F.precision := by
        intro sign
        have habs : |signed sign significand'| = significand' := by
          cases sign with
          | false => exact Nat.abs_cast _
          | true => exact (abs_neg _).trans (Nat.abs_cast _)
        rw [habs]
        exact_mod_cast F.significand_lt hdecode
      rw [hdecode] at hne
      rw [hvalue]
      simp only [FloatValue.number] at hne ⊢
      cases negative with
      | false =>
        have hclosest := roundTo_nearest hprecision henough significand
          (signed negative' significand') exponent exponent' hs (hs' _) (Int.natCast_nonneg _)
        simp only [signed, withSign, Bool.false_eq_true, if_false, Int.cast_natCast]
          at hne hclosest ⊢
        exact hclosest (Ne.symm hne)
      | true =>
        -- the mirror image of the first case
        have hclosest := roundTo_nearest hprecision henough significand
          (-signed negative' significand') exponent exponent' hs
          (by rw [abs_neg]; exact hs' _) (Int.natCast_nonneg _)
        have hmirror : ∀ a b : ℚ, |-a - b| = |a - -b| := by
          intro a b
          rw [← abs_neg]
          congr 1
          ring
        simp only [signed, withSign, if_true, Int.cast_natCast, Int.cast_neg, neg_mul]
          at hne hclosest ⊢
        rw [hmirror, hmirror, neg_neg]
        refine hclosest fun heq => hne ?_
        rw [heq, neg_neg]
  rw [hbits]
  obtain ⟨result, hresult, hfinite, hnumber⟩ := hread _ m e bits htext hrange' hnearest
  exact ⟨result, hresult, hfinite, hnumber.trans (by rw [hbits])⟩

end BinaryFormat
