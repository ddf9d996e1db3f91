import Mathlib.Data.List.TakeWhile
import Mathlib.Data.Nat.Digits.Lemmas
import Mathlib.Tactic.Ring

/-!
# C strings and numbers in text

Texts are lists of bytes.

* `cString`: what a `const char*` shows of a text, the bytes before the first NUL.
* `decimal`, `decimalInt`: what `std::to_string` writes.
* `stoll`, `stoull` and their narrower variants: what `std::stoll`, `std::stoull` and so on
  read, in base 10 and with a 64-bit `long`; `none` where they throw. They skip white
  space, take an optional sign and the longest run of digits, and ignore the rest.

The main results are the round trips `stoll_decimalInt` and `stoull_decimal`, and
`isNumeral_iff` and `isIntNumeral_iff`: which texts are written at all.
-/

namespace CText

/-! ## C strings -/

/-- The bytes before the first NUL. -/
def cString (text : List UInt8) : List UInt8 :=
  text.takeWhile (· ≠ 0)

/-- A text is its own C string exactly when it has no NUL. -/
theorem cString_eq_self_iff (text : List UInt8) : cString text = text ↔ 0 ∉ text := by
  rw [cString, List.takeWhile_eq_self_iff]
  constructor
  · intro h hmem
    simpa using h 0 hmem
  · rintro h x hx
    simpa using fun heq : x = 0 => h (heq ▸ hx)

/-- A C string has no NUL. -/
theorem zero_not_mem_cString (text : List UInt8) : 0 ∉ cString text := by
  intro hmem
  simpa using List.mem_takeWhile_imp hmem

@[simp] theorem cString_cString (text : List UInt8) : cString (cString text) = cString text :=
  (cString_eq_self_iff _).mpr (zero_not_mem_cString text)

/-! ## Writing numbers -/

/-- The byte of a decimal digit. -/
def digit (d : Nat) : UInt8 := UInt8.ofNat (48 + d)

/-- The decimal digits of a number, most significant first. -/
def decimal (n : Nat) : List UInt8 :=
  if n = 0 then [digit 0] else (Nat.digits 10 n).reverse.map digit

/-- The decimal digits of an integer, with a sign if it is negative. -/
def decimalInt (i : Int) : List UInt8 :=
  if i < 0 then 45 :: decimal i.natAbs else decimal i.natAbs

/-- A number with a sign in front. -/
def signed (negative : Bool) (n : Nat) : Int := if negative then -n else n

/-! ## Reading numbers -/

/-- `isspace` in the C locale. -/
def isSpace (c : UInt8) : Bool := c = 32 || (9 ≤ c && c ≤ 13)

def isDigit (c : UInt8) : Bool := 48 ≤ c && c ≤ 57

/-- The number that a run of digits denotes. -/
def digitsValue (digits : List UInt8) : Nat :=
  digits.foldl (fun n c => n * 10 + (c.toNat - 48)) 0

/-- The optional sign at the front of a text, and the text after it. -/
def scanSign : List UInt8 → Bool × List UInt8
  | [] => (false, [])
  | c :: text => if c = 45 then (true, text) else if c = 43 then (false, text)
    else (false, c :: text)

/-- The sign and magnitude that the C conversion functions find at the front of a text;
    `none` where there are no digits. -/
def scan (text : List UInt8) : Option (Bool × Nat) :=
  let (negative, rest) := scanSign (text.dropWhile isSpace)
  let digits := rest.takeWhile isDigit
  if digits.isEmpty then none else some (negative, digitsValue digits)

/-- `std::stoll`. -/
def stoll (text : List UInt8) : Option Int :=
  match scan text with
  | none => none
  | some (negative, n) =>
    let value : Int := if negative then -n else n
    if -2 ^ 63 ≤ value ∧ value < 2 ^ 63 then some value else none

/-- `std::stol`, where `long` has 64 bits. -/
def stol (text : List UInt8) : Option Int := stoll text

/-- `std::stoi`: `strtol`, and a check of the range of `int`. -/
def stoi (text : List UInt8) : Option Int :=
  match stol text with
  | none => none
  | some value => if -2 ^ 31 ≤ value ∧ value < 2 ^ 31 then some value else none

/-- `std::stoull`. A minus sign negates the value modulo `2^64`. -/
def stoull (text : List UInt8) : Option Nat :=
  match scan text with
  | none => none
  | some (negative, n) =>
    if n < 2 ^ 64 then some (if negative then (2 ^ 64 - n) % 2 ^ 64 else n) else none

/-- How many bytes the C conversion functions take from the front of a text that has digits
    there: white space, the sign and the digits. -/
def scanLength (text : List UInt8) : Nat :=
  text.length - ((scanSign (text.dropWhile isSpace)).2.dropWhile isDigit).length

/-- `std::stoul`, where `unsigned long` has 64 bits. -/
def stoul (text : List UInt8) : Option Nat := stoull text

/-! ## Round trips -/

theorem digit_toNat (d : Nat) (h : d < 10) : (digit d).toNat = 48 + d :=
  UInt8.toNat_ofNat_of_lt (by simp only [UInt8.size]; omega)

theorem isDigit_iff (c : UInt8) : isDigit c = true ↔ 48 ≤ c.toNat ∧ c.toNat ≤ 57 := by
  simp only [isDigit, Bool.and_eq_true, decide_eq_true_eq, UInt8.le_iff_toNat_le]
  rfl

theorem isSpace_iff (c : UInt8) :
    isSpace c = true ↔ c.toNat = 32 ∨ (9 ≤ c.toNat ∧ c.toNat ≤ 13) := by
  simp only [isSpace, Bool.or_eq_true, Bool.and_eq_true, decide_eq_true_eq,
    UInt8.le_iff_toNat_le, ← UInt8.toNat_inj]
  rfl

theorem isDigit_digit (d : Nat) (h : d < 10) : isDigit (digit d) = true := by
  rw [isDigit_iff, digit_toNat d h]
  omega

theorem digitsValue_append_singleton (digits : List UInt8) (c : UInt8) :
    digitsValue (digits ++ [c]) = digitsValue digits * 10 + (c.toNat - 48) := by
  simp [digitsValue, List.foldl_append]

theorem digitsValue_append (front back : List UInt8) :
    digitsValue (front ++ back) = digitsValue front * 10 ^ back.length + digitsValue back := by
  induction back using List.reverseRecOn with
  | nil => simp [digitsValue]
  | append_singleton back c ih =>
    rw [← List.append_assoc, digitsValue_append_singleton, digitsValue_append_singleton, ih,
      List.length_append, List.length_singleton, pow_succ]
    ring

/-- Zeros denote nothing. -/
theorem digitsValue_replicate_zero (n : Nat) : digitsValue (List.replicate n 48) = 0 := by
  induction n with
  | zero => rfl
  | succ n ih =>
    rw [List.replicate_succ', digitsValue_append_singleton, ih]
    rfl

/-- Digits written most significant first denote the number they come from. -/
theorem digitsValue_reverse_map (digits : List Nat) (h : ∀ d ∈ digits, d < 10) :
    digitsValue (digits.reverse.map digit) = Nat.ofDigits 10 digits := by
  induction digits with
  | nil => rfl
  | cons d digits ih =>
    have hd := h d List.mem_cons_self
    rw [List.reverse_cons, List.map_append, List.map_singleton, digitsValue_append_singleton,
      ih fun e he => h e (List.mem_cons_of_mem _ he), digit_toNat d hd, Nat.ofDigits_cons]
    omega

theorem digitsValue_decimal (n : Nat) : digitsValue (decimal n) = n := by
  unfold decimal
  split
  · rename_i hn
    rw [hn]
    rfl
  · rw [digitsValue_reverse_map _ fun d hd => Nat.digits_lt_base (by omega) hd,
      Nat.ofDigits_digits]

theorem decimal_isDigit (n : Nat) : ∀ c ∈ decimal n, isDigit c = true := by
  intro c hc
  unfold decimal at hc
  split at hc
  · rw [List.mem_singleton.mp hc]
    exact isDigit_digit 0 (by omega)
  · obtain ⟨d, hd, rfl⟩ := List.mem_map.mp hc
    exact isDigit_digit d (Nat.digits_lt_base (by omega) (List.mem_reverse.mp hd))

theorem decimal_ne_nil (n : Nat) : decimal n ≠ [] := by
  unfold decimal
  split
  · simp
  · rename_i hn
    simpa [Nat.digits_eq_nil_iff_eq_zero] using hn

/-- A run of digits is scanned as a whole, whatever precedes it. -/
private theorem takeWhile_decimal (n : Nat) : (decimal n).takeWhile isDigit = decimal n :=
  List.takeWhile_eq_self_iff.mpr (decimal_isDigit n)

/-- A digit is neither white space nor a sign. -/
theorem isDigit_not_space (c : UInt8) (h : isDigit c = true) :
    isSpace c = false ∧ c ≠ 45 ∧ c ≠ 43 := by
  rw [isDigit_iff] at h
  refine ⟨?_, ?_, ?_⟩
  · rw [← Bool.not_eq_true, isSpace_iff]
    omega
  · rintro rfl
    exact absurd h (by decide)
  · rintro rfl
    exact absurd h (by decide)

/-- What `decimal` wrote is scanned back. -/
theorem scan_decimal (n : Nat) : scan (decimal n) = some (false, n) := by
  obtain ⟨c, rest, hcons⟩ := List.exists_cons_of_ne_nil (decimal_ne_nil n)
  have hc := decimal_isDigit n c (hcons ▸ List.mem_cons_self)
  obtain ⟨hspace, hminus, hplus⟩ := isDigit_not_space c hc
  have hdrop : (decimal n).dropWhile isSpace = decimal n := by
    rw [hcons]
    simp [hspace]
  have hsign : scanSign (decimal n) = (false, decimal n) := by
    rw [hcons, scanSign, if_neg hminus, if_neg hplus]
  simp only [scan, hdrop, hsign, takeWhile_decimal, digitsValue_decimal,
    List.isEmpty_iff, if_neg (decimal_ne_nil n)]

/-- So is what `decimal` wrote after a minus sign. -/
theorem scan_minus_decimal (n : Nat) : scan (45 :: decimal n) = some (true, n) := by
  have hdrop : (45 :: decimal n).dropWhile isSpace = 45 :: decimal n := by
    simp [isSpace]
  simp only [scan, hdrop, scanSign, if_pos, takeWhile_decimal, digitsValue_decimal,
    List.isEmpty_iff, if_neg (decimal_ne_nil n)]

/-- `std::stoll` reads back every 64-bit integer. -/
theorem stoll_decimalInt (i : Int) (hmin : -2 ^ 63 ≤ i) (hmax : i < 2 ^ 63) :
    stoll (decimalInt i) = some i := by
  unfold decimalInt
  split
  · have hvalue : -(i.natAbs : Int) = i := by omega
    simp only [stoll, scan_minus_decimal, if_pos, hvalue]
    exact if_pos ⟨hmin, hmax⟩
  · have hvalue : (i.natAbs : Int) = i := by omega
    simp only [stoll, scan_decimal, Bool.false_eq_true, if_false, hvalue]
    exact if_pos ⟨hmin, hmax⟩

/-- `std::stoi` reads back every 32-bit integer. -/
theorem stoi_decimalInt (i : Int) (hmin : -2 ^ 31 ≤ i) (hmax : i < 2 ^ 31) :
    stoi (decimalInt i) = some i := by
  simp only [stoi, stol, stoll_decimalInt i (by omega) (by omega)]
  exact if_pos ⟨hmin, hmax⟩

/-- `std::stoull` reads back every unsigned 64-bit integer. -/
theorem stoull_decimal (n : Nat) (h : n < 2 ^ 64) : stoull (decimal n) = some n := by
  simp only [stoull, scan_decimal, if_pos h, Bool.false_eq_true, if_false]

/-- `std::stoull` gives 64-bit numbers only. -/
theorem stoull_lt {text : List UInt8} {n : Nat} (h : stoull text = some n) : n < 2 ^ 64 := by
  unfold stoull at h
  split at h
  · cases h
  · rename_i negative m _
    obtain ⟨hm, h⟩ := Option.ite_none_right_eq_some.mp h
    rw [← Option.some.inj h]
    split
    · exact Nat.mod_lt _ (by decide)
    · exact hm

/-- Digits and a sign are not NUL. -/
theorem zero_not_mem_decimal (n : Nat) : 0 ∉ decimal n := fun h =>
  absurd (decimal_isDigit n 0 h) (by decide)

theorem zero_not_mem_decimalInt (i : Int) : 0 ∉ decimalInt i := by
  unfold decimalInt
  split
  · intro h
    rcases List.mem_cons.mp h with h | h
    · exact absurd h (by decide)
    · exact zero_not_mem_decimal _ h
  · exact zero_not_mem_decimal _

/-! ## Numerals -/

/-- What `decimal` writes: digits without a needless zero in front. -/
def isNumeral (text : List UInt8) : Bool :=
  text = [48] || (!text.isEmpty && text.head? ≠ some 48 && text.all isDigit)

/-- What `decimalInt` writes: a numeral, or one other than 0 behind a minus sign. -/
def isIntNumeral (text : List UInt8) : Bool :=
  isNumeral text || (text.head? = some 45 && isNumeral text.tail && text.tail ≠ [48])

/-- A digit is the digit of its value. -/
theorem digit_toNat_sub (c : UInt8) (h : isDigit c = true) : digit (c.toNat - 48) = c := by
  rw [isDigit_iff] at h
  rw [← UInt8.toNat_inj, digit_toNat _ (by omega)]
  omega

/-- The first digit of a number other than 0 is not 0. -/
theorem head_decimal_ne (n : Nat) (hn : n ≠ 0) : (decimal n).head? ≠ some 48 := by
  rw [decimal, if_neg hn]
  have hne : Nat.digits 10 n ≠ [] := by simpa [Nat.digits_eq_nil_iff_eq_zero] using hn
  have hlast := Nat.getLast_digit_ne_zero 10 hn
  rw [List.head?_map, List.head?_reverse, List.getLast?_eq_some_getLast hne, Option.map_some]
  intro heq
  have hlt := Nat.digits_lt_base (b := 10) (by omega) (List.getLast_mem hne)
  have hzero := congrArg UInt8.toNat (Option.some.inj heq)
  rw [digit_toNat _ hlt] at hzero
  have : (48 : UInt8).toNat = 48 := rfl
  omega

/-- Digits without a zero in front are written for the number that they denote. -/
theorem decimal_digitsValue (text : List UInt8) (hne : text ≠ [])
    (hhead : text.head? ≠ some 48) (hdigits : ∀ c ∈ text, isDigit c = true) :
    decimal (digitsValue text) = text := by
  -- least significant digit first
  let digits := (text.map fun c => c.toNat - 48).reverse
  have htext : text = digits.reverse.map digit := by
    simp only [digits, List.reverse_reverse, List.map_map]
    refine (List.map_id _).symm.trans (List.map_congr_left fun c hc => ?_)
    exact (digit_toNat_sub c (hdigits c hc)).symm
  have hlt : ∀ d ∈ digits, d < 10 := by
    intro d hd
    obtain ⟨c, hc, rfl⟩ := List.mem_map.mp (List.mem_reverse.mp hd)
    have := (isDigit_iff c).mp (hdigits c hc)
    omega
  have hvalue : digitsValue text = Nat.ofDigits 10 digits := by
    rw [htext]
    exact digitsValue_reverse_map digits hlt
  have hlast : ∀ h : digits ≠ [], digits.getLast h ≠ 0 := by
    intro h hzero
    obtain ⟨c, rest, hcons⟩ := List.exists_cons_of_ne_nil hne
    have hc := (isDigit_iff c).mp (hdigits c (hcons ▸ List.mem_cons_self))
    simp only [digits, hcons, List.map_cons, List.getLast_reverse, List.head_cons] at hzero
    rw [hcons] at hhead
    apply hhead
    rw [List.head?_cons, Option.some.injEq, ← UInt8.toNat_inj]
    show c.toNat = 48
    omega
  have hback := Nat.digits_ofDigits 10 (by omega) digits hlt hlast
  have hnonzero : digitsValue text ≠ 0 := by
    intro hzero
    rw [← hvalue, hzero, Nat.digits_zero] at hback
    rw [htext, ← hback] at hne
    exact hne rfl
  rw [decimal, if_neg hnonzero, hvalue, hback, ← htext]

/-- The numerals are what `decimal` writes. -/
theorem isNumeral_iff (text : List UInt8) : isNumeral text = true ↔ ∃ n, text = decimal n := by
  simp only [isNumeral, Bool.or_eq_true, decide_eq_true_eq, Bool.and_eq_true, Bool.not_eq_true',
    List.isEmpty_eq_false_iff, List.all_eq_true]
  constructor
  · rintro (rfl | ⟨⟨hne, hhead⟩, hdigits⟩)
    · exact ⟨0, rfl⟩
    · exact ⟨digitsValue text, (decimal_digitsValue text hne hhead hdigits).symm⟩
  · rintro ⟨n, rfl⟩
    by_cases hn : n = 0
    · subst hn
      exact .inl rfl
    · exact .inr ⟨⟨decimal_ne_nil n, head_decimal_ne n hn⟩, decimal_isDigit n⟩

/-- `decimal` writes different texts for different numbers. -/
theorem decimal_inj {m n : Nat} (h : decimal m = decimal n) : m = n := by
  rw [← digitsValue_decimal m, h, digitsValue_decimal]

/-- The numerals of integers are what `decimalInt` writes. -/
theorem isIntNumeral_iff (text : List UInt8) :
    isIntNumeral text = true ↔ ∃ i, text = decimalInt i := by
  simp only [isIntNumeral, Bool.or_eq_true, Bool.and_eq_true, decide_eq_true_eq, isNumeral_iff]
  constructor
  · rintro (⟨n, rfl⟩ | ⟨⟨hhead, n, htail⟩, hzero⟩)
    · exact ⟨n, by simp [decimalInt]⟩
    · have hn : n ≠ 0 := by
        rintro rfl
        exact hzero htail
      obtain ⟨rest, rfl⟩ : ∃ rest, text = 45 :: rest := List.head?_eq_some_iff.mp hhead
      have hrest : rest = decimal n := htail
      exact ⟨-(n : Int), by rw [decimalInt, if_pos (by omega), hrest]; simp⟩
  · rintro ⟨i, rfl⟩
    unfold decimalInt
    split
    · refine .inr ⟨⟨rfl, i.natAbs, rfl⟩, fun hzero => ?_⟩
      have : i.natAbs = 0 := decimal_inj hzero
      omega
    · exact .inl ⟨i.natAbs, rfl⟩

/-- What `decimalInt` wrote is scanned back. -/
theorem scan_decimalInt (i : Int) : scan (decimalInt i) = some (decide (i < 0), i.natAbs) := by
  unfold decimalInt
  split
  · rename_i hneg
    rw [scan_minus_decimal, decide_eq_true hneg]
  · rename_i hneg
    rw [scan_decimal, decide_eq_false hneg]

end CText
