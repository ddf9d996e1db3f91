import EdgeLink.ForStd.CText

/-! # Reading from a text stream

What `std::getline` and `operator>>` take from a stream. A stream is the list of the bytes that
are left; an extraction gives what was read and what is left then, and `none` where it sets
`failbit`.

* `lines`: the lines that `getline` gives one after the other.
* `extractWord`, `extractUInt64`: `operator>>` for a string and for a `std::uint64_t`.
* `extractCounters`: numbers up to the first extraction that fails, and
  `extractCounters_joined`: numbers that were written with blanks between them are read back. -/

namespace CText

/-- The lines of a text; a line break at the end starts no further line. -/
def lines : List UInt8 → List (List UInt8)
  | [] => []
  | c :: text =>
    if c = 10 then [] :: lines text
    else
      match lines text with
      | [] => [[c]]
      | line :: rest => (c :: line) :: rest

/-- `operator>>` for a `std::string`. -/
def extractWord (text : List UInt8) : Option (List UInt8 × List UInt8) :=
  let text := text.dropWhile isSpace
  if text.isEmpty then none
  else some (text.takeWhile (!isSpace ·), text.dropWhile (!isSpace ·))

/-- `operator>>` for a `std::uint64_t`. A minus sign negates the value modulo `2^64`; a value
    out of range fails. -/
def extractUInt64 (text : List UInt8) : Option (UInt64 × List UInt8) :=
  let (negative, rest) := scanSign (text.dropWhile isSpace)
  let digits := rest.takeWhile isDigit
  if digits.isEmpty then none
  else if digitsValue digits < 2 ^ 64 then
    let value := UInt64.ofNat (digitsValue digits)
    some (if negative then -value else value, rest.dropWhile isDigit)
  else none

/-- `while (parser >> counter)`: at most `fuel` numbers. -/
def extractUpTo : Nat → List UInt8 → List UInt64
  | 0, _ => []
  | fuel + 1, text =>
    match extractUInt64 text with
    | none => []
    | some (counter, rest) => counter :: extractUpTo fuel rest

/-- The numbers up to the first extraction that fails. Every number takes a byte, so there are
    no more numbers than bytes. -/
def extractCounters (text : List UInt8) : List UInt64 := extractUpTo text.length text

/-! ## The loop ends by itself -/

theorem length_scanSign_le (text : List UInt8) : (scanSign text).2.length ≤ text.length := by
  unfold scanSign
  split
  · exact Nat.le_refl _
  · split
    · exact Nat.le_succ _
    · split
      · exact Nat.le_succ _
      · exact Nat.le_refl _

/-- A number takes at least one byte. -/
theorem length_extractUInt64_lt {text rest : List UInt8} {counter : UInt64}
    (h : extractUInt64 text = some (counter, rest)) : rest.length < text.length := by
  simp only [extractUInt64] at h
  split at h
  · exact nomatch h
  · rename_i hdigits
    split at h
    · obtain ⟨-, rfl⟩ := Prod.mk.inj (Option.some.inj h)
      have hspace := (List.dropWhile_suffix isSpace (l := text)).length_le
      have hsign := length_scanSign_le (text.dropWhile isSpace)
      have hsplit := congrArg List.length (List.takeWhile_append_dropWhile
        (p := isDigit) (l := (scanSign (text.dropWhile isSpace)).2))
      rw [List.isEmpty_iff, ← List.length_eq_zero_iff] at hdigits
      rw [List.length_append] at hsplit
      omega
    · exact nomatch h

/-- Fuel for every byte is enough. -/
theorem extractUpTo_congr {fuel fuel' : Nat} {text : List UInt8} (h : text.length ≤ fuel)
    (h' : text.length ≤ fuel') : extractUpTo fuel text = extractUpTo fuel' text := by
  induction fuel generalizing fuel' text with
  | zero =>
    obtain rfl : text = [] := List.length_eq_zero_iff.mp (by omega)
    cases fuel' <;> rfl
  | succ fuel ih =>
    cases fuel' with
    | zero =>
      obtain rfl : text = [] := List.length_eq_zero_iff.mp (by omega)
      rfl
    | succ fuel' =>
      simp only [extractUpTo]
      cases hextract : extractUInt64 text with
      | none => rfl
      | some result =>
        have hlt := length_extractUInt64_lt hextract
        exact congrArg (result.1 :: ·) (ih (by omega) (by omega))

/-- One turn of the loop. -/
theorem extractCounters_of_some {text rest : List UInt8} {counter : UInt64}
    (h : extractUInt64 text = some (counter, rest)) :
    extractCounters text = counter :: extractCounters rest := by
  have hlt := length_extractUInt64_lt h
  obtain ⟨fuel, hfuel⟩ : ∃ fuel, text.length = fuel + 1 := ⟨text.length - 1, by omega⟩
  rw [extractCounters, hfuel, extractUpTo, h]
  exact congrArg (counter :: ·) (extractUpTo_congr (by omega) (Nat.le_refl _))

/-! ## Reading back what was written -/

/-- A number is read up to the first byte that is no digit. -/
theorem extractUInt64_decimal (n : UInt64) {rest : List UInt8}
    (hrest : ∀ c ∈ rest.head?, isDigit c = false) :
    extractUInt64 (32 :: (decimal n.toNat ++ rest)) = some (n, rest) := by
  have hdigits := decimal_isDigit n.toNat
  obtain ⟨c, more, hcons⟩ := List.exists_cons_of_ne_nil (decimal_ne_nil n.toNat)
  obtain ⟨hspace, hminus, hplus⟩ := isDigit_not_space c (hdigits c (hcons ▸ List.mem_cons_self))
  have hskip : (32 :: (decimal n.toNat ++ rest)).dropWhile isSpace = decimal n.toNat ++ rest := by
    rw [List.dropWhile_cons_of_pos (by decide), hcons]
    exact List.dropWhile_cons_of_neg (by simp [hspace])
  have hsign : scanSign (decimal n.toNat ++ rest) = (false, decimal n.toNat ++ rest) := by
    rw [hcons, List.cons_append, scanSign, if_neg hminus, if_neg hplus]
  have hstop : rest.takeWhile isDigit = [] ∧ rest.dropWhile isDigit = rest := by
    cases rest with
    | nil => exact ⟨rfl, rfl⟩
    | cons c rest =>
      have hc := hrest c rfl
      exact ⟨List.takeWhile_cons_of_neg (by simp [hc]), List.dropWhile_cons_of_neg (by simp [hc])⟩
  have htake : (decimal n.toNat ++ rest).takeWhile isDigit = decimal n.toNat := by
    rw [List.takeWhile_append_of_pos hdigits, hstop.1, List.append_nil]
  have hdrop : (decimal n.toNat ++ rest).dropWhile isDigit = rest := by
    rw [List.dropWhile_append_of_pos hdigits, hstop.2]
  simp only [extractUInt64, hskip, hsign, htake, hdrop, digitsValue_decimal, List.isEmpty_iff,
    if_neg (decimal_ne_nil _), if_pos n.toNat_lt, Bool.false_eq_true, if_false,
    UInt64.ofNat_toNat]

/-- Numbers with a blank before each of them. -/
def joined (counters : List UInt64) : List UInt8 :=
  counters.flatMap fun counter => 32 :: decimal counter.toNat

/-- Numbers that were written are read back. -/
theorem extractCounters_joined (counters : List UInt64) :
    extractCounters (joined counters) = counters := by
  induction counters with
  | nil => rfl
  | cons counter counters ih =>
    have hnext : ∀ c ∈ (joined counters).head?, isDigit c = false := by
      cases counters with
      | nil => nofun
      | cons next counters =>
        intro c hc
        obtain rfl : 32 = c := Option.some.inj hc
        decide
    show extractCounters (32 :: (decimal counter.toNat ++ joined counters)) = _
    rw [extractCounters_of_some (extractUInt64_decimal counter hnext), ih]

/-- They are written in one line. -/
theorem lineBreak_not_mem_joined (counters : List UInt64) : 10 ∉ joined counters := by
  intro hmem
  obtain ⟨counter, -, hbyte⟩ := List.mem_flatMap.mp hmem
  obtain heq | hdigit := List.mem_cons.mp hbyte
  · exact absurd heq (by decide)
  · exact absurd (decimal_isDigit _ _ hdigit) (by decide)

/-- A word ends before the numbers. -/
theorem extractWord_joined {word : List UInt8} (hne : word ≠ [])
    (hword : word.all (!isSpace ·) = true) (counters : List UInt64) :
    extractWord (word ++ joined counters) = some (word, joined counters) := by
  have hletters := List.all_eq_true.mp hword
  obtain ⟨c, rest, rfl⟩ := List.exists_cons_of_ne_nil hne
  have hskip : ((c :: rest) ++ joined counters).dropWhile isSpace =
      (c :: rest) ++ joined counters :=
    List.dropWhile_cons_of_neg (by simpa using hletters c List.mem_cons_self)
  have hstop : (joined counters).takeWhile (!isSpace ·) = [] ∧
      (joined counters).dropWhile (!isSpace ·) = joined counters := by
    cases counters with
    | nil => exact ⟨rfl, rfl⟩
    | cons counter counters => exact ⟨rfl, rfl⟩
  simp only [extractWord, hskip]
  rw [List.takeWhile_append_of_pos hletters, List.dropWhile_append_of_pos hletters, hstop.1,
    hstop.2, List.append_nil]
  rfl

/-- A text without a line break is one line. -/
theorem lines_eq_singleton {text : List UInt8} (hne : text ≠ []) (h : 10 ∉ text) :
    lines text = [text] := by
  induction text with
  | nil => exact absurd rfl hne
  | cons c text ih =>
    obtain ⟨hc, htext⟩ := not_or.mp (List.mem_cons.not.mp h)
    rw [lines, if_neg (Ne.symm hc)]
    cases text with
    | nil => rfl
    | cons c' text => rw [ih (List.cons_ne_nil _ _) htext]

/-- The first line of a text that has a line break. -/
theorem lines_append_break {line : List UInt8} (h : 10 ∉ line) (text : List UInt8) :
    lines (line ++ 10 :: text) = line :: lines text := by
  induction line with
  | nil => simp [lines]
  | cons c line ih =>
    obtain ⟨hc, hline⟩ := not_or.mp (List.mem_cons.not.mp h)
    rw [List.cons_append, lines, if_neg (Ne.symm hc), ih hline]

end CText
