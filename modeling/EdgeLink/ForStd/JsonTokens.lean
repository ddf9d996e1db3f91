import Mathlib.Algebra.Field.Rat
import EdgeLink.ForStd.CText

/-!
# The tokens of JSON texts

The values of RFC 8259, its numbers and its strings over bytes, each with a reader that is
sound and complete for the grammar.

* `Json`: values. A number is kept as `mantissa * 10 ^ exponent` (`Json.rational`), and a
  string as its bytes; bytes above `0x7F` stand for themselves.
* `NumberText`, `readNumber`: numbers. A text has one mantissa and one exponent
  (`NumberText.unique`).
* `Characters`, `readString`: strings and what they stand for.
-/

open CText

/-- A JSON value. -/
inductive Json where
  | null
  | bool (value : Bool)
  | number (mantissa exponent : Int)
  | string (bytes : List UInt8)
  | array (elements : List Json)
  | object (members : List (List UInt8 × Json))

namespace Json

/-- The number of a mantissa and an exponent. -/
def rational (mantissa exponent : Int) : ℚ := mantissa * 10 ^ exponent

/-! ## Runs of bytes -/

/-- The text does not go on with a byte that satisfies `p`. -/
def Stops (p : UInt8 → Bool) (text : List UInt8) : Prop :=
  ∀ c ∈ text.head?, p c = false

theorem Stops.cons {p : UInt8 → Bool} {c : UInt8} (h : p c = false) (text : List UInt8) :
    Stops p (c :: text) := by
  intro d hd
  obtain rfl := Option.some.inj hd
  exact h

theorem Stops.head {p : UInt8 → Bool} {c : UInt8} {text : List UInt8}
    (h : Stops p (c :: text)) : p c = false := h c rfl

/-- A run of bytes ends where the text stops. -/
theorem span_append {p : UInt8 → Bool} {run text : List UInt8} (hrun : ∀ c ∈ run, p c = true)
    (htext : Stops p text) :
    (run ++ text).takeWhile p = run ∧ (run ++ text).dropWhile p = text := by
  rw [List.takeWhile_append_of_pos hrun, List.dropWhile_append_of_pos hrun]
  cases text with
  | nil => simp
  | cons c text => simp [htext.head]

/-! ## Numbers -/

/-- The text of a fraction, with its digits. -/
inductive Fraction : List UInt8 → List UInt8 → Prop
  | none : Fraction [] []
  | some (digits : List UInt8) (hne : digits ≠ []) (hdigits : ∀ c ∈ digits, isDigit c = true) :
    Fraction (0x2E :: digits) digits

/-- The text of an exponent, with its value. -/
inductive Exponent : List UInt8 → Int → Prop
  | none : Exponent [] 0
  | some (letter : UInt8) (sign digits : List UInt8) (negative : Bool)
      (hletter : letter = 0x65 ∨ letter = 0x45)
      (hsign : negative = false ∧ (sign = [] ∨ sign = [0x2B]) ∨ negative = true ∧ sign = [0x2D])
      (hne : digits ≠ []) (hdigits : ∀ c ∈ digits, isDigit c = true) :
    Exponent (letter :: (sign ++ digits)) (signed negative (digitsValue digits))

/-- The minus sign of a number. -/
def minus (negative : Bool) : List UInt8 := if negative then [0x2D] else []

/-- The text of a number: a numeral, and perhaps a sign, a fraction and an exponent. -/
inductive NumberText : List UInt8 → Int → Int → Prop
  | mk (negative : Bool) (integer fraction digits exponent : List UInt8) (power : Int)
      (hinteger : isNumeral integer = true) (hfraction : Fraction fraction digits)
      (hexponent : Exponent exponent power) :
    NumberText (minus negative ++ (integer ++ (fraction ++ exponent)))
      (signed negative (digitsValue (integer ++ digits))) (power - digits.length)

/-- A byte that can go on a number. -/
def isNumberByte (c : UInt8) : Bool := isDigit c || c = 0x2E || c = 0x65 || c = 0x45

/-- Where a number can end. -/
abbrev Ends (text : List UInt8) : Prop := Stops isNumberByte text

def readMinus : List UInt8 → Bool × List UInt8
  | [] => (false, [])
  | c :: text => if c = 0x2D then (true, text) else (false, c :: text)

/-- One or more digits. -/
def readDigits (text : List UInt8) : Option (List UInt8 × List UInt8) :=
  if (text.takeWhile isDigit).isEmpty then none
  else some (text.takeWhile isDigit, text.dropWhile isDigit)

def readFraction : List UInt8 → Option (List UInt8 × List UInt8)
  | [] => some ([], [])
  | c :: text => if c = 0x2E then readDigits text else some ([], c :: text)

def readExponent : List UInt8 → Option (Int × List UInt8)
  | [] => some (0, [])
  | c :: text =>
    if c = 0x65 ∨ c = 0x45 then
      (readDigits (scanSign text).2).map fun (digits, rest) =>
        (signed (scanSign text).1 (digitsValue digits), rest)
    else some (0, c :: text)

def readNumber (text : List UInt8) : Option (Json × List UInt8) :=
  let (negative, text) := readMinus text
  let integer := text.takeWhile isDigit
  if isNumeral integer then
    match readFraction (text.dropWhile isDigit) with
    | none => none
    | some (digits, text) =>
      (readExponent text).map fun (power, rest) =>
        (number (signed negative (digitsValue (integer ++ digits))) (power - digits.length), rest)
  else none

theorem isNumberByte_of_isDigit {c : UInt8} (h : isNumberByte c = false) :
    isDigit c = false ∧ c ≠ 0x2E ∧ c ≠ 0x65 ∧ c ≠ 0x45 := by
  simpa [isNumberByte, and_assoc] using h

/-- Digits are read to their end. -/
theorem readDigits_append {digits text : List UInt8} (hne : digits ≠ [])
    (hdigits : ∀ c ∈ digits, isDigit c = true) (htext : Stops isDigit text) :
    readDigits (digits ++ text) = some (digits, text) := by
  obtain ⟨htake, hdrop⟩ := span_append hdigits htext
  rw [readDigits, htake, hdrop, if_neg (by simpa using hne)]

theorem readDigits_eq_some {text digits rest : List UInt8}
    (h : readDigits text = some (digits, rest)) :
    text = digits ++ rest ∧ digits ≠ [] ∧ ∀ c ∈ digits, isDigit c = true := by
  unfold readDigits at h
  split at h
  · cases h
  · rename_i hne
    obtain ⟨rfl, rfl⟩ := Prod.mk.inj (Option.some.inj h)
    refine ⟨List.takeWhile_append_dropWhile.symm, by simpa using hne, fun c hc => ?_⟩
    exact List.mem_takeWhile_imp hc

theorem Ends.stopsDigit {text : List UInt8} (h : Ends text) : Stops isDigit text :=
  fun c hc => (isNumberByte_of_isDigit (h c hc)).1

/-- An exponent is read to its end. -/
theorem readExponent_append {exponent rest : List UInt8} {power : Int}
    (h : Exponent exponent power) (hrest : Ends rest) :
    readExponent (exponent ++ rest) = some (power, rest) := by
  cases h with
  | none =>
    cases rest with
    | nil => rfl
    | cons c rest =>
      obtain ⟨-, -, hlower, hupper⟩ := isNumberByte_of_isDigit hrest.head
      rw [List.nil_append, readExponent, if_neg (not_or.mpr ⟨hlower, hupper⟩)]
  | some letter sign digits negative hletter hsign hne hdigits =>
    have hread := readDigits_append hne hdigits hrest.stopsDigit
    have hscan : scanSign (sign ++ (digits ++ rest)) = (negative, digits ++ rest) := by
      rcases hsign with ⟨rfl, rfl | rfl⟩ | ⟨rfl, rfl⟩
      · -- without a sign the first byte is a digit
        obtain ⟨c, tail, rfl⟩ := List.exists_cons_of_ne_nil hne
        obtain ⟨-, hminus, hplus⟩ := isDigit_not_space c (hdigits c List.mem_cons_self)
        rw [List.nil_append, List.cons_append, scanSign, if_neg hminus, if_neg hplus]
      · rfl
      · rfl
    rw [List.cons_append, List.append_assoc, readExponent, if_pos hletter, hscan, hread]
    rfl

theorem readExponent_eq_some {text rest : List UInt8} {power : Int}
    (h : readExponent text = some (power, rest)) :
    ∃ exponent, text = exponent ++ rest ∧ Exponent exponent power := by
  cases text with
  | nil =>
    obtain ⟨rfl, rfl⟩ := Prod.mk.inj (Option.some.inj h)
    exact ⟨[], rfl, .none⟩
  | cons c text =>
    rw [readExponent] at h
    split at h
    · rename_i hletter
      obtain ⟨⟨digits, rest'⟩, hread, heq⟩ := Option.map_eq_some_iff.mp h
      obtain ⟨rfl, rfl⟩ := Prod.mk.inj heq
      obtain ⟨htext, hne, hdigits⟩ := readDigits_eq_some hread
      -- the sign is what `scanSign` has skipped
      obtain ⟨sign, hsplit, hsign⟩ : ∃ sign, text = sign ++ (scanSign text).2 ∧
          ((scanSign text).1 = false ∧ (sign = [] ∨ sign = [0x2B]) ∨
            (scanSign text).1 = true ∧ sign = [0x2D]) := by
        cases text with
        | nil => exact ⟨[], rfl, .inl ⟨rfl, .inl rfl⟩⟩
        | cons d text =>
          rw [scanSign]
          split
          · rename_i hminus
            exact ⟨[0x2D], by rw [hminus]; rfl, .inr ⟨rfl, rfl⟩⟩
          split
          · rename_i hplus
            exact ⟨[0x2B], by rw [hplus]; rfl, .inl ⟨rfl, .inr rfl⟩⟩
          · exact ⟨[], rfl, .inl ⟨rfl, .inl rfl⟩⟩
      refine ⟨c :: (sign ++ digits), ?_, .some c sign digits _ hletter hsign hne hdigits⟩
      rw [List.cons_append, List.append_assoc, ← htext, ← hsplit]
    · obtain ⟨rfl, rfl⟩ := Prod.mk.inj (Option.some.inj h)
      exact ⟨[], rfl, .none⟩

/-- What an exponent starts with is no digit and no point. -/
theorem Exponent.stops {exponent rest : List UInt8} {power : Int} (h : Exponent exponent power)
    (hrest : Ends rest) : Stops (fun c => isDigit c || c = 0x2E) (exponent ++ rest) := by
  cases h with
  | none =>
    intro c hc
    obtain ⟨hdigit, hpoint, -⟩ := isNumberByte_of_isDigit (hrest c hc)
    simp [hdigit, hpoint]
  | some letter sign digits negative hletter hsign hne hdigits =>
    apply Stops.cons
    rcases hletter with rfl | rfl
    · decide
    · decide

/-- A fraction is read to its end. -/
theorem readFraction_append {fraction digits rest : List UInt8} (h : Fraction fraction digits)
    (hrest : Stops (fun c => isDigit c || c = 0x2E) rest) :
    readFraction (fraction ++ rest) = some (digits, rest) := by
  cases h with
  | none =>
    cases rest with
    | nil => rfl
    | cons c rest =>
      have hpoint : c ≠ 0x2E := by
        have hhead := hrest.head
        simp only [Bool.or_eq_false_iff, decide_eq_false_iff_not] at hhead
        exact hhead.2
      rw [List.nil_append, readFraction, if_neg hpoint]
  | some digits hne hdigits =>
    rw [List.cons_append, readFraction, if_pos rfl]
    apply readDigits_append hne hdigits
    intro c hc
    have hhead := hrest c hc
    simp only [Bool.or_eq_false_iff] at hhead
    exact hhead.1

theorem readFraction_eq_some {text digits rest : List UInt8}
    (h : readFraction text = some (digits, rest)) :
    ∃ fraction, text = fraction ++ rest ∧ Fraction fraction digits := by
  cases text with
  | nil =>
    obtain ⟨rfl, rfl⟩ := Prod.mk.inj (Option.some.inj h)
    exact ⟨[], rfl, .none⟩
  | cons c text =>
    rw [readFraction] at h
    split at h
    · rename_i hpoint
      obtain ⟨htext, hne, hdigits⟩ := readDigits_eq_some h
      exact ⟨0x2E :: digits, by rw [hpoint, htext]; rfl, .some digits hne hdigits⟩
    · obtain ⟨rfl, rfl⟩ := Prod.mk.inj (Option.some.inj h)
      exact ⟨[], rfl, .none⟩

/-- A numeral is made of digits. -/
theorem isDigit_of_isNumeral {text : List UInt8} (h : isNumeral text = true) :
    text ≠ [] ∧ ∀ c ∈ text, isDigit c = true := by
  obtain ⟨n, rfl⟩ := (isNumeral_iff text).mp h
  exact ⟨decimal_ne_nil n, decimal_isDigit n⟩

/-- A number is read to its end. -/
theorem readNumber_append {text rest : List UInt8} {mantissa exponent : Int}
    (h : NumberText text mantissa exponent) (hrest : Ends rest) :
    readNumber (text ++ rest) = some (number mantissa exponent, rest) := by
  obtain ⟨negative, integer, fraction, digits, power, value, hinteger, hfraction, hexponent⟩ := h
  obtain ⟨hne, hdigits⟩ := isDigit_of_isNumeral hinteger
  have hstops := hexponent.stops hrest
  have hafter : Stops isDigit (fraction ++ (power ++ rest)) := by
    cases hfraction with
    | none =>
      intro c hc
      have hhead := hstops c hc
      simp only [Bool.or_eq_false_iff] at hhead
      exact hhead.1
    | some digits hne hdigits => exact Stops.cons (by decide) _
  obtain ⟨htake, hdrop⟩ := span_append hdigits hafter
  have hminus : readMinus (minus negative ++ (integer ++ (fraction ++ (power ++ rest)))) =
      (negative, integer ++ (fraction ++ (power ++ rest))) := by
    cases negative with
    | true => rfl
    | false =>
      obtain ⟨c, tail, rfl⟩ := List.exists_cons_of_ne_nil hne
      have hc := (isDigit_not_space c (hdigits c List.mem_cons_self)).2.1
      exact if_neg hc
  simp only [readNumber, List.append_assoc, hminus, htake, hdrop, hinteger, if_true,
    readFraction_append hfraction hstops, readExponent_append hexponent hrest, Option.map_some]

/-- No byte of a number is NUL. -/
theorem NumberText.zero_not_mem {text : List UInt8} {mantissa exponent : Int}
    (h : NumberText text mantissa exponent) : 0 ∉ text := by
  obtain ⟨negative, integer, fraction, digits, power, value, hinteger, hfraction, hexponent⟩ := h
  have hdigits : ∀ run : List UInt8, (∀ c ∈ run, isDigit c = true) → 0 ∉ run :=
    fun run hrun hzero => absurd (hrun 0 hzero) (by decide)
  simp only [List.mem_append, not_or]
  refine ⟨?_, hdigits _ (isDigit_of_isNumeral hinteger).2, ?_, ?_⟩
  · cases negative <;> decide
  · cases hfraction with
    | none => exact List.not_mem_nil
    | some digits hne hrun =>
      rw [List.mem_cons, not_or]
      exact ⟨by decide, hdigits _ hrun⟩
  · cases hexponent with
    | none => exact List.not_mem_nil
    | some letter sign digits negative hletter hsign hne hrun =>
      simp only [List.mem_cons, List.mem_append, not_or]
      refine ⟨?_, ?_, hdigits _ hrun⟩
      · rcases hletter with rfl | rfl <;> decide
      · rcases hsign with ⟨-, rfl | rfl⟩ | ⟨-, rfl⟩ <;> decide

/-- A text denotes one number only. -/
theorem NumberText.unique {text : List UInt8} {mantissa exponent mantissa' exponent' : Int}
    (h : NumberText text mantissa exponent) (h' : NumberText text mantissa' exponent') :
    mantissa = mantissa' ∧ exponent = exponent' := by
  have hends : Ends [] := fun _ hc => nomatch hc
  have hread := readNumber_append h hends
  rw [readNumber_append h' hends] at hread
  obtain ⟨hmantissa, hexponent⟩ := number.inj (Prod.mk.inj (Option.some.inj hread)).1
  exact ⟨hmantissa.symm, hexponent.symm⟩

theorem readNumber_eq_some {text rest : List UInt8} {value : Json}
    (h : readNumber text = some (value, rest)) :
    ∃ body mantissa exponent, text = body ++ rest ∧ value = number mantissa exponent ∧
      NumberText body mantissa exponent := by
  have hminus : text = minus (readMinus text).1 ++ (readMinus text).2 := by
    cases text with
    | nil => rfl
    | cons c text =>
      rw [readMinus]
      split
      · rename_i hc
        rw [hc]
        rfl
      · rfl
  simp only [readNumber] at h
  split at h
  · rename_i hinteger
    split at h
    · cases h
    · rename_i digits text' hfraction
      obtain ⟨⟨power, rest'⟩, hexponent, heq⟩ := Option.map_eq_some_iff.mp h
      obtain ⟨rfl, rfl⟩ := Prod.mk.inj heq
      obtain ⟨fraction, hsplit, hfrac⟩ := readFraction_eq_some hfraction
      obtain ⟨exponent, hsplit', hexp⟩ := readExponent_eq_some hexponent
      -- the four parts, put together again, are the text
      refine ⟨_, _, _, ?_, rfl, .mk _ _ _ _ _ _ hinteger hfrac hexp⟩
      simp only [List.append_assoc]
      rw [← hsplit', ← hsplit, List.takeWhile_append_dropWhile, ← hminus]
  · cases h

/-! ## Strings -/

/-- What a letter after a backslash stands for. -/
def unescape (letter : UInt8) : Option UInt8 :=
  if letter = 0x22 then some 0x22
  else if letter = 0x5C then some 0x5C
  else if letter = 0x2F then some 0x2F
  else if letter = 0x62 then some 0x08
  else if letter = 0x66 then some 0x0C
  else if letter = 0x6E then some 0x0A
  else if letter = 0x72 then some 0x0D
  else if letter = 0x74 then some 0x09
  else none

def isHexDigit (c : UInt8) : Bool :=
  isDigit c || (0x61 ≤ c && c ≤ 0x66) || (0x41 ≤ c && c ≤ 0x46)

def hexDigitValue (c : UInt8) : Nat :=
  if isDigit c then c.toNat - 48 else if 0x61 ≤ c then c.toNat - 87 else c.toNat - 55

/-- The number that hexadecimal digits denote. -/
def hexValue (digits : List UInt8) : Nat :=
  digits.foldl (fun n c => n * 16 + hexDigitValue c) 0

/-- The UTF-8 bytes of a code unit. The two units of a surrogate pair stay apart. -/
def utf8 (unit : Nat) : List UInt8 :=
  if unit < 0x80 then [UInt8.ofNat unit]
  else if unit < 0x800 then [UInt8.ofNat (0xC0 + unit / 64), UInt8.ofNat (0x80 + unit % 64)]
  else [UInt8.ofNat (0xE0 + unit / 4096), UInt8.ofNat (0x80 + unit / 64 % 64),
    UInt8.ofNat (0x80 + unit % 64)]

/-- The text of one character of a string, with its bytes. -/
inductive Character : List UInt8 → List UInt8 → Prop
  | unescaped (c : UInt8) (hcontrol : ¬c < 0x20) (hquote : c ≠ 0x22) (hbackslash : c ≠ 0x5C) :
    Character [c] [c]
  | escaped (letter c : UInt8) (hletter : unescape letter = some c) :
    Character [0x5C, letter] [c]
  | unicode (digits : List UInt8) (hlength : digits.length = 4)
      (hdigits : ∀ c ∈ digits, isHexDigit c = true) :
    Character (0x5C :: 0x75 :: digits) (utf8 (hexValue digits))

/-- The text between the quotes of a string, with its bytes. -/
inductive Characters : List UInt8 → List UInt8 → Prop
  | nil : Characters [] []
  | cons {text bytes body more : List UInt8} (hfirst : Character text bytes)
      (hrest : Characters body more) : Characters (text ++ body) (bytes ++ more)

def readUnicode (text : List UInt8) : Option (List UInt8 × List UInt8) :=
  let digits := text.take 4
  if digits.length = 4 ∧ digits.all isHexDigit then
    some (utf8 (hexValue digits), text.drop 4)
  else none

/-- What follows a backslash. -/
def readEscape : List UInt8 → Option (List UInt8 × List UInt8)
  | [] => none
  | letter :: text =>
    if letter = 0x75 then readUnicode text else (unescape letter).map fun c => ([c], text)

/-- The bytes of the first character. -/
def readCharacter : List UInt8 → Option (List UInt8 × List UInt8)
  | [] => none
  | c :: text =>
    if c = 0x5C then readEscape text
    else if c < 0x20 ∨ c = 0x22 then none
    else some ([c], text)

/-- The characters up to the closing quote. -/
def readCharacters : Nat → List UInt8 → Option (List UInt8 × List UInt8)
  | 0, _ => none
  | _ + 1, [] => none
  | fuel + 1, c :: text =>
    if c = 0x22 then some ([], text)
    else match readCharacter (c :: text) with
    | none => none
    | some (bytes, rest) =>
      (readCharacters fuel rest).map fun (more, rest) => (bytes ++ more, rest)

def readString : List UInt8 → Option (List UInt8 × List UInt8)
  | [] => none
  | c :: text => if c = 0x22 then readCharacters text.length text else none

theorem readCharacter_append {text bytes : List UInt8} (h : Character text bytes)
    (rest : List UInt8) : readCharacter (text ++ rest) = some (bytes, rest) := by
  cases h with
  | unescaped c hcontrol hquote hbackslash =>
    rw [List.cons_append, List.nil_append, readCharacter, if_neg hbackslash,
      if_neg (not_or.mpr ⟨hcontrol, hquote⟩)]
  | escaped letter c hletter =>
    have hne : letter ≠ 0x75 := by
      rintro rfl
      cases hletter
    simp only [List.cons_append, List.nil_append, readCharacter, readEscape, if_true, if_neg hne,
      hletter, Option.map_some]
  | unicode digits hlength hdigits =>
    have htake : (digits ++ rest).take 4 = digits := by
      rw [← hlength, List.take_left]
    have hdrop : (digits ++ rest).drop 4 = rest := by
      rw [← hlength, List.drop_left]
    simp only [List.cons_append, readCharacter, readEscape, if_true, readUnicode, htake, hdrop]
    exact if_pos ⟨hlength, List.all_eq_true.mpr hdigits⟩

theorem readCharacter_eq_some {text bytes rest : List UInt8}
    (h : readCharacter text = some (bytes, rest)) :
    ∃ body, text = body ++ rest ∧ Character body bytes := by
  cases text with
  | nil => cases h
  | cons c text =>
    rw [readCharacter] at h
    split at h
    · rename_i hbackslash
      cases text with
      | nil => cases h
      | cons letter text =>
        rw [readEscape] at h
        split at h
        · -- `\u` and four digits
          rename_i hunicode
          simp only [readUnicode] at h
          split at h
          · rename_i hdigits
            obtain ⟨rfl, rfl⟩ := Prod.mk.inj (Option.some.inj h)
            refine ⟨0x5C :: 0x75 :: text.take 4, ?_,
              .unicode _ hdigits.1 (List.all_eq_true.mp hdigits.2)⟩
            rw [hbackslash, hunicode, List.cons_append, List.cons_append, List.take_append_drop]
          · cases h
        · obtain ⟨d, hletter, heq⟩ := Option.map_eq_some_iff.mp h
          obtain ⟨rfl, rfl⟩ := Prod.mk.inj heq
          exact ⟨[0x5C, letter], by rw [hbackslash]; rfl, .escaped letter d hletter⟩
    · rename_i hbackslash
      split at h
      · cases h
      · -- a byte that stands for itself
        rename_i hplain
        obtain ⟨rfl, rfl⟩ := Prod.mk.inj (Option.some.inj h)
        obtain ⟨hcontrol, hquote⟩ := not_or.mp hplain
        exact ⟨[c], rfl, .unescaped c hcontrol hquote hbackslash⟩

/-- A character does not start with a quote. -/
theorem Character.head {text bytes : List UInt8} (h : Character text bytes) :
    ∃ c tail, text = c :: tail ∧ c ≠ 0x22 := by
  cases h with
  | unescaped c hcontrol hquote hbackslash => exact ⟨c, [], rfl, hquote⟩
  | escaped letter c hletter => exact ⟨0x5C, [letter], rfl, by decide⟩
  | unicode digits hlength hdigits => exact ⟨0x5C, _, rfl, by decide⟩

/-- No byte of a character is NUL. -/
theorem Character.zero_not_mem {text bytes : List UInt8} (h : Character text bytes) :
    0 ∉ text := by
  cases h with
  | unescaped c hcontrol =>
    rw [List.mem_singleton]
    rintro rfl
    exact hcontrol (by decide)
  | escaped letter c hletter =>
    simp only [List.mem_cons, List.not_mem_nil, or_false, not_or]
    refine ⟨by decide, ?_⟩
    rintro rfl
    cases hletter
  | unicode digits hlength hdigits =>
    simp only [List.mem_cons, not_or]
    exact ⟨by decide, by decide, fun hzero => absurd (hdigits 0 hzero) (by decide)⟩

/-- Nor is one of the text between the quotes. -/
theorem Characters.zero_not_mem {body bytes : List UInt8} (h : Characters body bytes) :
    0 ∉ body := by
  induction h with
  | nil => exact List.not_mem_nil
  | cons hfirst _ ih =>
    rw [List.mem_append, not_or]
    exact ⟨hfirst.zero_not_mem, ih⟩

/-- The scanner stops exactly at the closing quote. -/
theorem readCharacters_append {body bytes : List UInt8} (h : Characters body bytes)
    (rest : List UInt8) :
    ∀ fuel, body.length < fuel →
      readCharacters fuel (body ++ 0x22 :: rest) = some (bytes, rest) := by
  induction h with
  | nil =>
    intro fuel hfuel
    obtain ⟨fuel, rfl⟩ := Nat.exists_eq_add_of_lt hfuel
    show readCharacters (_ + 1) (0x22 :: rest) = _
    rw [readCharacters, if_pos rfl]
  | @cons text bytes body more hfirst hrest ih =>
    intro fuel hfuel
    obtain ⟨c, tail, rfl, hquote⟩ := hfirst.head
    rw [List.length_append, List.length_cons] at hfuel
    cases fuel with
    | zero => omega
    | succ fuel =>
      have hread := readCharacter_append hfirst (body ++ 0x22 :: rest)
      rw [List.cons_append] at hread
      rw [List.append_assoc, List.cons_append, readCharacters, if_neg hquote, hread]
      dsimp only
      rw [ih fuel (by omega)]
      rfl

theorem readCharacters_eq_some (fuel : Nat) : ∀ {text bytes rest : List UInt8},
    readCharacters fuel text = some (bytes, rest) →
      ∃ body, text = body ++ 0x22 :: rest ∧ Characters body bytes := by
  induction fuel with
  | zero =>
    intro text bytes rest h
    cases h
  | succ fuel ih =>
    intro text bytes rest h
    cases text with
    | nil => cases h
    | cons c text =>
      rw [readCharacters] at h
      split at h
      · rename_i hquote
        obtain ⟨rfl, rfl⟩ := Prod.mk.inj (Option.some.inj h)
        exact ⟨[], by rw [hquote]; rfl, .nil⟩
      · split at h
        · cases h
        · rename_i first text' hfirst
          obtain ⟨⟨more, rest'⟩, hmore, heq⟩ := Option.map_eq_some_iff.mp h
          obtain ⟨rfl, rfl⟩ := Prod.mk.inj heq
          obtain ⟨head, hsplit, hhead⟩ := readCharacter_eq_some hfirst
          obtain ⟨body, hsplit', hbody⟩ := ih hmore
          exact ⟨head ++ body, by rw [hsplit, hsplit', List.append_assoc], .cons hhead hbody⟩

/-- A string is read to its closing quote. -/
theorem readString_append {body bytes : List UInt8} (h : Characters body bytes)
    (rest : List UInt8) :
    readString (0x22 :: (body ++ 0x22 :: rest)) = some (bytes, rest) := by
  rw [readString, if_pos rfl]
  apply readCharacters_append h
  rw [List.length_append, List.length_cons]
  omega

theorem readString_eq_some {text bytes rest : List UInt8}
    (h : readString text = some (bytes, rest)) :
    ∃ body, text = 0x22 :: (body ++ 0x22 :: rest) ∧ Characters body bytes := by
  cases text with
  | nil => cases h
  | cons c text =>
    rw [readString] at h
    split at h
    · rename_i hquote
      obtain ⟨body, hsplit, hbody⟩ := readCharacters_eq_some _ h
      exact ⟨body, by rw [hquote, hsplit], hbody⟩
    · cases h

end Json
