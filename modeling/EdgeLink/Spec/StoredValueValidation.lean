import EdgeLink.Native.StorageService

/-!
# What the storage takes for a value

`deserializeTagValue` is meant to return true for valid text only. It relies on the C++
library, which reads a number at the front of a text: white space, a plus sign, leading
zeros and anything behind the digits pass, and so does a number that is too large for the
type. Here is exactly for which texts the value read is the one the text was written for
(`ValidText`).
-/

namespace EdgeLink

open CText

/-! ## Texts of numbers -/

/-- The number of a sign and a magnitude. -/
def signedValue (negative : Bool) (n : Nat) : Int := if negative then -n else n

/-- The text of a signed type of `bits` bits, read by a function that throws outside
    `parserBits` bits: if it finds a number that it can represent, the text is the numeral
    of that number and the type can represent it too. -/
def SignedText (parserBits bits : Nat) (text : Bytes) : Prop :=
  ∀ negative n, scan text = some (negative, n) →
    -2 ^ (parserBits - 1) ≤ signedValue negative n ∧
      signedValue negative n < 2 ^ (parserBits - 1) →
    isIntNumeral text = true ∧ -2 ^ (bits - 1) ≤ signedValue negative n ∧
      signedValue negative n < 2 ^ (bits - 1)

/-- The text of an unsigned type of `bits` bits: if it has a number below `2^64` at its
    front, it is the numeral of that number, without a sign, and below `2^bits`. -/
def UnsignedText (bits : Nat) (text : Bytes) : Prop :=
  ∀ negative n, scan text = some (negative, n) → n < 2 ^ 64 →
    isNumeral text = true ∧ n < 2 ^ bits

/-- The texts for which a row of this type is read for what it is or rejected. -/
def ValidText (type : Int) (text : Bytes) : Prop :=
  match type with
  | 0 => text = []
  | 2 => SignedText 32 8 text
  | 3 => SignedText 32 16 text
  | 4 => SignedText 64 32 text
  | 5 => SignedText 64 64 text
  | 6 => UnsignedText 8 text
  | 7 => UnsignedText 16 text
  | 8 => UnsignedText 32 text
  | 9 => UnsignedText 64 text
  | _ => True

/-- When `std::stoll` returns a number. -/
theorem stoll_eq_some_iff (text : Bytes) (i : Int) :
    stoll text = some i ↔ ∃ negative n, scan text = some (negative, n) ∧
      (-2 ^ 63 ≤ signedValue negative n ∧ signedValue negative n < 2 ^ 63) ∧
      signedValue negative n = i := by
  unfold stoll
  cases hscan : scan text with
  | none => simp
  | some found =>
    obtain ⟨negative, n⟩ := found
    simp [signedValue]

/-- When `std::stoi` returns a number. -/
theorem stoi_eq_some_iff (text : Bytes) (i : Int) :
    stoi text = some i ↔ ∃ negative n, scan text = some (negative, n) ∧
      (-2 ^ 31 ≤ signedValue negative n ∧ signedValue negative n < 2 ^ 31) ∧
      signedValue negative n = i := by
  unfold stoi stol
  cases hstoll : stoll text with
  | none =>
    simp only [reduceCtorEq, false_iff, not_exists, not_and]
    intro negative n hscan hrange _
    have := (stoll_eq_some_iff text (signedValue negative n)).mpr
      ⟨negative, n, hscan, ⟨by omega, by omega⟩, rfl⟩
    rw [hstoll] at this
    cases this
  | some value =>
    obtain ⟨negative, n, hscan, -, rfl⟩ := (stoll_eq_some_iff text value).mp hstoll
    simp [hscan]

/-- When `std::stoull` returns a number. -/
theorem stoull_eq_some_iff (text : Bytes) (m : Nat) :
    stoull text = some m ↔ ∃ negative n, scan text = some (negative, n) ∧ n < 2 ^ 64 ∧
      (if negative then (2 ^ 64 - n) % 2 ^ 64 else n) = m := by
  unfold stoull
  cases hscan : scan text with
  | none => simp
  | some found =>
    obtain ⟨negative, n⟩ := found
    simp

/-- A numeral denotes what is scanned of it. -/
theorem eq_decimalInt_of_scan {text : Bytes} {negative : Bool} {n : Nat}
    (h : isIntNumeral text = true) (hscan : scan text = some (negative, n)) :
    text = decimalInt (signedValue negative n) := by
  obtain ⟨i, rfl⟩ := (isIntNumeral_iff text).mp h
  rw [scan_decimalInt, Option.some.injEq, Prod.mk.injEq] at hscan
  obtain ⟨rfl, rfl⟩ := hscan
  congr 1
  simp only [signedValue, decide_eq_true_eq]
  split <;> omega

/-- What is scanned of the numeral of an integer. -/
theorem signedValue_of_scan {i : Int} {negative : Bool} {n : Nat}
    (hscan : scan (decimalInt i) = some (negative, n)) : signedValue negative n = i := by
  rw [scan_decimalInt, Option.some.injEq, Prod.mk.injEq] at hscan
  obtain ⟨rfl, rfl⟩ := hscan
  simp only [signedValue, decide_eq_true_eq]
  split <;> omega

/-- A signed type whose conversion `wrap` keeps what the type can represent. -/
theorem signedText_iff {parserBits bits : Nat} {text : Bytes} {parsed : Option Int}
    (hparsed : ∀ i, parsed = some i ↔ ∃ negative n, scan text = some (negative, n) ∧
      (-2 ^ (parserBits - 1) ≤ signedValue negative n ∧
        signedValue negative n < 2 ^ (parserBits - 1)) ∧ signedValue negative n = i)
    {wrap : Int → Int} (hrange : ∀ i, -2 ^ (bits - 1) ≤ wrap i ∧ wrap i < 2 ^ (bits - 1))
    (hwrap : ∀ i, -2 ^ (bits - 1) ≤ i → i < 2 ^ (bits - 1) → wrap i = i) :
    (∀ i, parsed = some i → decimalInt (wrap i) = text) ↔ SignedText parserBits bits text := by
  constructor
  · intro h negative n hscan hparser
    have htext := h _ ((hparsed _).mpr ⟨negative, n, hscan, hparser, rfl⟩)
    have hvalue : signedValue negative n = wrap (signedValue negative n) :=
      signedValue_of_scan (htext ▸ hscan)
    refine ⟨(isIntNumeral_iff text).mpr ⟨_, htext.symm⟩, ?_⟩
    rw [hvalue]
    exact hrange _
  · intro h i hi
    obtain ⟨negative, n, hscan, hparser, rfl⟩ := (hparsed i).mp hi
    obtain ⟨hnumeral, hmin, hmax⟩ := h negative n hscan hparser
    rw [hwrap _ hmin hmax, ← eq_decimalInt_of_scan hnumeral hscan]

/-- An unsigned type: the cast keeps the low `bits` bits. -/
theorem unsignedText_iff {bits : Nat} {text : Bytes} :
    (∀ m, stoull text = some m → decimal (m % 2 ^ bits) = text) ↔ UnsignedText bits text := by
  have hpos : 0 < 2 ^ bits := Nat.two_pow_pos bits
  constructor
  · intro h negative n hscan hn
    have htext := h _ ((stoull_eq_some_iff text _).mpr ⟨negative, n, hscan, hn, rfl⟩)
    rw [← htext, scan_decimal, Option.some.injEq, Prod.mk.injEq] at hscan
    refine ⟨(isNumeral_iff text).mpr ⟨_, htext.symm⟩, ?_⟩
    rw [← hscan.2]
    exact Nat.mod_lt _ hpos
  · intro h m hm
    obtain ⟨negative, n, hscan, hn, rfl⟩ := (stoull_eq_some_iff text m).mp hm
    obtain ⟨hnumeral, hlt⟩ := h negative n hscan hn
    obtain ⟨k, rfl⟩ := (isNumeral_iff text).mp hnumeral
    rw [scan_decimal, Option.some.injEq, Prod.mk.injEq] at hscan
    obtain ⟨rfl, rfl⟩ := hscan
    rw [if_neg Bool.false_ne_true, Nat.mod_eq_of_lt hlt]

/-! ## Values -/

/-- What `deserializeTagValue` returns for this row, if anything, is what
    `serializeTagValue` writes as this row. -/
def Validated (format : FloatFormat) (type : Int32) (text : Bytes) : Prop :=
  ∀ value, deserializeTagValue format type text = some value →
    serializeTagValue format value = ⟨type.toInt.toNat, text⟩

/-- An alternative that is read by `parsed` and written as `write`. -/
theorem validated_map_iff {α : Type} {format : FloatFormat} {type : Int32} {text : Bytes}
    (parsed : Option α) (make : α → TagValue) (write : α → Bytes)
    (hread : deserializeTagValue format type text = parsed.map make)
    (hwrite : ∀ a, serializeTagValue format (make a) = ⟨type.toInt.toNat, write a⟩) :
    Validated format type text ↔ ∀ a, parsed = some a → write a = text := by
  simp only [Validated, hread, Option.map_eq_some_iff]
  constructor
  · intro h a ha
    have heq := h (make a) ⟨a, ha, rfl⟩
    rw [hwrite] at heq
    exact (SerializedValue.mk.inj heq).2
  · rintro h value ⟨a, ha, rfl⟩
    rw [hwrite, h a ha]

/-- A text of a type other than the floating-point ones is read as the value it was
    written for, or rejected, exactly when it is valid. -/
theorem validated_iff (format : FloatFormat) (type : Int32) (text : Bytes)
    (htype : (0 ≤ type.toInt ∧ type.toInt ≤ 9) ∨ type.toInt = 12) :
    Validated format type text ↔ ValidText type.toInt text := by
  obtain ⟨k, hk⟩ : ∃ k : Int, type.toInt = k := ⟨_, rfl⟩
  rw [hk] at htype ⊢
  have hcases : k = 0 ∨ k = 1 ∨ k = 2 ∨ k = 3 ∨ k = 4 ∨ k = 5 ∨ k = 6 ∨ k = 7 ∨ k = 8 ∨
      k = 9 ∨ k = 12 := by omega
  rcases hcases with rfl | rfl | rfl | rfl | rfl | rfl | rfl | rfl | rfl | rfl | rfl
  · -- any text is read as an empty value, which is written as the empty text
    simp only [Validated, deserializeTagValue, hk, Option.some.injEq, forall_eq', ValidText]
    simp [serializeTagValue, serializedText, TagValue.index, eq_comm]
  · simp only [Validated, deserializeTagValue, hk, ValidText, iff_true]
    intro value hvalue
    split at hvalue
    · rename_i htext
      obtain rfl := Option.some.inj hvalue
      rcases htext with rfl | rfl <;> rfl
    · cases hvalue
  · refine (validated_map_iff (stoi text) (fun i => .int8 (Int8.ofInt i))
      (fun i => decimalInt (Int8.ofInt i).toInt) (by simp only [deserializeTagValue, hk])
      fun i => by rw [hk]; rfl).trans ?_
    exact signedText_iff (stoi_eq_some_iff text)
      (fun i => ⟨(Int8.ofInt i).le_toInt, (Int8.ofInt i).toInt_lt⟩)
      fun i hmin hmax => Int8.toInt_ofInt_of_le hmin hmax
  · refine (validated_map_iff (stoi text) (fun i => .int16 (Int16.ofInt i))
      (fun i => decimalInt (Int16.ofInt i).toInt) (by simp only [deserializeTagValue, hk])
      fun i => by rw [hk]; rfl).trans ?_
    exact signedText_iff (stoi_eq_some_iff text)
      (fun i => ⟨(Int16.ofInt i).le_toInt, (Int16.ofInt i).toInt_lt⟩)
      fun i hmin hmax => Int16.toInt_ofInt_of_le hmin hmax
  · refine (validated_map_iff (stol text) (fun i => .int32 (Int32.ofInt i))
      (fun i => decimalInt (Int32.ofInt i).toInt) (by simp only [deserializeTagValue, hk])
      fun i => by rw [hk]; rfl).trans ?_
    exact signedText_iff (stoll_eq_some_iff text)
      (fun i => ⟨(Int32.ofInt i).le_toInt, (Int32.ofInt i).toInt_lt⟩)
      fun i hmin hmax => Int32.toInt_ofInt_of_le hmin hmax
  · refine (validated_map_iff (stoll text) (fun i => .int64 (Int64.ofInt i))
      (fun i => decimalInt (Int64.ofInt i).toInt) (by simp only [deserializeTagValue, hk])
      fun i => by rw [hk]; rfl).trans ?_
    exact signedText_iff (stoll_eq_some_iff text)
      (fun i => ⟨(Int64.ofInt i).le_toInt, (Int64.ofInt i).toInt_lt⟩)
      fun i hmin hmax => Int64.toInt_ofInt_of_le hmin hmax
  · refine (validated_map_iff (stoull text) (fun m => .uint8 (UInt8.ofNat m))
      (fun m => decimal (UInt8.ofNat m).toNat) (by simp only [deserializeTagValue, stoul, hk])
      fun m => by rw [hk]; rfl).trans ?_
    exact unsignedText_iff
  · refine (validated_map_iff (stoull text) (fun m => .uint16 (UInt16.ofNat m))
      (fun m => decimal (UInt16.ofNat m).toNat) (by simp only [deserializeTagValue, stoul, hk])
      fun m => by rw [hk]; rfl).trans ?_
    exact unsignedText_iff
  · refine (validated_map_iff (stoull text) (fun m => .uint32 (UInt32.ofNat m))
      (fun m => decimal (UInt32.ofNat m).toNat) (by simp only [deserializeTagValue, stoul, hk])
      fun m => by rw [hk]; rfl).trans ?_
    exact unsignedText_iff
  · refine (validated_map_iff (stoull text) (fun m => .uint64 (UInt64.ofNat m))
      (fun m => decimal (UInt64.ofNat m).toNat) (by simp only [deserializeTagValue, hk])
      fun m => by rw [hk]; rfl).trans ?_
    exact unsignedText_iff
  · simp only [Validated, deserializeTagValue, hk, Option.some.injEq, forall_eq', ValidText,
      iff_true]
    rw [serializeTagValue]
    rfl

/-- `loadMessages` gives the value of a row as it is read from its text, or skips the row. -/
theorem loadRow_value_iff (format : FloatFormat) (row : TagMessageRow)
    (hquality : isValidQuality (columnInt row.quality) = true) (value : TagValue) :
    (∃ message, StorageService.loadRow format row = some message ∧ message.value = value) ↔
      deserializeTagValue format (columnInt row.valueType) (readTextColumn row.valueText) =
        some value := by
  simp only [StorageService.loadRow, hquality, Bool.not_true, Bool.false_eq_true, if_false]
  cases deserializeTagValue format (columnInt row.valueType) (readTextColumn row.valueText) with
  | none => simp
  | some value => simp

/-- **Stored values.** A row of a type other than the floating-point ones is read as the
    value it was written for, or rejected and skipped, exactly when its text is valid: empty
    for an empty value; for a number, without a number at its front that the library
    function accepts, or the numeral of a number of that type; a boolean or a string in any
    case. -/
theorem stored_values_validated_iff (format : FloatFormat) (type : Int32) (text : Bytes)
    (htype : (0 ≤ type.toInt ∧ type.toInt ≤ 9) ∨ type.toInt = 12) :
    (Validated format type text ↔ ValidText type.toInt text) ∧
    ∀ row : TagMessageRow, columnInt row.valueType = type →
      readTextColumn row.valueText = text → isValidQuality (columnInt row.quality) = true →
      ((∀ message, StorageService.loadRow format row = some message →
          serializeTagValue format message.value = ⟨type.toInt.toNat, text⟩) ↔
        ValidText type.toInt text) := by
  have hiff := validated_iff format type text htype
  refine ⟨hiff, ?_⟩
  rintro row rfl rfl hquality
  rw [← hiff]
  constructor
  · intro h value hvalue
    obtain ⟨message, hload, rfl⟩ := (loadRow_value_iff format row hquality value).mpr hvalue
    exact h message hload
  · intro h message hload
    exact h _ ((loadRow_value_iff format row hquality _).mp ⟨message, hload, rfl⟩)

theorem stored_values_validated_sample :
    ValidText 6 [50, 53, 53] ∧
      Validated ⟨fun _ _ => [], fun _ _ => [], fun _ => none, fun _ => none⟩ 6 [50, 53, 53] := by
  have hvalid : ValidText 6 [50, 53, 53] := by
    intro negative n hscan hn
    obtain ⟨rfl, rfl⟩ := Prod.mk.inj (Option.some.inj hscan)
    decide
  exact ⟨hvalid, (stored_values_validated_iff _ 6 _ (by decide)).1.mpr hvalid⟩

/-- The text `300` of an 8-bit integer is read as 44, which is written as another text. -/
theorem int8_300_not_validated :
    ¬ ∀ (format : FloatFormat) (type : Int32) (text : Bytes),
      (0 ≤ type.toInt ∧ type.toInt ≤ 9) ∨ type.toInt = 12 → Validated format type text := by
  intro h
  have hread : deserializeTagValue ⟨fun _ _ => [], fun _ _ => [], fun _ => none, fun _ => none⟩
      2 [51, 48, 48] = some (.int8 44) := by decide
  have heq := h _ 2 [51, 48, 48] (by decide) _ hread
  exact absurd (congrArg SerializedValue.text heq) (by decide)

end EdgeLink
