import EdgeLink.Native.StreamFormat
import EdgeLink.Spec.MqttPayloadCorrect

/-!
# Floating-point values in the JSON payload

`tagValueToJson` writes a floating-point value as a stream does, with six significant digits
and without quotes. A NaN or an infinity is no JSON value, and a number with more digits is
rounded, while `serializeTagValue` writes as many digits as the type needs.

## Key results

- `floating_payload_isJson_iff`: the payload is JSON exactly when the value is finite
- `integer_payload_exact_iff`: an integer is written exactly when it has at most six
  significant digits; `loadMessages` always gives it back
-/

namespace EdgeLink

open CText StorageService

/-- The text of a floating-point value. -/
theorem tagValueToJson_floatValue (stof : Bytes → Option UInt32) (stod : Bytes → Option UInt64)
    {value : TagValue} {float : FloatValue} (h : value.floatValue = some float) :
    tagValueToJson (streamFormat stof stod) value = printfG 6 float := by
  cases value with
  | float bits =>
    obtain rfl := Option.some.inj h
    rfl
  | double bits =>
    obtain rfl := Option.some.inj h
    rfl
  | _ => cases h

/-! ## Well-formedness -/

/-- A finite value is a JSON number. -/
theorem scalar_printfG {float : FloatValue} (h : float.isFinite = true) :
    ∃ m e, Json.Scalar (.number m e) (printfG 6 float) ∧
      ∀ negative significand exponent, float = .finite negative significand exponent →
        Json.rational m e = withSign negative (roundTo 6 (significand * 2 ^ exponent)) := by
  cases float with
  | nan negative => cases h
  | infinite negative => cases h
  | finite negative significand exponent =>
    have hx : (0 : ℚ) ≤ significand * 2 ^ exponent := by positivity
    obtain ⟨m, e, hnumber, hvalue⟩ := numberText_formatG (show 0 < 6 by omega) negative hx
    refine ⟨m, e, .number hnumber, fun negative' significand' exponent' heq => ?_⟩
    cases heq
    exact hvalue

/-- A NaN and an infinity are not read as a value, whatever follows. -/
theorem readValue_printfG {float : FloatValue} (h : float.isFinite = false) (depth : Nat)
    (rest : Bytes) : Json.readValue depth (printfG 6 float ++ rest) = none := by
  cases depth with
  | zero => rfl
  | succ depth =>
    cases float with
    | nan negative => cases negative <;> rfl
    | infinite negative => cases negative <;> rfl
    | finite negative significand exponent => cases h

/-- Where the value is not read, the payload is not JSON. -/
theorem not_isJson_messageToJson (format : FloatFormat) (message : Message)
    (hstops : ∀ rest, Json.Stops Json.isWhitespace (tagValueToJson format message.value ++ rest))
    (hvalue : ∀ depth rest,
      Json.readValue depth (tagValueToJson format message.value ++ rest) = none) :
    ¬Json.IsJson (messageToJson format message) := by
  -- the object up to the value, and the rest
  have htext : messageToJson format message =
      0x7B :: ([((ascii "deviceId", Json.string message.deviceId),
          0x22 :: (ascii "deviceId" ++ 0x22 :: 0x3A ::
            (0x22 :: (escapeJson message.deviceId ++ [0x22])))),
        ((ascii "tagName", Json.string message.tagName),
          0x22 :: (ascii "tagName" ++ 0x22 :: 0x3A ::
            (0x22 :: (escapeJson message.tagName ++ [0x22]))))].flatMap
          (fun front => front.2 ++ [0x2C]) ++
        0x22 :: (ascii "value" ++ 0x22 :: 0x3A :: (tagValueToJson format message.value ++
          (ascii ",\"quality\":\"" ++ (qualityToString message.quality ++
            (ascii "\",\"timestampMs\":" ++
              (decimalInt (timestampToMilliseconds message.timestamp).toInt ++
                ascii "\x7d"))))))) := by
    simp only [messageToJson, List.flatMap_cons, List.flatMap_nil, List.append_assoc,
      List.cons_append, List.nil_append]
    rfl
  rw [htext]
  refine Json.not_isJson_object _ ?_ rfl fun depth => ?_
  · intro front hfront
    simp only [List.mem_cons, List.not_mem_nil, or_false] at hfront
    rcases hfront with rfl | rfl
    · exact .tight (by decide) (.string (characters_escapeJson message.deviceId))
    · exact .tight (by decide) (.string (characters_escapeJson message.tagName))
  · -- the name is read, and then the reader meets the value
    have hname : Json.Characters (ascii "value") (ascii "value") :=
      Json.characters_of_plain (by decide)
    rw [Json.skip_of_stops (Json.Stops.cons (by decide) _), Json.readMember,
      Json.readString_append hname]
    dsimp only
    rw [Json.skip_of_stops (Json.Stops.cons (by decide) _)]
    dsimp only
    rw [if_pos rfl, Json.skip_of_stops (hstops _), hvalue]
    rfl

/-- What a NaN or an infinity starts with. -/
theorem stops_printfG {float : FloatValue} (h : float.isFinite = false) (rest : Bytes) :
    Json.Stops Json.isWhitespace (printfG 6 float ++ rest) := by
  cases float with
  | nan negative => cases negative <;> exact Json.Stops.cons (by decide) _
  | infinite negative => cases negative <;> exact Json.Stops.cons (by decide) _
  | finite negative significand exponent => cases h

/-- The payload of a value that is not finite is not JSON. -/
theorem not_isJson_of_not_finite (stof : Bytes → Option UInt32)
    (stod : Bytes → Option UInt64) {message : Message} {float : FloatValue}
    (hvalue : message.value.floatValue = some float) (hfinite : float.isFinite = false) :
    ¬Json.IsJson (messageToJson (streamFormat stof stod) message) := by
  apply not_isJson_messageToJson
  · rw [tagValueToJson_floatValue stof stod hvalue]
    exact stops_printfG hfinite
  · rw [tagValueToJson_floatValue stof stod hvalue]
    exact readValue_printfG hfinite

/-- **Well-formedness.** For every message with a `float` or a `double`, the payload is a
    JSON text if and only if the value is neither a NaN nor an infinity. The grammar is read
    over bytes: a string may hold any byte from 32 on, and that its bytes are UTF-8 is not
    asked. -/
theorem floating_payload_isJson_iff (stof : Bytes → Option UInt32)
    (stod : Bytes → Option UInt64) (message : Message) (float : FloatValue)
    (hvalue : message.value.floatValue = some float) :
    Json.IsJson (messageToJson (streamFormat stof stod) message) ↔ float.isFinite = true := by
  constructor
  · intro hjson
    by_contra hfinite
    exact not_isJson_of_not_finite stof stod hvalue (by simpa using hfinite) hjson
  · intro hfinite
    obtain ⟨m, e, hscalar, -⟩ := scalar_printfG hfinite
    rw [← tagValueToJson_floatValue stof stod hvalue] at hscalar
    exact ⟨_, denotes_messageToJson _ message _ hscalar⟩

/-- The `double` that is 0.1. -/
theorem floating_payload_isJson_sample :
    Json.IsJson (messageToJson (streamFormat (fun _ => none) fun _ => none)
      (storedMessage (.double 0x3FB999999999999A))) :=
  (floating_payload_isJson_iff _ _ _ _ rfl).mpr (by decide)

/-- The quiet NaN of `double`. -/
theorem nan_payload_not_json :
    ¬ ∀ message : Message, message.value.isFloating = true →
      Json.IsJson (messageToJson (streamFormat (fun _ => none) fun _ => none) message) := by
  intro h
  have hjson := h (storedMessage (.double 0x7FF8000000000000)) rfl
  exact not_isJson_of_not_finite _ _ rfl (by decide) hjson

/-! ## Integers -/

/-- The integer has at most six significant digits. -/
def SixDigits (n : Int) : Prop := ∃ m k : Nat, m < 10 ^ 6 ∧ n.natAbs = m * 10 ^ k

/-- Six digits are enough for exactly these integers. -/
theorem roundTo_six_iff (n : Int) : roundTo 6 (n.natAbs : ℚ) = n.natAbs ↔ SixDigits n := by
  rcases Nat.eq_zero_or_pos n.natAbs with hzero | hpos
  · rw [hzero, Nat.cast_zero, roundTo_zero]
    exact iff_of_true rfl ⟨0, 0, by norm_num, by rw [hzero]; norm_num⟩
  · rw [roundTo_eq_iff (by norm_num) (by exact_mod_cast hpos)]
    constructor
    · rintro ⟨m, k, hm, hvalue⟩
      rcases le_total 0 k with hk | hk
      · obtain ⟨j, rfl⟩ := Int.eq_ofNat_of_zero_le hk
        refine ⟨m, j, hm, ?_⟩
        rw [zpow_natCast] at hvalue
        exact_mod_cast hvalue
      · -- the number itself has no more digits than `m`
        refine ⟨n.natAbs, 0, ?_, by rw [pow_zero, mul_one]⟩
        have hle : (n.natAbs : ℚ) ≤ m := by
          rw [hvalue]
          exact mul_le_of_le_one_right (Nat.cast_nonneg m)
            (zpow_le_one_of_nonpos₀ (by norm_num) hk)
        have hle' : n.natAbs ≤ m := by exact_mod_cast hle
        omega
    · rintro ⟨m, k, hm, hvalue⟩
      refine ⟨m, k, hm, ?_⟩
      rw [zpow_natCast]
      exact_mod_cast hvalue

/-- The magnitude of a value that is an integer. -/
theorem magnitude_of_number {negative : Bool} {significand : Nat} {exponent n : Int}
    (h : (FloatValue.finite negative significand exponent).number = n) :
    (significand : ℚ) * 2 ^ exponent = n.natAbs ∧ withSign negative (n.natAbs : ℚ) = n := by
  have hx : (0 : ℚ) ≤ significand * 2 ^ exponent := by positivity
  have hmagnitude : (n.natAbs : ℚ) = |(n : ℚ)| := by
    rw [Nat.cast_natAbs, Int.cast_abs]
  rw [hmagnitude, ← h]
  cases negative with
  | false =>
    simp only [FloatValue.number, signed, withSign, Bool.false_eq_true, if_false, Int.cast_natCast]
    rw [abs_of_nonneg hx]
    exact ⟨rfl, rfl⟩
  | true =>
    simp only [FloatValue.number, signed, withSign, if_true, Int.cast_neg, Int.cast_natCast,
      neg_mul]
    rw [abs_neg, abs_of_nonneg hx]
    exact ⟨rfl, rfl⟩

/-- Where the integer is written exactly, its number is the integer. -/
theorem withSign_roundTo_iff {negative : Bool} {n : Int}
    (h : withSign negative (n.natAbs : ℚ) = n) :
    withSign negative (roundTo 6 (n.natAbs : ℚ)) = n ↔ SixDigits n := by
  rw [← roundTo_six_iff]
  cases negative with
  | false =>
    have hn : (n.natAbs : ℚ) = n := h
    show roundTo 6 (n.natAbs : ℚ) = n ↔ _
    rw [← hn]
  | true =>
    have hn : -(n.natAbs : ℚ) = n := h
    show -roundTo 6 (n.natAbs : ℚ) = n ↔ _
    rw [← hn, neg_inj]

/-! ## The stored value -/

/-- The smallest normal number of a format with negative exponents. -/
theorem smallest_le_half {F : BinaryFormat} (h : F.minExponent + F.fractionBits ≤ -1) :
    F.smallest ≤ 1 / 2 := by
  calc F.smallest ≤ 2 ^ (-1 : Int) := zpow_le_zpow_right₀ (by norm_num) h
    _ = 1 / 2 := by norm_num

/-- The largest number of a format with large exponents. -/
theorem le_largest {F : BinaryFormat} (h : 54 ≤ F.minExponent + 2 ^ F.exponentBits - 3) :
    2 ^ 54 ≤ F.largest := by
  have hsignificand : (1 : ℚ) ≤ 2 ^ F.precision - 1 := by
    have htwo : (2 : ℚ) ^ 1 ≤ 2 ^ F.precision :=
      pow_le_pow_right₀ (by norm_num) (by simp [BinaryFormat.precision])
    linarith
  have hpower : (2 : ℚ) ^ (54 : Int) ≤ 2 ^ (F.minExponent + 2 ^ F.exponentBits - 3) :=
    zpow_le_zpow_right₀ (by norm_num) h
  calc (2 : ℚ) ^ 54 ≤ 2 ^ (F.minExponent + 2 ^ F.exponentBits - 3) := hpower
    _ ≤ F.largest := le_mul_of_one_le_left (by positivity) hsignificand

/-- What is written of an integer is in the range of both formats. -/
theorem inRange_roundTo {F : BinaryFormat} {precision : Nat} (hprecision : 0 < precision)
    (hsmallest : F.smallest ≤ 1 / 2) (hlargest : 2 ^ 54 ≤ F.largest) (n : Nat)
    (hn : n ≤ 2 ^ 53) : F.InRange (roundTo precision n) := by
  rcases Nat.eq_zero_or_pos n with rfl | hpos
  · rw [Nat.cast_zero, roundTo_zero]
    exact .inl rfl
  · right
    have hn' : (n : ℚ) ≤ 2 ^ 53 := by exact_mod_cast hn
    have hone : (1 : ℚ) ≤ n := by exact_mod_cast hpos
    have hdist := roundTo_dist hprecision (Nat.cast_nonneg n : (0 : ℚ) ≤ n)
    -- the error is at most half of the number
    have herror : 2 * |roundTo precision n - n| ≤ n := by
      have hten : (1 : ℚ) ≤ 10 ^ (precision - 1) := one_le_pow₀ (by norm_num)
      have hle := mul_le_mul_of_nonneg_right hten (abs_nonneg (roundTo precision n - n))
      linarith
    obtain ⟨hlow, hhigh⟩ := abs_le.mp (show |roundTo precision n - n| ≤ n / 2 by linarith)
    have hnonneg : 0 ≤ roundTo precision n := by linarith
    rw [abs_of_nonneg hnonneg]
    constructor
    · linarith
    · linarith

/-- `std::stof` and `std::stod` round correctly. -/
structure ReadsCorrectly (stof : Bytes → Option UInt32) (stod : Bytes → Option UInt64) :
    Prop where
  stof : binary32.CorrectlyRounded UInt32.toNat stof
  stod : binary64.CorrectlyRounded UInt64.toNat stod

/-- The text of a finite value has no NUL. -/
theorem cString_printfG (precision : Nat) (hprecision : 0 < precision) {float : FloatValue}
    (hfinite : float.isFinite = true) :
    cString (printfG precision float) = printfG precision float := by
  cases float with
  | nan negative => cases hfinite
  | infinite negative => cases hfinite
  | finite negative significand exponent =>
    have hx : (0 : ℚ) ≤ significand * 2 ^ exponent := by positivity
    obtain ⟨m, e, hnumber, -⟩ := numberText_formatG hprecision negative hx
    exact (cString_eq_self_iff _).mpr hnumber.zero_not_mem

/-- A format whose numbers are written with enough digits gives an integer back. -/
theorem read_back_integer {F : BinaryFormat} {Bits : Type} {toNat : Bits → Nat}
    {read : Bytes → Option Bits} (hread : F.CorrectlyRounded toNat read) {precision : Nat}
    (hprecision : 0 < precision) (henough : 2 ^ F.precision < 10 ^ (precision - 1))
    (hsmallest : F.smallest ≤ 1 / 2) (hlargest : 2 ^ 54 ≤ F.largest) {bits : Bits} {n : Int}
    (hfinite : (F.decode (toNat bits)).isFinite = true)
    (hn : (F.decode (toNat bits)).number = n) (hbound : |n| ≤ 2 ^ 53) :
    ∃ result, read (cString (printfG precision (F.decode (toNat bits)))) = some result ∧
      (F.decode (toNat result)).isFinite = true ∧ (F.decode (toNat result)).number = n := by
  rw [cString_printfG precision hprecision hfinite]
  cases hbits : F.decode (toNat bits) with
  | nan negative => rw [hbits] at hfinite; cases hfinite
  | infinite negative => rw [hbits] at hfinite; cases hfinite
  | finite negative significand exponent =>
    rw [hbits] at hn
    obtain ⟨hmagnitude, -⟩ := magnitude_of_number hn
    have hrange : F.InRange (roundTo precision (significand * 2 ^ exponent)) := by
      rw [hmagnitude]
      have hbound' := abs_le.mp hbound
      exact inRange_roundTo hprecision hsmallest hlargest _ (by omega)
    obtain ⟨result, hresult, hresultFinite, hnumber⟩ :=
      hread.read_back hprecision henough hbits hrange
    rw [hbits] at hresult hnumber
    exact ⟨result, hresult, hresultFinite, hnumber.trans hn⟩

/-- The stored text of an integer is read as the integer. -/
theorem recovered_integer {stof : Bytes → Option UInt32} {stod : Bytes → Option UInt64}
    (hread : ReadsCorrectly stof stod) {value : TagValue} {float : FloatValue} {n : Int}
    (hvalue : value.floatValue = some float) (hfinite : float.isFinite = true)
    (hn : float.number = n) (hbound : |n| ≤ 2 ^ 53) :
    ∃ loaded result, value.recovered (streamFormat stof stod) = some loaded ∧
      loaded.floatValue = some result ∧ result.isFinite = true ∧ result.number = n := by
  cases value with
  | float bits =>
    obtain rfl := Option.some.inj hvalue
    obtain ⟨result, hresult, hresultFinite, hnumber⟩ :=
      read_back_integer hread.stof (show 0 < 9 by omega) (by decide)
        (smallest_le_half (by decide)) (le_largest (by decide)) hfinite hn hbound
    refine ⟨.float result, _, ?_, rfl, hresultFinite, hnumber⟩
    exact congrArg (Option.map TagValue.float) hresult
  | double bits =>
    obtain rfl := Option.some.inj hvalue
    obtain ⟨result, hresult, hresultFinite, hnumber⟩ :=
      read_back_integer hread.stod (show 0 < 17 by omega) (by decide)
        (smallest_le_half (by decide)) (le_largest (by decide)) hfinite hn hbound
    refine ⟨.double result, _, ?_, rfl, hresultFinite, hnumber⟩
    exact congrArg (Option.map TagValue.double) hresult
  | _ => cases hvalue

/-- The last message that is loaded is the one that was stored last. -/
theorem loadMessages_getLast (format : FloatFormat) (storage stored : StorageService)
    (message loaded : Message) (sqlite : Bool)
    (hstore : storage.storeMessage format message sqlite = (stored, true))
    (hload : loadRow format (messageRow format message) = some loaded) :
    (stored.loadMessages format 0 true).getLast?.map StoredMessage.message = some loaded := by
  obtain ⟨-, hopen, hrows⟩ := storeMessage_rows format storage stored message sqlite hstore
  rw [← List.getLast?_map, loadMessages_messages format stored hopen, hrows,
    List.filterMap_append, List.filterMap_cons_some hload, List.filterMap_nil,
    List.getLast?_concat]

/-- The number that a reader finds in the payload of an integer. -/
theorem payload_number (stof : Bytes → Option UInt32) (stod : Bytes → Option UInt64)
    (message : Message) {float : FloatValue} {n : Int}
    (hvalue : message.value.floatValue = some float) (hfinite : float.isFinite = true)
    (hn : float.number = n) :
    ∃ mantissa exponent, Json.read (messageToJson (streamFormat stof stod) message) =
        some (payloadJson message (.number mantissa exponent)) ∧
      (Json.rational mantissa exponent = n ↔ SixDigits n) := by
  obtain ⟨m, e, hscalar, hwritten⟩ := scalar_printfG hfinite
  rw [← tagValueToJson_floatValue stof stod hvalue] at hscalar
  refine ⟨m, e, (Json.read_iff _ _).mpr (denotes_messageToJson _ message _ hscalar), ?_⟩
  cases float with
  | nan negative => cases hfinite
  | infinite negative => cases hfinite
  | finite negative significand exponent =>
    obtain ⟨hmagnitude, hsign⟩ := magnitude_of_number hn
    rw [hwritten negative significand exponent rfl, hmagnitude]
    exact withSign_roundTo_iff hsign

/-- **Integers in floating-point values.** A message with a `float` or a `double` that holds
    an integer of at most `2 ^ 53`: the number in its payload is the integer, and agrees with
    what `loadMessages` returns of it after `storeMessage`, if and only if the integer has at
    most six significant digits. What `loadMessages` returns is the integer in any case. -/
theorem integer_payload_exact_iff (stof : Bytes → Option UInt32)
    (stod : Bytes → Option UInt64) (hread : ReadsCorrectly stof stod)
    (storage stored : StorageService) (message : Message) (float : FloatValue) (n : Int)
    (hvalue : message.value.floatValue = some float) (hfinite : float.isFinite = true)
    (hn : float.number = n) (hbound : |n| ≤ 2 ^ 53)
    (hstore : storage.storeMessage (streamFormat stof stod) message true = (stored, true)) :
    ∃ mantissa exponent loaded result,
      Json.read (messageToJson (streamFormat stof stod) message) =
        some (payloadJson message (.number mantissa exponent)) ∧
      (stored.loadMessages (streamFormat stof stod) 0 true).getLast?.map
        StoredMessage.message = some loaded ∧
      loaded.value.floatValue = some result ∧ result.isFinite = true ∧ result.number = n ∧
      (Json.rational mantissa exponent = n ∧ Json.rational mantissa exponent = result.number ↔
        SixDigits n) := by
  obtain ⟨mantissa, exponent, hpayload, hiff⟩ := payload_number stof stod message hvalue hfinite hn
  obtain ⟨value, result, hrecovered, hresult, hresultFinite, hnumber⟩ :=
    recovered_integer hread hvalue hfinite hn hbound
  have hload := loadRow_messageRow (streamFormat stof stod) message
  rw [hrecovered] at hload
  refine ⟨mantissa, exponent, _, result, hpayload,
    loadMessages_getLast _ storage stored message _ true hstore hload, hresult, hresultFinite,
    hnumber, ?_⟩
  rw [hnumber, and_self]
  exact hiff

/-- The `double` that is a million. -/
theorem double_million :
    (binary64.decode (0x412E848000000000 : UInt64).toNat).number = (1000000 : Int) := by
  have hdecode : binary64.decode (0x412E848000000000 : UInt64).toNat =
      .finite false 8589934592000000 (-33) := by decide
  rw [hdecode]
  norm_num [FloatValue.number, signed]

theorem integer_payload_exact_million :
    ∃ mantissa exponent loaded result,
      Json.read (messageToJson (streamFormat (binary32.nearestReader UInt32.toNat)
          (binary64.nearestReader UInt64.toNat))
          (storedMessage (.double 0x412E848000000000))) =
        some (payloadJson (storedMessage (.double 0x412E848000000000))
          (.number mantissa exponent)) ∧
      Json.rational mantissa exponent = (1000000 : Int) ∧
      TagValue.floatValue loaded = some result ∧ result.number = (1000000 : Int) := by
  obtain ⟨mantissa, exponent, loaded, result, hpayload, -, hresult, -, hnumber, hiff⟩ :=
    integer_payload_exact_iff (binary32.nearestReader UInt32.toNat)
      (binary64.nearestReader UInt64.toNat)
      ⟨binary32.nearestReader_correctlyRounded _, binary64.nearestReader_correctlyRounded _⟩
      newStorage _ (storedMessage (.double 0x412E848000000000)) _ 1000000 rfl (by decide)
      double_million (by norm_num) rfl
  exact ⟨mantissa, exponent, loaded.value, result, hpayload,
    (hiff.mpr ⟨1, 6, by norm_num, by norm_num⟩).1, hresult, hnumber⟩

/-- The integer 1234567 is published as 1234570. -/
theorem seven_digits_rounded :
    ¬ ∀ (message : Message) (float : FloatValue) (n : Int),
      message.value.floatValue = some float → float.isFinite = true → float.number = n →
      |n| ≤ 2 ^ 53 → ∃ mantissa exponent,
        Json.read (messageToJson (streamFormat (binary32.nearestReader UInt32.toNat)
            (binary64.nearestReader UInt64.toNat)) message) =
          some (payloadJson message (.number mantissa exponent)) ∧
        Json.rational mantissa exponent = n := by
  intro h
  have hdecode : binary64.decode (0x4132D68700000000 : UInt64).toNat =
      .finite false 5302424889720832 (-32) := by decide
  have hn : (binary64.decode (0x4132D68700000000 : UInt64).toNat).number =
      (1234567 : Int) := by
    rw [hdecode]
    norm_num [FloatValue.number, signed]
  have hfinite : (binary64.decode (0x4132D68700000000 : UInt64).toNat).isFinite = true := by
    decide
  obtain ⟨mantissa, exponent, hread, hvalue⟩ := h (storedMessage (.double 0x4132D68700000000))
    _ _ rfl hfinite hn (by norm_num)
  obtain ⟨mantissa', exponent', hread', hiff⟩ := payload_number _ _
    (storedMessage (.double 0x4132D68700000000)) rfl hfinite hn
  -- the payload has one number only
  rw [hread] at hread'
  obtain ⟨rfl, rfl⟩ : mantissa = mantissa' ∧ exponent = exponent' := by
    simpa [payloadJson] using hread'
  obtain ⟨m, k, hm, hmul⟩ := hiff.mp hvalue
  norm_num at hm
  cases k with
  | zero =>
    rw [pow_zero, mul_one] at hmul
    omega
  | succ k =>
    -- the last digit is not zero
    rw [pow_succ, ← mul_assoc] at hmul
    omega

end EdgeLink
