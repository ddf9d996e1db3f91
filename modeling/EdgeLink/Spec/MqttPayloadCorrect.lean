import EdgeLink.ForStd.Json
import EdgeLink.Native.MqttPayload
import EdgeLink.Spec.StorageServiceCorrect

/-!
# The JSON payload

`messageToJson` writes one JSON object whatever bytes the names and the value hold, and a
JSON reader gets the fields of the message back.

## Key results

- `denotes_messageToJson`: the object of a payload, where the text of its value is one of
  the grammar
- `payload_read_back`: the fields are read back, for a value that is not floating point
-/

namespace EdgeLink

open CText

/-! ## Strings -/

theorem isHexDigit_hexDigit (d : Nat) (h : d < 16) : Json.isHexDigit (hexDigit d) = true := by
  revert d
  decide

theorem hexDigitValue_hexDigit (d : Nat) (h : d < 16) :
    Json.hexDigitValue (hexDigit d) = d := by
  revert d
  decide

/-- Each of the texts of `escapeJson` is one character of a JSON string. -/
theorem character_escapeCharacter (character : UInt8) :
    Json.Character (escapeCharacter character) [character] := by
  unfold escapeCharacter
  split
  · rename_i hc
    exact .escaped _ _ (by rw [hc]; decide)
  rename_i hquote
  split
  · rename_i hc
    exact .escaped _ _ (by rw [hc]; decide)
  rename_i hbackslash
  split
  · rename_i hc
    exact .escaped _ _ (by rw [hc]; decide)
  split
  · rename_i hc
    exact .escaped _ _ (by rw [hc]; decide)
  split
  · rename_i hc
    exact .escaped _ _ (by rw [hc]; decide)
  split
  · rename_i hc
    exact .escaped _ _ (by rw [hc]; decide)
  split
  · rename_i hc
    exact .escaped _ _ (by rw [hc]; decide)
  split
  · -- a control character, in hexadecimal digits
    rename_i hlt
    have hlt' : character.toNat < 32 := UInt8.lt_iff_toNat_lt.mp hlt
    have hdigits : ∀ c ∈ [0x30, 0x30, hexDigit (character.toNat / 16),
        hexDigit (character.toNat % 16)], Json.isHexDigit c = true := by
      intro c hc
      simp only [List.mem_cons, List.not_mem_nil, or_false] at hc
      rcases hc with rfl | rfl | rfl | rfl
      · decide
      · decide
      · exact isHexDigit_hexDigit _ (by omega)
      · exact isHexDigit_hexDigit _ (by omega)
    have hvalue : Json.hexValue [0x30, 0x30, hexDigit (character.toNat / 16),
        hexDigit (character.toNat % 16)] = character.toNat := by
      have hzero : Json.hexDigitValue 0x30 = 0 := by decide
      simp only [Json.hexValue, List.foldl_cons, List.foldl_nil, hzero,
        hexDigitValue_hexDigit _ (show character.toNat / 16 < 16 by omega),
        hexDigitValue_hexDigit _ (show character.toNat % 16 < 16 by omega)]
      omega
    -- the code unit is below 0x80, so it is one byte
    have hutf8 : Json.utf8 (Json.hexValue [0x30, 0x30, hexDigit (character.toNat / 16),
        hexDigit (character.toNat % 16)]) = [character] := by
      rw [hvalue, Json.utf8, if_pos (by omega), UInt8.ofNat_toNat]
    have hunicode := Json.Character.unicode _ rfl hdigits
    rw [hutf8] at hunicode
    exact hunicode
  · rename_i hcontrol
    exact .unescaped _ hcontrol hquote hbackslash

/-- Reading undoes `escapeJson`. -/
theorem characters_escapeJson (value : Bytes) :
    Json.Characters (escapeJson value) value := by
  induction value with
  | nil => exact .nil
  | cons character value ih =>
    rw [escapeJson, List.flatMap_cons]
    exact .cons (character_escapeCharacter character) ih

/-! ## The object -/

/-- The object of a payload. -/
def payloadJson (message : Message) (value : Json) : Json :=
  .object [(ascii "deviceId", .string message.deviceId),
    (ascii "tagName", .string message.tagName),
    (ascii "value", value),
    (ascii "quality", .string (qualityToString message.quality)),
    (ascii "timestampMs", .number (timestampToMilliseconds message.timestamp).toInt 0)]

/-- The payload denotes its object, where the text of the value is one of the grammar. -/
theorem denotes_messageToJson (format : FloatFormat) (message : Message) (value : Json)
    (hvalue : Json.Scalar value (tagValueToJson format message.value)) :
    Json.Denotes (messageToJson format message) (payloadJson message value) := by
  have hmember : ∀ name text json, name.all Json.isPlain = true → Json.Scalar json text →
      Json.Member (Json.Value 1) (name, json) (0x22 :: (name ++ 0x22 :: 0x3A :: text)) :=
    fun name text json hname hscalar => .tight hname (.inl hscalar)
  have hquality : (qualityToString message.quality).all Json.isPlain = true := by
    cases message.quality <;> decide
  have hdevice := hmember (ascii "deviceId") _ _ (by decide)
    (.string (characters_escapeJson message.deviceId))
  have htag := hmember (ascii "tagName") _ _ (by decide)
    (.string (characters_escapeJson message.tagName))
  have hvalue := hmember (ascii "value") _ _ (by decide) hvalue
  have hquality := hmember (ascii "quality") _ _ (by decide)
    (.string (Json.characters_of_plain hquality))
  have htimestamp := hmember (ascii "timestampMs") _ _ (by decide)
    (.number (Json.numberText_decimalInt (timestampToMilliseconds message.timestamp).toInt))
  have hobject := Json.denotes_object
    (.comma hdevice (.comma htag (.comma hvalue (.comma hquality (.last htimestamp)))))
  refine (congrArg (Json.Denotes · _) ?_).mpr hobject
  -- the two texts are split in different places
  simp only [messageToJson, List.append_assoc, List.cons_append, List.nil_append]
  rfl

/-! ## Values -/

/-- What a value is in JSON, where it is not floating point. -/
def TagValue.json : TagValue → Option Json
  | .monostate => some .null
  | .bool value => some (.bool value)
  | .int8 value => some (.number value.toInt 0)
  | .int16 value => some (.number value.toInt 0)
  | .int32 value => some (.number value.toInt 0)
  | .int64 value => some (.number value.toInt 0)
  | .uint8 value => some (.number value.toNat 0)
  | .uint16 value => some (.number value.toNat 0)
  | .uint32 value => some (.number value.toNat 0)
  | .uint64 value => some (.number value.toNat 0)
  | .float _ => none
  | .double _ => none
  | .string value => some (.string value)

theorem scalar_decimalInt (i : Int) : Json.Scalar (.number i 0) (decimalInt i) :=
  .number (Json.numberText_decimalInt i)

/-- A natural number is written like the integer. -/
theorem scalar_decimal (n : Nat) : Json.Scalar (.number n 0) (decimal n) := by
  have hscalar := scalar_decimalInt n
  rwa [decimalInt, if_neg (by omega), Int.natAbs_natCast] at hscalar

/-- The text of a value denotes it. -/
theorem scalar_tagValueToJson (format : FloatFormat) (value : TagValue)
    (hvalue : value.isFloating = false) :
    ∃ json, value.json = some json ∧ Json.Scalar json (tagValueToJson format value) := by
  cases value with
  | monostate => exact ⟨_, rfl, .nullLiteral⟩
  | bool value =>
    cases value with
    | false => exact ⟨_, rfl, .falseLiteral⟩
    | true => exact ⟨_, rfl, .trueLiteral⟩
  | float bits => cases hvalue
  | double bits => cases hvalue
  | string value =>
    refine ⟨_, rfl, ?_⟩
    have hstring := Json.Scalar.string (characters_escapeJson value)
    simp only [tagValueToJson, List.append_assoc]
    exact hstring
  | uint8 value => exact ⟨_, rfl, scalar_decimal _⟩
  | uint16 value => exact ⟨_, rfl, scalar_decimal _⟩
  | uint32 value => exact ⟨_, rfl, scalar_decimal _⟩
  | uint64 value => exact ⟨_, rfl, scalar_decimal _⟩
  | int8 value => exact ⟨_, rfl, scalar_decimalInt _⟩
  | int16 value => exact ⟨_, rfl, scalar_decimalInt _⟩
  | int32 value => exact ⟨_, rfl, scalar_decimalInt _⟩
  | int64 value => exact ⟨_, rfl, scalar_decimalInt _⟩

/-- **The payload is read back.** For any bytes in the names and in a string value: where
    the value is not floating point, the payload is a JSON text, and a reader gets an object
    of exactly these five members, with the names, the value, the name of the quality and the
    milliseconds of the message. -/
theorem payload_read_back (format : FloatFormat) (message : Message)
    (hvalue : message.value.isFloating = false) :
    ∃ value, message.value.json = some value ∧
      Json.Denotes (messageToJson format message) (payloadJson message value) ∧
      Json.read (messageToJson format message) = some (.object [
        (ascii "deviceId", .string message.deviceId),
        (ascii "tagName", .string message.tagName),
        (ascii "value", value),
        (ascii "quality", .string (qualityToString message.quality)),
        (ascii "timestampMs",
          .number (timestampToMilliseconds message.timestamp).toInt 0)]) := by
  obtain ⟨value, hjson, hscalar⟩ := scalar_tagValueToJson format message.value hvalue
  have hdenotes := denotes_messageToJson format message value hscalar
  exact ⟨value, hjson, hdenotes, (Json.read_iff _ _).mpr hdenotes⟩

/-- A message whose texts try to end their strings, with a NUL, a control character and a
    byte above `0x7F`. -/
def hostileMessage : Message where
  topic := []
  deviceId := ascii "d\",\"value\":1" ++ [0]
  tagName := [0x5C, 0x22, 0x1F, 0xFF]
  value := .string (ascii "\"\x7d\\")
  quality := .stale
  timestamp := -1500000

theorem payload_read_back_hostile :
    Json.read (messageToJson oneFormat hostileMessage) = some (.object [
      (ascii "deviceId", .string (ascii "d\",\"value\":1" ++ [0])),
      (ascii "tagName", .string [0x5C, 0x22, 0x1F, 0xFF]),
      (ascii "value", .string (ascii "\"\x7d\\")),
      (ascii "quality", .string (ascii "STALE")),
      (ascii "timestampMs", .number (-1) 0)]) := by
  obtain ⟨value, hjson, -, hread⟩ := payload_read_back oneFormat hostileMessage rfl
  obtain rfl := Option.some.inj hjson
  exact hread

end EdgeLink
