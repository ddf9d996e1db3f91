import EdgeLink.Native.StorageService

/-! # MQTT payload

The topic and the JSON text that `mqtt_service.cpp` makes of a message. Text is bytes:
`escapeJson` copies every byte above 0x1f other than the quote and the backslash. -/

namespace EdgeLink

open CText

/-- `qualityToString`. -/
def qualityToString : Quality → Bytes
  | .good => ascii "GOOD"
  | .stale => ascii "STALE"
  | .timeout => ascii "TIMEOUT"
  | .invalid => ascii "INVALID"
  | .disconnected => ascii "DISCONNECTED"

/-- A lower-case hexadecimal digit. -/
def hexDigit (d : Nat) : UInt8 := UInt8.ofNat (if d < 10 then 48 + d else 87 + d)

/-- The text of one character in `escapeJson`. -/
def escapeCharacter (character : UInt8) : Bytes :=
  if character = 0x22 then ascii "\\\""
  else if character = 0x5C then ascii "\\\\"
  else if character = 0x08 then ascii "\\b"
  else if character = 0x0C then ascii "\\f"
  else if character = 0x0A then ascii "\\n"
  else if character = 0x0D then ascii "\\r"
  else if character = 0x09 then ascii "\\t"
  else if character < 0x20 then
    -- `setw(4)` and `setfill('0')` for a value of at most two digits
    ascii "\\u00" ++ [hexDigit (character.toNat / 16), hexDigit (character.toNat % 16)]
  else [character]

/-- `escapeJson`. -/
def escapeJson (value : Bytes) : Bytes := value.flatMap escapeCharacter

/-- `tagValueToJson`. A stream that was not told otherwise writes floating-point values
    with precision 6. -/
def tagValueToJson (format : FloatFormat) : TagValue → Bytes
  | .monostate => ascii "null"
  | .bool value => if value then ascii "true" else ascii "false"
  | .int8 value => decimalInt value.toInt
  | .int16 value => decimalInt value.toInt
  | .int32 value => decimalInt value.toInt
  | .int64 value => decimalInt value.toInt
  | .uint8 value => decimal value.toNat
  | .uint16 value => decimal value.toNat
  | .uint32 value => decimal value.toNat
  | .uint64 value => decimal value.toNat
  | .float bits => format.writeFloat 6 bits
  | .double bits => format.writeDouble 6 bits
  | .string value => ascii "\"" ++ escapeJson value ++ ascii "\""

/-- `messageToJson`. -/
def messageToJson (format : FloatFormat) (message : Message) : Bytes :=
  ascii "\x7b\"deviceId\":\"" ++ escapeJson message.deviceId ++
  ascii "\",\"tagName\":\"" ++ escapeJson message.tagName ++
  ascii "\",\"value\":" ++ tagValueToJson format message.value ++
  ascii ",\"quality\":\"" ++ qualityToString message.quality ++
  ascii "\",\"timestampMs\":" ++
    decimalInt (timestampToMilliseconds message.timestamp).toInt ++
  ascii "\x7d"

/-- The topic that `forwardMessage` builds. -/
def forwardTopic (topicPrefix : Bytes) (message : Message) : Bytes :=
  topicPrefix ++ ascii "/" ++ message.deviceId ++ ascii "/tags/" ++ message.tagName

end EdgeLink
