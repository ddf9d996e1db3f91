import EdgeLink.ForStd.Pod
import EdgeLink.Native.Message

/-! # IPC message codec

The binary format of `ipc_message_codec.cpp`: a header of nine fixed-width fields
(36 bytes), then topic, device id, tag name and value, whose lengths the header
declares. Integers are copied in host byte order, which is little-endian on the
targets of the project.

Readers take the whole input and an offset, as in the source, and return the value
with the advanced offset, or `none` where the source returns `false`. -/

namespace EdgeLink.IpcMessageCodec

def MessageMagic : UInt32 := 0x454C4D53
def MessageVersion : UInt16 := 1

/-- `std::numeric_limits<std::uint32_t>::max()`. -/
def maxLength : Nat := 2 ^ 32 - 1

/-- Append the object representation of a value. -/
def appendPod {α : Type} [Pod α] (output : Bytes) (value : α) : Bytes :=
  output ++ Pod.bytes value

/-- Read a value of type `α` at `offset`, if that many bytes are left. -/
def readPod (α : Type) [Pod α] (input : Bytes) (offset : Nat) : Option (α × Nat) :=
  if offset > input.length ∨ input.length - offset < Pod.width α then none
  else some (Pod.ofBytes α ((input.drop offset).take (Pod.width α)), offset + Pod.width α)

/-- Read `length` bytes at `offset`, if that many are left. -/
def readString (input : Bytes) (offset : Nat) (length : UInt32) : Option (Bytes × Nat) :=
  if offset > input.length ∨ input.length - offset < length.toNat then none
  else some ((input.drop offset).take length.toNat, offset + length.toNat)

/-- The value section. The source's `default: return false` is unreachable: every
    alternative has a case. -/
def encodeValue : TagValue → Bytes
  | .monostate => []
  | .bool value => appendPod [] (if value then (1 : UInt8) else 0)
  | .int8 value => appendPod [] value
  | .int16 value => appendPod [] value
  | .int32 value => appendPod [] value
  | .int64 value => appendPod [] value
  | .uint8 value => appendPod [] value
  | .uint16 value => appendPod [] value
  | .uint32 value => appendPod [] value
  | .uint64 value => appendPod [] value
  | .float bits => appendPod [] bits
  | .double bits => appendPod [] bits
  | .string value => value

/-- Decode a number that must fill the value section exactly. -/
def decodeNumericValue {α : Type} [Pod α] (alternative : α → TagValue) (input : Bytes) :
    Option TagValue :=
  if input.length ≠ Pod.width α then none
  else some (alternative (Pod.ofBytes α input))

/-- Decode the value section according to the type index of the header. -/
def decodeValue (typeIndex : UInt16) (input : Bytes) : Option TagValue :=
  match typeIndex.toNat with
  -- no value, so nothing may follow the strings
  | 0 => if input ≠ [] then none else some .monostate
  -- a boolean byte is 0 or 1 and nothing else
  | 1 => if input.length ≠ 1 ∨ input.headD 0 > 1 then none else some (.bool (input.headD 0 != 0))
  | 2 => decodeNumericValue .int8 input
  | 3 => decodeNumericValue .int16 input
  | 4 => decodeNumericValue .int32 input
  | 5 => decodeNumericValue .int64 input
  | 6 => decodeNumericValue .uint8 input
  | 7 => decodeNumericValue .uint16 input
  | 8 => decodeNumericValue .uint32 input
  | 9 => decodeNumericValue .uint64 input
  | 10 => decodeNumericValue .float input
  | 11 => decodeNumericValue .double input
  | 12 => some (.string input)
  | _ => none

/-- The fixed-width fields in front of the variable-length sections. -/
structure Header where
  magic : UInt32
  version : UInt16
  typeIndex : UInt16
  quality : UInt32
  timestampNanoseconds : Int64
  topicLength : UInt32
  deviceIdLength : UInt32
  tagNameLength : UInt32
  valueLength : UInt32

/-- Append the nine header fields in the order of the format. -/
def appendHeader (output : Bytes) (header : Header) : Bytes :=
  let output := appendPod output header.magic
  let output := appendPod output header.version
  let output := appendPod output header.typeIndex
  let output := appendPod output header.quality
  let output := appendPod output header.timestampNanoseconds
  let output := appendPod output header.topicLength
  let output := appendPod output header.deviceIdLength
  let output := appendPod output header.tagNameLength
  appendPod output header.valueLength

/-- The chain of nine `readPod` calls at the start of `decode`. -/
def readHeader (input : Bytes) : Option (Header × Nat) := do
  let (magic, offset) ← readPod UInt32 input 0
  let (version, offset) ← readPod UInt16 input offset
  let (typeIndex, offset) ← readPod UInt16 input offset
  let (quality, offset) ← readPod UInt32 input offset
  let (timestampNanoseconds, offset) ← readPod Int64 input offset
  let (topicLength, offset) ← readPod UInt32 input offset
  let (deviceIdLength, offset) ← readPod UInt32 input offset
  let (tagNameLength, offset) ← readPod UInt32 input offset
  let (valueLength, offset) ← readPod UInt32 input offset
  return ({ magic, version, typeIndex, quality, timestampNanoseconds,
            topicLength, deviceIdLength, tagNameLength, valueLength }, offset)

/-- The header that `encode` writes for a message whose value is encoded as
    `encodedValue`. -/
def headerOf (message : Message) (encodedValue : Bytes) : Header where
  magic := MessageMagic
  version := MessageVersion
  typeIndex := UInt16.ofNat message.value.index
  quality := UInt32.ofNat message.quality.code
  timestampNanoseconds := message.timestamp
  topicLength := UInt32.ofNat message.topic.length
  deviceIdLength := UInt32.ofNat message.deviceId.length
  tagNameLength := UInt32.ofNat message.tagName.length
  valueLength := UInt32.ofNat encodedValue.length

/-- `IpcMessageCodec::encode`: the encoded bytes, or `none` where the source
    returns `false`. -/
def encode (message : Message) : Option Bytes :=
  if message.topic.isEmpty ∨ message.topic.length > maxLength ∨
      message.deviceId.length > maxLength ∨ message.tagName.length > maxLength ∨
      message.quality.code > Quality.disconnected.code then none
  else
    let encodedValue := encodeValue message.value
    -- the length of a string value has to fit as well
    if encodedValue.length > maxLength then none
    else
      let output := appendHeader [] (headerOf message encodedValue)
      let output := output ++ message.topic
      let output := output ++ message.deviceId
      let output := output ++ message.tagName
      some (output ++ encodedValue)

/-- `IpcMessageCodec::decode`: the result flag and the message after the call. The
    three strings are written as soon as they are read, so a rejected input can leave
    the message partly overwritten. -/
def decode (input : Bytes) (message : Message) : Bool × Message :=
  match readHeader input with
  | none => (false, message)
  | some (header, offset) =>
    if header.magic ≠ MessageMagic ∨ header.version ≠ MessageVersion ∨
        header.quality.toNat > Quality.disconnected.code then (false, message)
    else match readString input offset header.topicLength with
    | none => (false, message)
    | some (topic, offset) =>
      let message := { message with topic }
      match readString input offset header.deviceIdLength with
      | none => (false, message)
      | some (deviceId, offset) =>
        let message := { message with deviceId }
        match readString input offset header.tagNameLength with
        | none => (false, message)
        | some (tagName, offset) =>
          let message := { message with tagName }
          -- the value fills the rest of the input, no more and no less
          if message.topic.isEmpty ∨ offset > input.length ∨
              input.length - offset ≠ header.valueLength.toNat then (false, message)
          else match decodeValue header.typeIndex (input.drop offset) with
          | none => (false, message)
          | some value =>
            (true, { message with
              value
              quality := Quality.ofCode header.quality.toNat
              timestamp := header.timestampNanoseconds })

end EdgeLink.IpcMessageCodec
