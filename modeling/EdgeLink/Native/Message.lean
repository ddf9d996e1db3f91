import Mathlib.Tactic.IntervalCases

/-! # Tags and messages

The data model of `device.h` and `message_bus.h`: `TagValue`, `Quality` and the
`Message` that travels between the modules of the gateway.

A `std::string` is the list of its bytes, NUL included. `float` and `double` are
their bit patterns, so that no value is identified with another one (`NaN`, `-0`).
A `system_clock::time_point` is its count of nanoseconds since the epoch. -/

namespace EdgeLink

/-- `std::string` and `std::vector<std::uint8_t>`: any bytes. -/
abbrev Bytes := List UInt8

/-- The bytes of an ASCII literal of the source. -/
def ascii (literal : String) : Bytes :=
  literal.toList.map fun character => UInt8.ofNat character.toNat

/-- The data quality of a tag. -/
inductive Quality where
  | good
  | stale
  | timeout
  | invalid
  | disconnected
deriving DecidableEq, Repr

namespace Quality

/-- The enumerator's number: `static_cast<int>(quality)`. -/
def code : Quality → Nat
  | good => 0
  | stale => 1
  | timeout => 2
  | invalid => 3
  | disconnected => 4

/-- `static_cast<Quality>(number)`. Every caller checks the range first, so the
    numbers past `disconnected` never get here. -/
def ofCode : Nat → Quality
  | 0 => good
  | 1 => stale
  | 2 => timeout
  | 3 => invalid
  | _ => disconnected

@[simp] theorem ofCode_code (quality : Quality) : ofCode quality.code = quality := by
  cases quality <;> rfl

theorem code_le (quality : Quality) : quality.code ≤ disconnected.code := by
  cases quality <;> decide

theorem code_ofCode (n : Nat) (h : n ≤ disconnected.code) : (ofCode n).code = n := by
  simp only [code] at h
  interval_cases n <;> rfl

end Quality

/-- The unified tag value: a `std::variant` of thirteen alternatives. -/
inductive TagValue where
  | monostate
  | bool (value : Bool)
  | int8 (value : Int8)
  | int16 (value : Int16)
  | int32 (value : Int32)
  | int64 (value : Int64)
  | uint8 (value : UInt8)
  | uint16 (value : UInt16)
  | uint32 (value : UInt32)
  | uint64 (value : UInt64)
  | float (bits : UInt32)
  | double (bits : UInt64)
  | string (value : Bytes)
deriving DecidableEq, Repr

/-- `std::variant::index`. -/
def TagValue.index : TagValue → Nat
  | monostate => 0
  | bool _ => 1
  | int8 _ => 2
  | int16 _ => 3
  | int32 _ => 4
  | int64 _ => 5
  | uint8 _ => 6
  | uint16 _ => 7
  | uint32 _ => 8
  | uint64 _ => 9
  | float _ => 10
  | double _ => 11
  | string _ => 12

/-- One update of a device tag, routed by `topic`. -/
structure Message where
  topic : Bytes
  deviceId : Bytes
  tagName : Bytes
  value : TagValue
  quality : Quality
  timestamp : Int64
deriving DecidableEq, Repr

/-- A default-constructed `Message`. -/
def Message.empty : Message where
  topic := []
  deviceId := []
  tagName := []
  value := .monostate
  quality := .invalid
  timestamp := 0

end EdgeLink
