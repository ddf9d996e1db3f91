import EdgeLink.ForStd.AutoincrementTable
import EdgeLink.ForStd.CText
import EdgeLink.Native.Message

/-! # Storage service

The SQLite tables of `storage_service.cpp`: `tag_messages`, the history of all messages,
and `mqtt_outbox`, the MQTT messages that still have to be sent.

Text is bound with length -1, so a column gets the bytes before the first NUL; it is read
through a `const char*` again. Every function that runs a statement takes a flag that
says whether SQLite prepares and runs it; a statement that fails changes nothing.
A row id is a `Nat` below `2^63`. -/

namespace EdgeLink

open CText

/-- How the C++ library writes and reads floating-point numbers. The writers are
    `operator<<` after `std::setprecision`; `stof` and `stod` are `none` where they
    throw. -/
structure FloatFormat where
  writeFloat : Nat → UInt32 → Bytes
  writeDouble : Nat → UInt64 → Bytes
  stof : Bytes → Option UInt32
  stod : Bytes → Option UInt64

/-! ## Values as text -/

structure SerializedValue where
  type : Nat
  text : Bytes
deriving DecidableEq

/-- The text of `serializeTagValue`. The precision of a floating-point value is
    `max_digits10` of its type. -/
def serializedText (format : FloatFormat) : TagValue → Bytes
  | .monostate => []
  | .bool value => if value then ascii "1" else ascii "0"
  | .int8 value => decimalInt value.toInt
  | .int16 value => decimalInt value.toInt
  | .int32 value => decimalInt value.toInt
  | .int64 value => decimalInt value.toInt
  | .uint8 value => decimal value.toNat
  | .uint16 value => decimal value.toNat
  | .uint32 value => decimal value.toNat
  | .uint64 value => decimal value.toNat
  | .float bits => format.writeFloat 9 bits
  | .double bits => format.writeDouble 17 bits
  | .string value => value

def serializeTagValue (format : FloatFormat) (value : TagValue) : SerializedValue where
  type := value.index
  text := serializedText format value

/-- `none` where the source returns false; the output parameter is not used then. -/
def deserializeTagValue (format : FloatFormat) (type : Int32) (text : Bytes) :
    Option TagValue :=
  match type.toInt with
  -- the text of an empty value is not looked at
  | 0 => some .monostate
  | 1 => if text = ascii "0" ∨ text = ascii "1" then some (.bool (text = ascii "1")) else none
  -- `static_cast` after `stoi` and `stoul` cuts what does not fit
  | 2 => (stoi text).map fun value => .int8 (Int8.ofInt value)
  | 3 => (stoi text).map fun value => .int16 (Int16.ofInt value)
  | 4 => (stol text).map fun value => .int32 (Int32.ofInt value)
  | 5 => (stoll text).map fun value => .int64 (Int64.ofInt value)
  | 6 => (stoul text).map fun value => .uint8 (UInt8.ofNat value)
  | 7 => (stoul text).map fun value => .uint16 (UInt16.ofNat value)
  | 8 => (stoul text).map fun value => .uint32 (UInt32.ofNat value)
  | 9 => (stoull text).map fun value => .uint64 (UInt64.ofNat value)
  | 10 => (format.stof text).map .float
  | 11 => (format.stod text).map .double
  | 12 => some (.string text)
  | _ => none

/-- `duration_cast` to milliseconds rounds toward zero. -/
def timestampToMilliseconds (timestamp : Int64) : Int64 := timestamp / 1000000

def millisecondsToTimestamp (milliseconds : Int64) : Int64 := milliseconds * 1000000

/-! ## Tables -/

/-- A row of `tag_messages`. An `INTEGER` column holds 64 bits. -/
structure TagMessageRow where
  topic : Bytes
  deviceId : Bytes
  tagName : Bytes
  valueType : Int64
  valueText : Bytes
  quality : Int64
  timestampMs : Int64
deriving DecidableEq

/-- A row of `mqtt_outbox`. -/
structure OutboxRow where
  topic : Bytes
  payload : Bytes
  retain : Bool
  createdAtMs : Int64
deriving DecidableEq

/-- `sqlite3_bind_text` with length -1. -/
def bindText (text : Bytes) : Bytes := cString text

/-- `sqlite3_column_text`, read up to the first NUL. -/
def readTextColumn (text : Bytes) : Bytes := cString text

/-- `sqlite3_column_int`: the low 32 bits. -/
def columnInt (value : Int64) : Int32 := value.toInt32

def isValidQuality (qualityValue : Int32) : Bool :=
  Quality.good.code ≤ qualityValue.toInt && qualityValue.toInt ≤ Quality.disconnected.code

/-- The rows that a query with `limit` returns: all where it is 0, or where its cast to a
    signed integer is negative. -/
def limitOf (limit : Nat) : Option Nat :=
  if limit = 0 ∨ 2 ^ 63 ≤ limit then none else some limit

structure StoredMessage where
  id : Nat
  message : Message

structure PendingMqttMessage where
  id : Nat
  topic : Bytes
  payload : Bytes
  retain : Bool
  createdAtMs : Int64
deriving DecidableEq

/-- The database file, and whether `database_` is open. -/
structure StorageService where
  database : Bool
  tagMessages : AutoincrementTable TagMessageRow
  mqttOutbox : AutoincrementTable OutboxRow

namespace StorageService

/-- `StorageService::isOpen`. -/
def isOpen (storage : StorageService) : Bool := storage.database

/-- `StorageService::close`. The tables stay in the file. -/
def close (storage : StorageService) : StorageService := { storage with database := false }

/-! ## Tag messages -/

/-- The row that `storeMessage` inserts. -/
def messageRow (format : FloatFormat) (message : Message) : TagMessageRow :=
  let serializedValue := serializeTagValue format message.value
  { topic := bindText message.topic
    deviceId := bindText message.deviceId
    tagName := bindText message.tagName
    valueType := Int64.ofNat serializedValue.type
    valueText := bindText serializedValue.text
    quality := Int64.ofNat message.quality.code
    timestampMs := timestampToMilliseconds message.timestamp }

/-- `StorageService::storeMessage`. -/
def storeMessage (format : FloatFormat) (storage : StorageService) (message : Message)
    (sqlite : Bool) : StorageService × Bool :=
  if !storage.database then (storage, false)
  else if !sqlite then (storage, false)
  else match storage.tagMessages.insert (messageRow format message) with
  -- no row id is left
  | none => (storage, false)
  | some tagMessages => ({ storage with tagMessages }, true)

/-- The message of a row; `none` where `loadMessages` skips the row. -/
def loadRow (format : FloatFormat) (row : TagMessageRow) : Option Message :=
  let qualityValue := columnInt row.quality
  -- a row that cannot be read is logged and skipped
  if !isValidQuality qualityValue then none
  else match deserializeTagValue format (columnInt row.valueType)
      (readTextColumn row.valueText) with
  | none => none
  | some value =>
    some {
      topic := readTextColumn row.topic
      deviceId := readTextColumn row.deviceId
      tagName := readTextColumn row.tagName
      value
      quality := Quality.ofCode qualityValue.toInt.toNat
      timestamp := millisecondsToTimestamp row.timestampMs }

/-- `StorageService::loadMessages`. -/
def loadMessages (format : FloatFormat) (storage : StorageService) (limit : Nat)
    (sqlite : Bool) : List StoredMessage :=
  if !storage.database then []
  else if !sqlite then []
  else (storage.tagMessages.select (limitOf limit)).filterMap fun row =>
    (loadRow format row.2).map fun message => { id := row.1, message }

/-- `StorageService::messageCount`. -/
def messageCount (storage : StorageService) (sqlite : Bool) : Nat :=
  if !storage.database then 0
  else if !sqlite then 0
  else storage.tagMessages.rows.length

/-! ## The MQTT outbox -/

/-- The row that `enqueueMqttMessage` inserts at the time `now`. -/
def outboxRow (topic payload : Bytes) (retain : Bool) (now : Int64) : OutboxRow where
  topic := bindText topic
  payload := bindText payload
  retain := retain
  createdAtMs := timestampToMilliseconds now

/-- `StorageService::enqueueMqttMessage`. -/
def enqueueMqttMessage (storage : StorageService) (topic payload : Bytes) (retain : Bool)
    (now : Int64) (sqlite : Bool) : StorageService × Bool :=
  if !storage.database || topic.isEmpty then (storage, false)
  else if !sqlite then (storage, false)
  else match storage.mqttOutbox.insert (outboxRow topic payload retain now) with
  | none => (storage, false)
  | some mqttOutbox => ({ storage with mqttOutbox }, true)

/-- What is read of an outbox row. -/
def pendingMessage (row : Nat × OutboxRow) : PendingMqttMessage where
  id := row.1
  topic := readTextColumn row.2.topic
  payload := readTextColumn row.2.payload
  retain := row.2.retain
  createdAtMs := row.2.createdAtMs

/-- What a row that was enqueued under an id holds: the texts of the call, each up to its
    first NUL. -/
def enqueuedMessage (id : Nat) (topic payload : Bytes) (retain : Bool) (now : Int64) :
    PendingMqttMessage where
  id := id
  topic := cString topic
  payload := cString payload
  retain := retain
  createdAtMs := timestampToMilliseconds now

/-- `StorageService::loadPendingMqttMessages`. -/
def loadPendingMqttMessages (storage : StorageService) (limit : Nat) (sqlite : Bool) :
    List PendingMqttMessage :=
  if !storage.database then []
  else if !sqlite then []
  else (storage.mqttOutbox.select (limitOf limit)).map pendingMessage

/-- `StorageService::removePendingMqttMessage`. -/
def removePendingMqttMessage (storage : StorageService) (messageId : Int) (sqlite : Bool) :
    StorageService × Bool :=
  if !storage.database || messageId ≤ 0 then (storage, false)
  else if !sqlite then (storage, false)
  else
    -- `sqlite3_changes` tells whether there was such a row
    ({ storage with mqttOutbox := storage.mqttOutbox.delete messageId.toNat },
      storage.mqttOutbox.changes messageId.toNat = 1)

/-- `StorageService::pendingMqttMessageCount`. -/
def pendingMqttMessageCount (storage : StorageService) (sqlite : Bool) : Nat :=
  if !storage.database then 0
  else if !sqlite then 0
  else storage.mqttOutbox.rows.length

end StorageService

end EdgeLink
