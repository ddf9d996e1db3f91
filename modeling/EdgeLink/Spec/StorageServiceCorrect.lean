import Mathlib.Data.List.Forall2
import EdgeLink.Native.StorageService

/-!
# Storage correctness

What comes back from SQLite of the messages that were stored.

A value comes back from its text (`deserialize_serialize`), and a row is loaded into the
message it was made from, as far as C strings show it (`loadRow_messageRow`). Text columns
are bound up to the first NUL, so a message comes back exactly when its texts have none
and its floating-point value, if any, can be read back from its text (`Recoverable`).

## Key results

- `storage_round_trip_iff`: the messages of any sequence of stores come back, in order,
  exactly when all of them are recoverable
- `stored_string_cut`: a string value with a NUL comes back short
- `limited_load_iff`: when a query with a limit returns the first messages of one without
- `enqueue_outbox`, `load_outbox`, `remove_outbox`: the outbox is a queue
-/

namespace EdgeLink

open CText StorageService

/-! ## Values -/

/-- Whether a value is floating point. -/
def TagValue.isFloating : TagValue → Bool
  | .float _ | .double _ => true
  | _ => false

/-- Whether the text of a floating-point value can be read at all. -/
def TagValue.Readable (format : FloatFormat) : TagValue → Prop
  | .float bits => (format.stof (cString (format.writeFloat 9 bits))).isSome
  | .double bits => (format.stod (cString (format.writeDouble 17 bits))).isSome
  | _ => True

/-- The value that comes back of a value whose text is cut at its first NUL: a string is
    cut, a floating-point value is what its text reads as, any other is itself. -/
def TagValue.recovered (format : FloatFormat) : TagValue → Option TagValue
  | .float bits => (format.stof (cString (format.writeFloat 9 bits))).map .float
  | .double bits => (format.stod (cString (format.writeDouble 17 bits))).map .double
  | .string value => some (.string (cString value))
  | value => some value

/-- The type column survives its conversion to `int`. -/
theorem columnInt_index (value : TagValue) :
    (columnInt (Int64.ofNat value.index)).toInt = value.index := by
  cases value <;> rfl

/-- The quality column does too, and passes its check. -/
theorem columnInt_code (quality : Quality) :
    (columnInt (Int64.ofNat quality.code)).toInt = quality.code ∧
      isValidQuality (columnInt (Int64.ofNat quality.code)) = true := by
  cases quality <;> exact ⟨rfl, rfl⟩

private theorem cString_decimalInt (i : Int) : cString (decimalInt i) = decimalInt i :=
  (cString_eq_self_iff _).mpr (zero_not_mem_decimalInt i)

private theorem cString_decimal (n : Nat) : cString (decimal n) = decimal n :=
  (cString_eq_self_iff _).mpr (zero_not_mem_decimal n)

/-- What `deserializeTagValue` makes of the stored type and text of a value. -/
theorem deserialize_serialize (format : FloatFormat) (value : TagValue) :
    deserializeTagValue format (columnInt (Int64.ofNat (serializeTagValue format value).type))
      (cString (serializeTagValue format value).text) = value.recovered format := by
  simp only [serializeTagValue, deserializeTagValue, columnInt_index]
  -- an integer of each width is in the range of the function that reads it
  cases value with
  | monostate => rfl
  | bool value => cases value <;> rfl
  | int8 value =>
    have hmin := value.le_toInt
    have hmax := value.toInt_lt
    simp only [TagValue.index, serializedText, cString_decimalInt, Nat.cast_ofNat,
      stoi_decimalInt value.toInt (by omega) (by omega), Option.map_some, Int8.ofInt_toInt,
      TagValue.recovered]
  | int16 value =>
    have hmin := value.le_toInt
    have hmax := value.toInt_lt
    simp only [TagValue.index, serializedText, cString_decimalInt, Nat.cast_ofNat,
      stoi_decimalInt value.toInt (by omega) (by omega), Option.map_some, Int16.ofInt_toInt,
      TagValue.recovered]
  | int32 value =>
    have hmin := value.le_toInt
    have hmax := value.toInt_lt
    simp only [TagValue.index, serializedText, cString_decimalInt, Nat.cast_ofNat, stol,
      stoll_decimalInt value.toInt (by omega) (by omega), Option.map_some, Int32.ofInt_toInt,
      TagValue.recovered]
  | int64 value =>
    have hmin := value.le_toInt
    have hmax := value.toInt_lt
    simp only [TagValue.index, serializedText, cString_decimalInt, Nat.cast_ofNat,
      stoll_decimalInt value.toInt (by omega) (by omega), Option.map_some, Int64.ofInt_toInt,
      TagValue.recovered]
  | uint8 value =>
    have hmax := value.toNat_lt
    simp only [TagValue.index, serializedText, cString_decimal, Nat.cast_ofNat, stoul,
      stoull_decimal value.toNat (by omega), Option.map_some, UInt8.ofNat_toNat,
      TagValue.recovered]
  | uint16 value =>
    have hmax := value.toNat_lt
    simp only [TagValue.index, serializedText, cString_decimal, Nat.cast_ofNat, stoul,
      stoull_decimal value.toNat (by omega), Option.map_some, UInt16.ofNat_toNat,
      TagValue.recovered]
  | uint32 value =>
    have hmax := value.toNat_lt
    simp only [TagValue.index, serializedText, cString_decimal, Nat.cast_ofNat, stoul,
      stoull_decimal value.toNat (by omega), Option.map_some, UInt32.ofNat_toNat,
      TagValue.recovered]
  | uint64 value =>
    have hmax := value.toNat_lt
    simp only [TagValue.index, serializedText, cString_decimal, Nat.cast_ofNat,
      stoull_decimal value.toNat (by omega), Option.map_some, UInt64.ofNat_toNat,
      TagValue.recovered]
  | float bits => rfl
  | double bits => rfl
  | string value => rfl

/-! ## Rows -/

/-- A timestamp that went through milliseconds is truncated toward zero. -/
theorem timestamp_truncated (timestamp : Int64) :
    (millisecondsToTimestamp (timestampToMilliseconds timestamp)).toInt =
      timestamp.toInt.tdiv 1000000 * 1000000 := by
  have hmin := timestamp.le_toInt
  have hmax := timestamp.toInt_lt
  have hdiv : (timestampToMilliseconds timestamp).toInt = timestamp.toInt.tdiv 1000000 :=
    Int64.toInt_div_of_ne_right timestamp 1000000 (by decide)
  -- truncation moves toward zero, so the conversion back cannot wrap
  have hbound : -2 ^ 63 ≤ timestamp.toInt.tdiv 1000000 * 1000000 ∧
      timestamp.toInt.tdiv 1000000 * 1000000 < 2 ^ 63 := by
    have hsign : Int.sign 1000000 = 1 := rfl
    rw [Int.tdiv_eq_ediv, hsign]
    split <;> omega
  have hunit : (1000000 : Int64).toInt = 1000000 := rfl
  rw [millisecondsToTimestamp, Int64.toInt_mul, hdiv, hunit]
  exact Int.bmod_eq_of_le (by omega) (by omega)

/-- What is loaded of the row of a message. -/
theorem loadRow_messageRow (format : FloatFormat) (message : Message) :
    loadRow format (messageRow format message) =
      (message.value.recovered format).map fun value =>
        { topic := cString message.topic
          deviceId := cString message.deviceId
          tagName := cString message.tagName
          value
          quality := message.quality
          timestamp := millisecondsToTimestamp (timestampToMilliseconds message.timestamp) } := by
  obtain ⟨hcode, hvalid⟩ := columnInt_code message.quality
  have hvalue := deserialize_serialize format message.value
  simp only [loadRow, messageRow, bindText, readTextColumn, cString_cString, hvalid, hvalue,
    Bool.not_true, Bool.false_eq_true, if_false, hcode, Int.toNat_natCast, Quality.ofCode_code]
  cases message.value.recovered format <;> rfl

/-- A loaded message is the stored one: every field is equal, except that a floating-point
    value only has to be there and that the timestamp is truncated to milliseconds. -/
structure SameMessage (stored loaded : Message) : Prop where
  topic : loaded.topic = stored.topic
  deviceId : loaded.deviceId = stored.deviceId
  tagName : loaded.tagName = stored.tagName
  value : stored.value.isFloating = false → loaded.value = stored.value
  quality : loaded.quality = stored.quality
  timestamp : loaded.timestamp.toInt = stored.timestamp.toInt.tdiv 1000000 * 1000000

/-- The messages that SQLite gives back: no text has a NUL, and the text of a
    floating-point value can be read. -/
structure Recoverable (format : FloatFormat) (message : Message) : Prop where
  topic : 0 ∉ message.topic
  deviceId : 0 ∉ message.deviceId
  tagName : 0 ∉ message.tagName
  string : ∀ text, message.value = .string text → 0 ∉ text
  readable : message.value.Readable format

/-- A value comes back as itself, up to floating point, exactly when its text has no NUL
    or can be read. -/
theorem recovered_same_iff (format : FloatFormat) (value : TagValue) :
    (∃ loaded, value.recovered format = some loaded ∧
      (value.isFloating = false → loaded = value)) ↔
    (∀ text, value = .string text → 0 ∉ text) ∧ value.Readable format := by
  cases value with
  | float bits =>
    simp [TagValue.recovered, TagValue.isFloating, TagValue.Readable, Option.isSome_iff_exists]
  | double bits =>
    simp [TagValue.recovered, TagValue.isFloating, TagValue.Readable, Option.isSome_iff_exists]
  | string text =>
    simp [TagValue.recovered, TagValue.isFloating, TagValue.Readable, cString_eq_self_iff]
  | _ => simp [TagValue.recovered, TagValue.isFloating, TagValue.Readable]

/-- A row gives back the message it was made from exactly when that is recoverable. -/
theorem loadRow_same_iff (format : FloatFormat) (message : Message) :
    (∃ loaded, loadRow format (messageRow format message) = some loaded ∧
      SameMessage message loaded) ↔ Recoverable format message := by
  rw [loadRow_messageRow]
  constructor
  · rintro ⟨loaded, hload, hsame⟩
    obtain ⟨value, hvalue, rfl⟩ := Option.map_eq_some_iff.mp hload
    obtain ⟨hstring, hreadable⟩ :=
      (recovered_same_iff format message.value).mp ⟨value, hvalue, hsame.value⟩
    exact ⟨(cString_eq_self_iff _).mp hsame.topic, (cString_eq_self_iff _).mp hsame.deviceId,
      (cString_eq_self_iff _).mp hsame.tagName, hstring, hreadable⟩
  · intro h
    obtain ⟨value, hvalue, hsame⟩ :=
      (recovered_same_iff format message.value).mpr ⟨h.string, h.readable⟩
    refine ⟨_, by rw [hvalue]; rfl, ?_⟩
    exact ⟨(cString_eq_self_iff _).mpr h.topic, (cString_eq_self_iff _).mpr h.deviceId,
      (cString_eq_self_iff _).mpr h.tagName, hsame, rfl, timestamp_truncated message.timestamp⟩

/-! ## Sequences of stores -/

/-- A sequence of `storeMessage` calls, with what SQLite does in each; `none` where one of
    them returns false. -/
def storeMessages (format : FloatFormat) :
    StorageService → List (Message × Bool) → Option StorageService
  | storage, [] => some storage
  | storage, (message, sqlite) :: calls =>
    match storage.storeMessage format message sqlite with
    | (storage, true) => storeMessages format storage calls
    | (_, false) => none

/-- A store that returns true appends the row of its message. -/
theorem storeMessage_rows (format : FloatFormat) (storage storage' : StorageService)
    (message : Message) (sqlite : Bool)
    (h : storage.storeMessage format message sqlite = (storage', true)) :
    storage.database = true ∧ storage'.database = true ∧
      storage'.tagMessages.rows.map Prod.snd =
        storage.tagMessages.rows.map Prod.snd ++ [messageRow format message] := by
  unfold storeMessage at h
  split at h
  · exact absurd (congrArg Prod.snd h) Bool.false_ne_true
  · rename_i hopen
    split at h
    · exact absurd (congrArg Prod.snd h) Bool.false_ne_true
    · split at h
      · exact absurd (congrArg Prod.snd h) Bool.false_ne_true
      · rename_i tagMessages hinsert
        obtain rfl := (Prod.mk.inj h).1
        obtain ⟨hrows, -⟩ := AutoincrementTable.insert_rows hinsert
        have hopen : storage.database = true := by simpa using hopen
        exact ⟨hopen, hopen, by simp [hrows]⟩

/-- The rows after a sequence of successful stores. -/
theorem storeMessages_rows (format : FloatFormat) (calls : List (Message × Bool))
    (storage stored : StorageService) (h : storeMessages format storage calls = some stored)
    (hopen : storage.database = true) :
    stored.database = true ∧
      stored.tagMessages.rows.map Prod.snd =
        storage.tagMessages.rows.map Prod.snd ++
          calls.map fun call => messageRow format call.1 := by
  induction calls generalizing storage with
  | nil =>
    obtain rfl := Option.some.inj h
    exact ⟨hopen, by simp⟩
  | cons call calls ih =>
    obtain ⟨message, sqlite⟩ := call
    unfold storeMessages at h
    split at h
    · rename_i storage' hstore
      obtain ⟨-, hopen', hrows⟩ := storeMessage_rows format _ _ message sqlite hstore
      obtain ⟨hstored, hrest⟩ := ih storage' h hopen'
      exact ⟨hstored, by rw [hrest, hrows]; simp⟩
    · exact nomatch h

/-- A list is matched by what a partial function makes of it exactly when the function
    is defined on, and matches, each of its elements. -/
private theorem forall₂_filterMap_iff {α β : Type} (R : α → β → Prop) (f : α → Option β)
    (l : List α) :
    List.Forall₂ R l (l.filterMap f) ↔ ∀ a ∈ l, ∃ b, f a = some b ∧ R a b := by
  induction l with
  | nil => simp
  | cons a l ih =>
    cases hf : f a with
    | none =>
      rw [List.filterMap_cons_none hf]
      constructor
      · -- a skipped element leaves the list too short
        intro h
        have hlength := h.length_eq
        have hle := List.length_filterMap_le f l
        rw [List.length_cons] at hlength
        omega
      · intro h
        obtain ⟨b, hb, -⟩ := h a List.mem_cons_self
        rw [hf] at hb
        exact nomatch hb
    | some b =>
      rw [List.filterMap_cons_some hf, List.forall₂_cons, ih, List.forall_mem_cons, hf]
      simp

/-- What a query without limit makes of the rows, ids left out. -/
theorem loadMessages_messages (format : FloatFormat) (storage : StorageService)
    (hopen : storage.database = true) :
    (storage.loadMessages format 0 true).map StoredMessage.message =
      (storage.tagMessages.rows.map Prod.snd).filterMap (loadRow format) := by
  simp only [loadMessages, hopen, Bool.not_true, Bool.false_eq_true, if_false, limitOf, true_or,
    if_true, AutoincrementTable.select, List.map_filterMap, List.filterMap_map]
  congr 1
  funext row
  simp [Option.map_map, Function.comp_def]

/-- The ids of the loaded messages increase. -/
theorem loadMessages_ids (format : FloatFormat) (storage : StorageService) (limit : Nat)
    (sqlite : Bool) :
    ((storage.loadMessages format limit sqlite).map StoredMessage.id).Pairwise (· < ·) := by
  unfold loadMessages
  split
  · exact List.Pairwise.nil
  · split
    · exact List.Pairwise.nil
    · have hsublist : ((storage.tagMessages.select (limitOf limit)).map Prod.fst).Sublist
          (storage.tagMessages.rows.map Prod.fst) := by
        unfold AutoincrementTable.select
        split
        · exact List.Sublist.refl _
        · exact (List.take_sublist _ _).map _
      refine List.Pairwise.sublist ?_ (storage.tagMessages.sorted.sublist hsublist)
      -- rows that are skipped leave the order as it is
      induction storage.tagMessages.select (limitOf limit) with
      | nil => exact List.Sublist.refl _
      | cons row rows ih =>
        cases hload : loadRow format row.2 with
        | none =>
          rw [List.filterMap_cons_none (by rw [hload]; rfl), List.map_cons]
          exact ih.cons _
        | some message =>
          rw [List.filterMap_cons_some (by rw [hload]; rfl), List.map_cons, List.map_cons]
          exact ih.cons_cons _

/-- For every sequence of stores into an empty table, each returning true, the messages
    come back, in call order and with increasing ids, exactly when each of them is
    recoverable. -/
theorem storage_round_trip_iff (format : FloatFormat) (storage stored : StorageService)
    (calls : List (Message × Bool)) (hopen : storage.isOpen = true)
    (hempty : storage.tagMessages.rows = [])
    (hcalls : storeMessages format storage calls = some stored) :
    (((stored.loadMessages format 0 true).map StoredMessage.id).Pairwise (· < ·) ∧
      List.Forall₂ SameMessage (calls.map Prod.fst)
        ((stored.loadMessages format 0 true).map StoredMessage.message)) ↔
    ∀ message ∈ calls.map Prod.fst, Recoverable format message := by
  obtain ⟨hstored, hrows⟩ := storeMessages_rows format calls storage stored hcalls hopen
  rw [hempty, List.map_nil, List.nil_append] at hrows
  have hmessages : (stored.loadMessages format 0 true).map StoredMessage.message =
      (calls.map Prod.fst).filterMap fun message =>
        loadRow format (messageRow format message) := by
    rw [loadMessages_messages format stored hstored, hrows, List.filterMap_map,
      List.filterMap_map]
    rfl
  -- a loaded row matches its message exactly when the message is recoverable
  rw [hmessages, forall₂_filterMap_iff]
  simp only [loadRow_same_iff]
  exact and_iff_right (loadMessages_ids format stored 0 true)

/-! ## Limited queries

SQLite counts the rows that it returns, and rows that cannot be read are skipped afterwards. -/

/-- Selecting before skipping gives the same as skipping before selecting exactly when
    nothing is skipped among the first `n` elements, or all that follows them is. -/
private theorem filterMap_take_iff {α β : Type} (f : α → Option β) (l : List α) (n : Nat) :
    (l.take n).filterMap f = (l.filterMap f).take n ↔
      (∀ a ∈ l.take n, (f a).isSome) ∨ ∀ a ∈ l.drop n, f a = none := by
  have hsplit : l.filterMap f = (l.take n).filterMap f ++ (l.drop n).filterMap f := by
    rw [← List.filterMap_append, List.take_append_drop]
  have hle : ((l.take n).filterMap f).length ≤ n :=
    (List.length_filterMap_le f _).trans (List.length_take_le n l)
  rw [hsplit, List.take_append, List.take_of_length_le hle, List.self_eq_append_right,
    List.take_eq_nil_iff, List.filterMap_eq_nil_iff]
  -- without rows after the first `n`, both sides hold
  by_cases hlong : n ≤ l.length
  · rw [← List.filterMap_length_eq_length (f := f), List.length_take_of_le hlong]
    exact or_congr_left (by omega)
  · have hnone : ∀ a ∈ l.drop n, f a = none := by
      simp [List.drop_of_length_le (Nat.le_of_not_le hlong)]
    exact iff_of_true (.inr hnone) (.inr hnone)

/-- What a limited query returns is always a prefix of what one without limit returns. -/
theorem loadMessages_prefix (format : FloatFormat) (storage : StorageService) (limit : Nat)
    (sqlite : Bool) :
    storage.loadMessages format limit sqlite <+: storage.loadMessages format 0 sqlite := by
  unfold loadMessages
  split
  · exact List.prefix_rfl
  · split
    · exact List.prefix_rfl
    · apply List.IsPrefix.filterMap
      cases limitOf limit with
      | none => exact List.prefix_rfl
      | some n => exact List.take_prefix n _

/-- A limit that SQLite gets as a negative number is more than there are rows. -/
theorem select_limitOf (table : AutoincrementTable TagMessageRow) (limit : Nat)
    (hlimit : 0 < limit) (hids : table.sequence ≤ AutoincrementTable.maxRowId) :
    table.select (limitOf limit) = table.rows.take limit := by
  have hlength := table.length_le_sequence
  unfold limitOf
  split
  · rename_i hnegative
    have hle : table.rows.length ≤ limit := by
      rw [AutoincrementTable.maxRowId] at hids
      omega
    exact (List.take_of_length_le hle).symm
  · rfl

/-- For every content of the table, a query with a limit returns that many messages from
    the front of what a query without limit returns, or all of them, exactly when every one
    of the first `limit` rows can be read or no row after them can. -/
theorem limited_load_iff (format : FloatFormat) (storage : StorageService) (limit : Nat)
    (sqlite : Bool) (hlimit : 0 < limit)
    (hids : storage.tagMessages.sequence ≤ AutoincrementTable.maxRowId) :
    storage.loadMessages format limit sqlite =
        (storage.loadMessages format 0 sqlite).take limit ↔
      (storage.isOpen = true → sqlite = true →
        (∀ row ∈ storage.tagMessages.rows.take limit, (loadRow format row.2).isSome) ∨
          ∀ row ∈ storage.tagMessages.rows.drop limit, loadRow format row.2 = none) := by
  have hselect := select_limitOf storage.tagMessages limit hlimit hids
  by_cases hopen : storage.isOpen = true ∧ sqlite = true
  · obtain ⟨hdatabase, rfl⟩ := hopen
    have hload (n : Nat) : storage.loadMessages format n true =
        (storage.tagMessages.select (limitOf n)).filterMap fun row =>
          (loadRow format row.2).map fun message => { id := row.1, message } := by
      unfold loadMessages
      rw [show storage.database = true from hdatabase]
      rfl
    have hall : storage.tagMessages.select (limitOf 0) = storage.tagMessages.rows := rfl
    rw [hload, hload, hselect, hall, filterMap_take_iff]
    simp only [Option.isSome_map, Option.map_eq_none_iff, hdatabase, forall_const]
  · -- both queries return nothing
    have hnone (n : Nat) : storage.loadMessages format n sqlite = [] := by
      unfold loadMessages
      split
      · rfl
      · rename_i hdatabase
        exact if_pos (by grind [isOpen])
    rw [hnone, hnone, List.take_nil]
    exact iff_of_true rfl fun hdatabase hsqlite => absurd ⟨hdatabase, hsqlite⟩ hopen

/-! ## Two sequences -/

/-- An open service on a new database. -/
def newStorage : StorageService := ⟨true, .empty 0, .empty 0⟩

/-- What the C++ library does with the number 1. -/
def oneFormat : FloatFormat where
  writeFloat := fun _ _ => ascii "1"
  writeDouble := fun _ _ => ascii "1"
  stof := fun text => if text = ascii "1" then some 0x3F800000 else none
  stod := fun text => if text = ascii "1" then some 0x3FF0000000000000 else none

/-- A message with a given value, 1 ms and 1 ns before the epoch. -/
def storedMessage (value : TagValue) : Message :=
  ⟨ascii "t", ascii "d", ascii "n", value, .stale, -1000001⟩

/-- A string value with a NUL comes back without its end, although the store succeeds. -/
theorem stored_string_cut :
    ∃ stored, storeMessages oneFormat newStorage
        [(storedMessage (.string [65, 0, 66]), true)] = some stored ∧
      ((stored.loadMessages oneFormat 0 true).map fun m => m.message.value) =
        [.string [65]] ∧
      ¬ List.Forall₂ SameMessage [storedMessage (.string [65, 0, 66])]
        ((stored.loadMessages oneFormat 0 true).map StoredMessage.message) := by
  refine ⟨_, rfl, rfl, fun h => ?_⟩
  have hvalue := (List.forall₂_cons.mp h).1.value rfl
  exact absurd hvalue (by decide)

/-- A row with a given quality. -/
def qualityRow (quality : Int64) : TagMessageRow :=
  ⟨ascii "t", ascii "d", ascii "n", 0, [], quality, 0⟩

/-- An open service on a table whose first row has a quality that is none. -/
def skippedStorage : StorageService where
  database := true
  tagMessages :=
    ⟨[(1, qualityRow 9), (2, qualityRow 0)], 2, by decide, by decide⟩
  mqttOutbox := .empty 0

/-- The row that cannot be read takes the place of the message after it. -/
theorem limited_load_skipped :
    skippedStorage.loadMessages oneFormat 1 true = [] ∧
      ((skippedStorage.loadMessages oneFormat 0 true).take 1).map StoredMessage.id = [2] ∧
      skippedStorage.loadMessages oneFormat 1 true ≠
        (skippedStorage.loadMessages oneFormat 0 true).take 1 := by
  refine ⟨rfl, rfl, fun h => ?_⟩
  exact absurd (congrArg List.length h) (by decide)

/-- Where the row that cannot be read is the last one, the limit is met. -/
theorem limited_load_read :
    let storage : StorageService :=
      { skippedStorage with
        tagMessages := ⟨[(1, qualityRow 0), (2, qualityRow 9)], 2, by decide, by decide⟩ }
    storage.loadMessages oneFormat 1 true = (storage.loadMessages oneFormat 0 true).take 1 := by
  intro storage
  apply (limited_load_iff oneFormat storage 1 true (by decide) (by decide)).mpr
  intro _ _
  exact .inl (by decide)

/-- Three values of different kinds come back. -/
theorem storage_round_trip_three :
    ∃ stored, storeMessages oneFormat newStorage
        [(storedMessage (.int8 (-128)), true), (storedMessage (.double 0x3FF0000000000000), true),
          (storedMessage (.string [0xE4, 0x27]), true)] = some stored ∧
      ((stored.loadMessages oneFormat 0 true).map StoredMessage.id).Pairwise (· < ·) ∧
      List.Forall₂ SameMessage
        [storedMessage (.int8 (-128)), storedMessage (.double 0x3FF0000000000000),
          storedMessage (.string [0xE4, 0x27])]
        ((stored.loadMessages oneFormat 0 true).map StoredMessage.message) := by
  refine ⟨_, rfl, (storage_round_trip_iff oneFormat newStorage _
    [(storedMessage (.int8 (-128)), true), (storedMessage (.double 0x3FF0000000000000), true),
      (storedMessage (.string [0xE4, 0x27]), true)] rfl rfl rfl).mpr ?_⟩
  intro message hmessage
  simp only [List.map_cons, List.map_nil, List.mem_cons, List.not_mem_nil, or_false] at hmessage
  rcases hmessage with rfl | rfl | rfl
  · exact ⟨by decide, by decide, by decide, fun _ h => (nomatch h), trivial⟩
  · exact ⟨by decide, by decide, by decide, fun _ h => (nomatch h), rfl⟩
  · refine ⟨by decide, by decide, by decide, fun text h => ?_, trivial⟩
    rw [← TagValue.string.inj h]
    decide

/-! ## The MQTT outbox -/

/-- The messages of the outbox, oldest first. -/
def StorageService.outbox (storage : StorageService) : List PendingMqttMessage :=
  storage.mqttOutbox.rows.map pendingMessage

/-- The ids of the outbox are those of its rows. -/
theorem outbox_ids (storage : StorageService) :
    storage.outbox.map PendingMqttMessage.id = storage.mqttOutbox.ids := by
  simp only [outbox, AutoincrementTable.ids, List.map_map]
  rfl

/-- A message of the outbox has been read up to its first NUL. -/
theorem cString_topic_of_mem_outbox (storage : StorageService) (message : PendingMqttMessage)
    (h : message ∈ storage.outbox) : cString message.topic = message.topic := by
  obtain ⟨row, -, rfl⟩ := List.mem_map.mp h
  exact cString_cString _

/-- A successful `enqueueMqttMessage` puts one message with the next id at the end. Its texts
    are those of the call, cut at their first NUL. -/
theorem enqueue_outbox (storage service : StorageService) (topic payload : Bytes)
    (retain : Bool) (now : Int64) (sqlite : Bool)
    (h : storage.enqueueMqttMessage topic payload retain now sqlite = (service, true)) :
    service.mqttOutbox.sequence = storage.mqttOutbox.sequence + 1 ∧
      service.outbox = storage.outbox ++
        [enqueuedMessage service.mqttOutbox.sequence topic payload retain now] := by
  unfold enqueueMqttMessage at h
  split at h
  · exact absurd (congrArg Prod.snd h) Bool.false_ne_true
  · split at h
    · exact absurd (congrArg Prod.snd h) Bool.false_ne_true
    · split at h
      · exact absurd (congrArg Prod.snd h) Bool.false_ne_true
      · rename_i mqttOutbox hinsert
        obtain rfl := (Prod.mk.inj h).1
        obtain ⟨hrows, hsequence⟩ := AutoincrementTable.insert_rows hinsert
        refine ⟨hsequence, ?_⟩
        -- a text is cut when it is bound, and again when it is read
        have hrow : pendingMessage (mqttOutbox.sequence, outboxRow topic payload retain now) =
            enqueuedMessage mqttOutbox.sequence topic payload retain now := by
          simp only [pendingMessage, outboxRow, enqueuedMessage, readTextColumn, bindText,
            cString_cString]
        show mqttOutbox.rows.map pendingMessage = storage.outbox ++ _
        rw [hrows, ← hrow, hsequence, List.map_append]
        rfl

/-- Neither enqueueing nor removing opens or closes the database. -/
theorem enqueue_database (storage : StorageService) (topic payload : Bytes) (retain : Bool)
    (now : Int64) (sqlite : Bool) :
    (storage.enqueueMqttMessage topic payload retain now sqlite).1.database =
      storage.database := by
  unfold enqueueMqttMessage
  split
  · rfl
  split
  · rfl
  split
  · rfl
  · rfl

theorem remove_database (storage : StorageService) (id : Int) (sqlite : Bool) :
    (storage.removePendingMqttMessage id sqlite).1.database = storage.database := by
  unfold removePendingMqttMessage
  split
  · rfl
  split
  · rfl
  · rfl

/-- A message that `loadPendingMqttMessages(1)` returns is the oldest one. -/
theorem load_outbox (storage : StorageService) (sqlite : Bool) (message : PendingMqttMessage)
    (rest : List PendingMqttMessage)
    (h : storage.loadPendingMqttMessages 1 sqlite = message :: rest) :
    ∃ tail, storage.outbox = message :: tail := by
  unfold loadPendingMqttMessages at h
  split at h
  · exact nomatch h
  · split at h
    · exact nomatch h
    · have hlimit : limitOf 1 = some 1 := rfl
      rw [hlimit, AutoincrementTable.select] at h
      cases hrows : storage.mqttOutbox.rows with
      | nil => simp [hrows] at h
      | cons row rows =>
        rw [hrows] at h
        obtain rfl := (List.cons.inj h).1
        exact ⟨rows.map pendingMessage, by rw [outbox, hrows]; rfl⟩

/-- On an open service `loadPendingMqttMessages(1)` finds a message if there is one. -/
theorem load_ne_nil (storage : StorageService) (hopen : storage.database = true)
    (houtbox : storage.outbox ≠ []) : storage.loadPendingMqttMessages 1 true ≠ [] := by
  have hrows : storage.mqttOutbox.rows ≠ [] := fun hnil => houtbox (by rw [outbox, hnil]; rfl)
  obtain ⟨row, rows, hcons⟩ := List.exists_cons_of_ne_nil hrows
  have hlimit : limitOf 1 = some 1 := rfl
  simp [loadPendingMqttMessages, hopen, hlimit, AutoincrementTable.select, hcons]

/-- On an open service `removePendingMqttMessage` removes the oldest message. -/
theorem remove_true (storage : StorageService) (message : PendingMqttMessage)
    (tail : List PendingMqttMessage) (hopen : storage.database = true)
    (hhead : storage.outbox = message :: tail) :
    (storage.removePendingMqttMessage message.id true).2 = true := by
  obtain ⟨row, rows, hrows, rfl, rfl⟩ := List.map_eq_cons_iff.mp hhead
  obtain ⟨-, hchanges⟩ := AutoincrementTable.delete_head hrows
  -- ids start at 1, so the check of the argument passes
  have hpositive : 0 < row.1 :=
    (storage.mqttOutbox.bounded row.1 (by rw [hrows]; exact List.mem_cons_self)).1
  have hid : ¬ ((pendingMessage row).id : Int) ≤ 0 := by
    show ¬ (row.1 : Int) ≤ 0
    omega
  simp only [removePendingMqttMessage, hopen, hid, Bool.not_true, decide_false, Bool.or_self,
    Bool.false_eq_true, if_false]
  exact decide_eq_true hchanges

/-- `removePendingMqttMessage` of the oldest message removes it, or changes nothing. -/
theorem remove_outbox (storage service : StorageService) (message : PendingMqttMessage)
    (tail : List PendingMqttMessage) (sqlite removed : Bool)
    (hhead : storage.outbox = message :: tail)
    (h : storage.removePendingMqttMessage message.id sqlite = (service, removed)) :
    service.mqttOutbox.sequence = storage.mqttOutbox.sequence ∧
      (removed = true ∧ service.outbox = tail ∨ removed = false ∧ service = storage) := by
  unfold removePendingMqttMessage at h
  split at h
  · obtain ⟨rfl, rfl⟩ := Prod.mk.inj h
    exact ⟨rfl, .inr ⟨rfl, rfl⟩⟩
  · split at h
    · obtain ⟨rfl, rfl⟩ := Prod.mk.inj h
      exact ⟨rfl, .inr ⟨rfl, rfl⟩⟩
    · obtain ⟨rfl, rfl⟩ := Prod.mk.inj h
      obtain ⟨row, rows, hrows, rfl, rfl⟩ := List.map_eq_cons_iff.mp hhead
      obtain ⟨hdelete, hchanges⟩ := AutoincrementTable.delete_head hrows
      refine ⟨rfl, .inl ⟨decide_eq_true hchanges, ?_⟩⟩
      exact congrArg (List.map pendingMessage) hdelete

end EdgeLink
