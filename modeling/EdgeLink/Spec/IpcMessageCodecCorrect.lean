import EdgeLink.ForStd.PrefixFree
import EdgeLink.Native.IpcMessageCodec

/-!
# IPC codec correctness

`decode` accepts exactly the image of `encode`, and the two are inverse to each other.

The route, bottom-up:
1. `At input offset rest`: what a reader at `offset` still has in front of it. Each
   reader has a forward lemma (`readPod_at`, `readString_at`: the bytes are there, so
   the read succeeds) and an inversion lemma (`readPod_some`, `readString_some`: the
   read succeeded, so the bytes were there).
2. `readHeader_at` / `readHeader_some`: the nine fields together.
3. `decodeValue_encodeValue` / `decodeValue_some`: the value section, one case per
   alternative.
4. `encode_eq_some_iff`: `encode` succeeds on the `Encodable` messages and writes
   their `layout`; `decode_layout` and `decode_sound` are the two directions.
5. `accepted_prefixFree`: no accepted byte string is a proper prefix of another, since the
   length that the header declares is the length of the whole.
-/

namespace EdgeLink.IpcMessageCodec

/-! ## Reader positions -/

/-- A reader at `offset` of `input` has exactly `rest` in front of it. -/
def At (input : Bytes) (offset : Nat) (rest : Bytes) : Prop :=
  offset ≤ input.length ∧ input.drop offset = rest

/-- The start of the input. -/
theorem at_zero (input : Bytes) : At input 0 input :=
  ⟨Nat.zero_le _, List.drop_zero⟩

/-- Advancing over a section leaves what comes after it. -/
theorem at_advance (input section_ rest : Bytes) (offset : Nat)
    (h : At input offset (section_ ++ rest)) :
    At input (offset + section_.length) rest := by
  obtain ⟨hle, hdrop⟩ := h
  have hlen : input.length - offset = section_.length + rest.length := by
    rw [← List.length_drop, hdrop, List.length_append]
  refine ⟨by omega, ?_⟩
  rw [← List.drop_drop, hdrop, List.drop_left]

/-- The bytes of the section in front of the reader. -/
theorem at_take (input section_ rest : Bytes) (offset : Nat)
    (h : At input offset (section_ ++ rest)) :
    (input.drop offset).take section_.length = section_ := by
  rw [h.2, List.take_left]

/-- A section in front of the reader fits into the rest of the input. -/
theorem at_fits (input section_ rest : Bytes) (offset : Nat)
    (h : At input offset (section_ ++ rest)) :
    ¬(offset > input.length ∨ input.length - offset < section_.length) := by
  have hlen : input.length - offset = section_.length + rest.length := by
    rw [← List.length_drop, h.2, List.length_append]
  have hle := h.1
  omega

/-- Splitting off the `width` bytes in front of a reader. -/
theorem drop_eq_take_append (input : Bytes) (offset width : Nat) :
    input.drop offset = (input.drop offset).take width ++ input.drop (offset + width) := by
  rw [← List.drop_drop, List.take_append_drop]

/-! ## `readPod` and `readString` -/

/-- Reading a value whose representation is in front of the reader. -/
theorem readPod_at {α : Type} [Pod α] (input rest : Bytes) (offset : Nat) (value : α)
    (h : At input offset (Pod.bytes value ++ rest)) :
    readPod α input offset = some (value, offset + Pod.width α) ∧
    At input (offset + Pod.width α) rest := by
  have hfits := at_fits _ _ _ _ h
  have htake := at_take _ _ _ _ h
  have hnext := at_advance _ _ _ _ h
  rw [Pod.length_bytes] at hfits htake hnext
  rw [readPod, if_neg hfits, htake, Pod.ofBytes_bytes]
  exact ⟨rfl, hnext⟩

/-- A successful `readPod` had the representation of its value in front of it. -/
theorem readPod_some {α : Type} [Pod α] (input : Bytes) (offset offset' : Nat) (value : α)
    (h : readPod α input offset = some (value, offset')) :
    offset' = offset + Pod.width α ∧ offset' ≤ input.length ∧
    input.drop offset = Pod.bytes value ++ input.drop offset' := by
  rw [readPod] at h
  split at h
  · exact nomatch h
  · rename_i hfits
    simp only [Option.some.injEq, Prod.mk.injEq] at h
    obtain ⟨rfl, rfl⟩ := h
    have hlen : ((input.drop offset).take (Pod.width α)).length = Pod.width α := by
      rw [List.length_take, List.length_drop]; omega
    refine ⟨rfl, by omega, ?_⟩
    rw [Pod.bytes_ofBytes _ hlen]
    exact drop_eq_take_append input offset (Pod.width α)

/-- Reading a string that is in front of the reader. -/
theorem readString_at (input text rest : Bytes) (offset : Nat) (length : UInt32)
    (hlength : length.toNat = text.length) (h : At input offset (text ++ rest)) :
    readString input offset length = some (text, offset + text.length) ∧
    At input (offset + text.length) rest := by
  have hfits := at_fits _ _ _ _ h
  rw [readString, hlength, if_neg hfits, at_take _ _ _ _ h]
  exact ⟨rfl, at_advance _ _ _ _ h⟩

/-- A successful `readString` had its result in front of it. -/
theorem readString_some (input text : Bytes) (offset offset' : Nat) (length : UInt32)
    (h : readString input offset length = some (text, offset')) :
    text.length = length.toNat ∧ offset' = offset + text.length ∧
    offset' ≤ input.length ∧ input.drop offset = text ++ input.drop offset' := by
  rw [readString] at h
  split at h
  · exact nomatch h
  · rename_i hfits
    simp only [Option.some.injEq, Prod.mk.injEq] at h
    obtain ⟨rfl, rfl⟩ := h
    have hlen : ((input.drop offset).take length.toNat).length = length.toNat := by
      rw [List.length_take, List.length_drop]; omega
    refine ⟨hlen, by rw [hlen], by omega, ?_⟩
    exact drop_eq_take_append input offset length.toNat

/-! ## The header -/

/-- The 36 bytes of a header. -/
def Header.bytes (header : Header) : Bytes :=
  Pod.bytes header.magic ++ (Pod.bytes header.version ++ (Pod.bytes header.typeIndex ++
    (Pod.bytes header.quality ++ (Pod.bytes header.timestampNanoseconds ++
      (Pod.bytes header.topicLength ++ (Pod.bytes header.deviceIdLength ++
        (Pod.bytes header.tagNameLength ++ Pod.bytes header.valueLength)))))))

/-- `appendHeader` appends the bytes of the header. -/
theorem appendHeader_eq (output : Bytes) (header : Header) :
    appendHeader output header = output ++ header.bytes := by
  simp only [appendHeader, appendPod, Header.bytes, List.append_assoc]

@[simp] theorem Header.length_bytes (header : Header) : header.bytes.length = 36 := by
  simp only [Header.bytes, List.length_append, Pod.length_bytes]
  rfl

/-- A read that succeeds is followed by the rest of the block. -/
private theorem bind_of_eq_some {α β : Type} {read : Option α} {value : α} {rest : α → Option β}
    (h : read = some value) : (read >>= rest) = rest value := by
  rw [h]
  rfl

/-- Reading a header that is at the start of the input. -/
theorem readHeader_at (header : Header) (rest : Bytes) :
    readHeader (header.bytes ++ rest) = some (header, 36) ∧
    At (header.bytes ++ rest) 36 rest := by
  have h₀ := at_zero (header.bytes ++ rest)
  simp only [Header.bytes, List.append_assoc] at h₀ ⊢
  obtain ⟨r₁, h₁⟩ := readPod_at _ _ _ _ h₀
  obtain ⟨r₂, h₂⟩ := readPod_at _ _ _ _ h₁
  obtain ⟨r₃, h₃⟩ := readPod_at _ _ _ _ h₂
  obtain ⟨r₄, h₄⟩ := readPod_at _ _ _ _ h₃
  obtain ⟨r₅, h₅⟩ := readPod_at _ _ _ _ h₄
  obtain ⟨r₆, h₆⟩ := readPod_at _ _ _ _ h₅
  obtain ⟨r₇, h₇⟩ := readPod_at _ _ _ _ h₆
  obtain ⟨r₈, h₈⟩ := readPod_at _ _ _ _ h₇
  obtain ⟨r₉, h₉⟩ := readPod_at _ _ _ _ h₈
  refine ⟨?_, h₉⟩
  calc readHeader _
    _ = _ := bind_of_eq_some r₁
    _ = _ := bind_of_eq_some r₂
    _ = _ := bind_of_eq_some r₃
    _ = _ := bind_of_eq_some r₄
    _ = _ := bind_of_eq_some r₅
    _ = _ := bind_of_eq_some r₆
    _ = _ := bind_of_eq_some r₇
    _ = _ := bind_of_eq_some r₈
    _ = _ := bind_of_eq_some r₉

/-- A successful `readHeader` read the first 36 bytes of the input. -/
theorem readHeader_some (input : Bytes) (header : Header) (offset : Nat)
    (h : readHeader input = some (header, offset)) :
    offset = 36 ∧ 36 ≤ input.length ∧ input = header.bytes ++ input.drop 36 := by
  obtain ⟨⟨magic, o₁⟩, r₁, h⟩ := Option.bind_eq_some_iff.mp h
  obtain ⟨⟨version, o₂⟩, r₂, h⟩ := Option.bind_eq_some_iff.mp h
  obtain ⟨⟨typeIndex, o₃⟩, r₃, h⟩ := Option.bind_eq_some_iff.mp h
  obtain ⟨⟨quality, o₄⟩, r₄, h⟩ := Option.bind_eq_some_iff.mp h
  obtain ⟨⟨timestamp, o₅⟩, r₅, h⟩ := Option.bind_eq_some_iff.mp h
  obtain ⟨⟨topicLength, o₆⟩, r₆, h⟩ := Option.bind_eq_some_iff.mp h
  obtain ⟨⟨deviceIdLength, o₇⟩, r₇, h⟩ := Option.bind_eq_some_iff.mp h
  obtain ⟨⟨tagNameLength, o₈⟩, r₈, h⟩ := Option.bind_eq_some_iff.mp h
  obtain ⟨⟨valueLength, o₉⟩, r₉, h⟩ := Option.bind_eq_some_iff.mp h
  obtain ⟨rfl, rfl⟩ := Prod.mk.inj (Option.some.inj h)
  obtain ⟨e₁, -, d₁⟩ := readPod_some _ _ _ _ r₁
  obtain ⟨e₂, -, d₂⟩ := readPod_some _ _ _ _ r₂
  obtain ⟨e₃, -, d₃⟩ := readPod_some _ _ _ _ r₃
  obtain ⟨e₄, -, d₄⟩ := readPod_some _ _ _ _ r₄
  obtain ⟨e₅, -, d₅⟩ := readPod_some _ _ _ _ r₅
  obtain ⟨e₆, -, d₆⟩ := readPod_some _ _ _ _ r₆
  obtain ⟨e₇, -, d₇⟩ := readPod_some _ _ _ _ r₇
  obtain ⟨e₈, -, d₈⟩ := readPod_some _ _ _ _ r₈
  obtain ⟨e₉, hle, d₉⟩ := readPod_some _ _ _ _ r₉
  -- the nine widths 4, 2, 2, 4, 8, 4, 4, 4, 4 add up to 36
  have hoffset : o₉ = 36 := by
    rw [e₉, e₈, e₇, e₆, e₅, e₄, e₃, e₂, e₁]; rfl
  refine ⟨hoffset, hoffset ▸ hle, ?_⟩
  rw [← hoffset]
  simp only [Header.bytes, List.append_assoc]
  rw [← d₉, ← d₈, ← d₇, ← d₆, ← d₅, ← d₄, ← d₃, ← d₂, ← d₁, List.drop_zero]

/-! ## The value section -/

/-- Decoding the representation of a number. -/
private theorem decodeNumericValue_bytes {α : Type} [Pod α] (alternative : α → TagValue)
    (value : α) :
    decodeNumericValue alternative (Pod.bytes value) = some (alternative value) := by
  rw [decodeNumericValue, if_neg (by simp), Pod.ofBytes_bytes]

/-- A decoded number has exactly the decoded bytes as its representation. -/
private theorem decodeNumericValue_some {α : Type} [Pod α] (alternative : α → TagValue)
    (input : Bytes) (value : TagValue)
    (h : decodeNumericValue alternative input = some value) :
    ∃ number : α, value = alternative number ∧ Pod.bytes number = input := by
  rw [decodeNumericValue] at h
  split at h
  · exact nomatch h
  · rename_i hlen
    rw [not_not] at hlen
    exact ⟨Pod.ofBytes α input, (Option.some.inj h).symm, Pod.bytes_ofBytes input hlen⟩

/-- Every value survives its value section. -/
theorem decodeValue_encodeValue (value : TagValue) :
    decodeValue (UInt16.ofNat value.index) (encodeValue value) = some value := by
  cases value with
  | monostate => rfl
  | bool value => cases value <;> rfl
  | string value => rfl
  | _ number => exact decodeNumericValue_bytes _ number

/-- The bytes that pass the check of a boolean. -/
private theorem byte_le_one (byte : UInt8) (h : ¬byte > 1) : byte = 0 ∨ byte = 1 := by
  have hle : byte.toNat ≤ 1 := UInt8.le_iff_toNat_le.mp (UInt8.not_lt.mp h)
  rcases Nat.le_one_iff_eq_zero_or_eq_one.mp hle with h0 | h1
  · exact .inl (UInt8.toNat_inj.mp h0)
  · exact .inr (UInt8.toNat_inj.mp h1)

/-- A successfully decoded value section is the encoding of the value, under the
    type index of the value. -/
theorem decodeValue_some (typeIndex : UInt16) (input : Bytes) (value : TagValue)
    (h : decodeValue typeIndex input = some value) :
    typeIndex = UInt16.ofNat value.index ∧ encodeValue value = input := by
  have hindex : typeIndex = UInt16.ofNat typeIndex.toNat := by simp
  rw [decodeValue] at h
  split at h
  · rename_i hcase
    split at h
    · exact nomatch h
    · rename_i hnil
      obtain rfl := Option.some.inj h
      exact ⟨by rw [hindex, hcase]; rfl, (not_not.mp hnil).symm⟩
  · rename_i hcase
    split at h
    · exact nomatch h
    · rename_i hbyte
      obtain rfl := Option.some.inj h
      refine ⟨by rw [hindex, hcase]; rfl, ?_⟩
      simp only [not_or, not_not] at hbyte
      obtain ⟨byte, rfl⟩ := List.length_eq_one_iff.mp hbyte.1
      -- only the canonical bytes 0 and 1 get here
      rcases byte_le_one byte hbyte.2 with rfl | rfl <;> rfl
  all_goals first
    | (rename_i hcase
       obtain ⟨number, rfl, hbytes⟩ := decodeNumericValue_some _ _ _ h
       exact ⟨by rw [hindex, hcase]; rfl, hbytes⟩)
    | (rename_i hcase
       obtain rfl := Option.some.inj h
       exact ⟨by rw [hindex, hcase]; rfl, rfl⟩)
    | exact nomatch h

/-! ## `encode` -/

/-- The messages that `encode` accepts. -/
structure Encodable (message : Message) : Prop where
  topic_ne_nil : message.topic ≠ []
  topic_le : message.topic.length ≤ maxLength
  deviceId_le : message.deviceId.length ≤ maxLength
  tagName_le : message.tagName.length ≤ maxLength
  value_le : (encodeValue message.value).length ≤ maxLength

/-- The bytes of a message: header and four sections. -/
def layout (message : Message) : Bytes :=
  (headerOf message (encodeValue message.value)).bytes ++
    (message.topic ++ (message.deviceId ++ (message.tagName ++ encodeValue message.value)))

/-- `encode` succeeds exactly on the encodable messages, and writes their layout. -/
theorem encode_eq_some_iff (message : Message) (output : Bytes) :
    encode message = some output ↔ Encodable message ∧ output = layout message := by
  have hquality := message.quality.code_le
  constructor
  · intro h
    simp only [encode] at h
    split at h
    · exact nomatch h
    · rename_i hfields
      split at h
      · exact nomatch h
      · rename_i hvalue
        simp only [List.isEmpty_iff, not_or, Nat.not_lt] at hfields
        obtain ⟨htopic, htopic_le, hdevice, htag, -⟩ := hfields
        refine ⟨⟨htopic, htopic_le, hdevice, htag, Nat.not_lt.mp hvalue⟩, ?_⟩
        rw [← Option.some.inj h, appendHeader_eq, List.nil_append, layout,
          List.append_assoc, List.append_assoc, List.append_assoc]
  · rintro ⟨⟨htopic, htopic_le, hdevice, htag, hvalue⟩, rfl⟩
    -- the quality passes its check in any case
    have hfields : ¬(message.topic.isEmpty ∨ message.topic.length > maxLength ∨
        message.deviceId.length > maxLength ∨ message.tagName.length > maxLength ∨
        message.quality.code > Quality.disconnected.code) := by
      simp only [List.isEmpty_iff, htopic, false_or]
      omega
    rw [encode, if_neg hfields]
    dsimp only
    rw [if_neg (Nat.not_lt.mpr hvalue), appendHeader_eq, List.nil_append, layout,
      List.append_assoc, List.append_assoc, List.append_assoc]

/-- A length that `encode` lets through survives the cast to `std::uint32_t`. -/
private theorem toNat_length {length : Nat} (h : length ≤ maxLength) :
    (UInt32.ofNat length).toNat = length := by
  rw [UInt32.toNat_ofNat']
  exact Nat.mod_eq_of_lt (by simp only [maxLength] at h; omega)

/-- The quality field holds the number of the enumerator. -/
private theorem toNat_quality (quality : Quality) :
    (UInt32.ofNat quality.code).toNat = quality.code := by
  cases quality <;> rfl

/-! ## `decode` -/

/-- `decode` succeeds when every read on its way does. -/
private theorem decode_of_reads (input topic deviceId tagName : Bytes) (value : TagValue)
    (header : Header) (o₀ o₁ o₂ o₃ : Nat) (previous : Message)
    (hheader : readHeader input = some (header, o₀))
    (hmagic : header.magic = MessageMagic) (hversion : header.version = MessageVersion)
    (hquality : header.quality.toNat ≤ Quality.disconnected.code)
    (htopic : readString input o₀ header.topicLength = some (topic, o₁))
    (hdevice : readString input o₁ header.deviceIdLength = some (deviceId, o₂))
    (htag : readString input o₂ header.tagNameLength = some (tagName, o₃))
    (hne : topic ≠ []) (hle : o₃ ≤ input.length)
    (hlength : input.length - o₃ = header.valueLength.toNat)
    (hvalue : decodeValue header.typeIndex (input.drop o₃) = some value) :
    decode input previous =
      (true, { topic, deviceId, tagName, value
               quality := Quality.ofCode header.quality.toNat
               timestamp := header.timestampNanoseconds }) := by
  have hfields : ¬(header.magic ≠ MessageMagic ∨ header.version ≠ MessageVersion ∨
      header.quality.toNat > Quality.disconnected.code) := by
    simp only [hmagic, hversion, ne_eq, not_true_eq_false, false_or]
    omega
  have hrest : ¬(topic.isEmpty ∨ o₃ > input.length ∨
      input.length - o₃ ≠ header.valueLength.toNat) := by
    simp only [List.isEmpty_iff, hne, hlength, ne_eq, not_true_eq_false, or_false, false_or]
    omega
  -- every read of `decode` succeeds, one after the other
  rw [decode, hheader]
  dsimp only
  rw [if_neg hfields, htopic]
  dsimp only
  rw [hdevice]
  dsimp only
  rw [htag]
  dsimp only
  rw [if_neg hrest, hvalue]

/-- Decoding the layout of an encodable message yields the message, whatever the
    target held before. -/
theorem decode_layout (message previous : Message) (h : Encodable message) :
    decode (layout message) previous = (true, message) := by
  obtain ⟨htopic, htopic_le, hdevice_le, htag_le, hvalue_le⟩ := h
  obtain ⟨hheader, hat⟩ := readHeader_at (headerOf message (encodeValue message.value))
    (message.topic ++ (message.deviceId ++ (message.tagName ++ encodeValue message.value)))
  change readHeader (layout message) = _ at hheader
  change At (layout message) 36 _ at hat
  obtain ⟨rtopic, hat₁⟩ := readString_at _ _ _ _ _ (toNat_length htopic_le) hat
  obtain ⟨rdevice, hat₂⟩ := readString_at _ _ _ _ _ (toNat_length hdevice_le) hat₁
  obtain ⟨rtag, hat₃⟩ := readString_at _ _ _ _ _ (toNat_length htag_le) hat₂
  obtain ⟨hle, hdrop⟩ := hat₃
  have hlength := congrArg List.length hdrop
  rw [List.length_drop, ← toNat_length hvalue_le] at hlength
  have hvalue := decodeValue_encodeValue message.value
  rw [← hdrop] at hvalue
  have hquality := toNat_quality message.quality
  rw [decode_of_reads _ _ _ _ _ _ _ _ _ _ previous hheader rfl rfl
    (hquality ▸ message.quality.code_le) rtopic rdevice rtag htopic hle hlength hvalue]
  simp only [headerOf, hquality, Quality.ofCode_code]

/-- `decode` succeeds only when every read on its way does, and delivers what was read. -/
private theorem reads_of_decode {input : Bytes} {message previous : Message}
    (h : decode input previous = (true, message)) :
    ∃ header o₀ o₁ o₂ o₃,
      readHeader input = some (header, o₀) ∧
      (header.magic = MessageMagic ∧ header.version = MessageVersion ∧
        header.quality.toNat ≤ Quality.disconnected.code) ∧
      readString input o₀ header.topicLength = some (message.topic, o₁) ∧
      readString input o₁ header.deviceIdLength = some (message.deviceId, o₂) ∧
      readString input o₂ header.tagNameLength = some (message.tagName, o₃) ∧
      (message.topic ≠ [] ∧ input.length - o₃ = header.valueLength.toNat) ∧
      decodeValue header.typeIndex (input.drop o₃) = some message.value ∧
      message.quality = Quality.ofCode header.quality.toNat ∧
      message.timestamp = header.timestampNanoseconds := by
  -- one split for each check; only the path that returns true is left
  rw [decode] at h
  split at h
  · exact nomatch h
  rename_i header o₀ hheader
  split at h
  · exact nomatch h
  rename_i hfields
  simp only [not_or, not_not, Nat.not_lt] at hfields
  split at h
  · exact nomatch h
  rename_i topic o₁ htopic
  dsimp only at h
  split at h
  · exact nomatch h
  rename_i deviceId o₂ hdevice
  split at h
  · exact nomatch h
  rename_i tagName o₃ htag
  split at h
  · exact nomatch h
  rename_i hrest
  simp only [List.isEmpty_iff, not_or, not_not] at hrest
  split at h
  · exact nomatch h
  rename_i value hvalue
  simp only [Prod.mk.injEq, true_and] at h
  subst h
  exact ⟨header, o₀, o₁, o₂, o₃, hheader, hfields, htopic, hdevice, htag,
    ⟨hrest.1, hrest.2.2⟩, hvalue, rfl, rfl⟩

/-- What `decode` accepts is the layout of the message it delivers. -/
theorem decode_sound (input : Bytes) (message previous : Message)
    (h : decode input previous = (true, message)) :
    Encodable message ∧ input = layout message := by
  obtain ⟨header, o₀, o₁, o₂, o₃, rheader, ⟨hmagic, hversion, hquality⟩, rtopic, rdevice, rtag,
    ⟨htopic, hvalue⟩, rvalue, hquality_eq, htimestamp⟩ := reads_of_decode h
  obtain ⟨rfl, -, hinput⟩ := readHeader_some _ _ _ rheader
  obtain ⟨ltopic, -, -, d₁⟩ := readString_some _ _ _ _ _ rtopic
  obtain ⟨ldevice, -, -, d₂⟩ := readString_some _ _ _ _ _ rdevice
  obtain ⟨ltag, -, -, d₃⟩ := readString_some _ _ _ _ _ rtag
  obtain ⟨hindex, hencode⟩ := decodeValue_some _ _ _ rvalue
  have lvalue : (input.drop o₃).length = header.valueLength.toNat := by
    rw [List.length_drop, hvalue]
  -- every length is a 32-bit number read from the header
  have hbound (length : UInt32) : length.toNat ≤ maxLength := by
    have hlt := length.toNat_lt
    simp only [maxLength]
    omega
  have hencodable : Encodable message :=
    ⟨htopic, ltopic ▸ hbound _, ldevice ▸ hbound _, ltag ▸ hbound _,
      by rw [hencode, lvalue]; exact hbound _⟩
  have hheaderOf : headerOf message (input.drop o₃) = header := by
    simp only [headerOf, hquality_eq, htimestamp, Quality.code_ofCode _ hquality, ltopic,
      ldevice, ltag, lvalue, UInt32.ofNat_toNat, ← hindex, ← hmagic, ← hversion]
  refine ⟨hencodable, ?_⟩
  rw [layout, hencode, hheaderOf, ← d₃, ← d₂, ← d₁]
  exact hinput

/-- `decode` accepts its input exactly when some encodable message has it as layout. -/
theorem accepted_iff (input : Bytes) (previous : Message) :
    (decode input previous).1 = true ↔
      ∃ message, Encodable message ∧ input = layout message := by
  constructor
  · intro h
    exact ⟨_, decode_sound input (decode input previous).2 previous (Prod.ext h rfl)⟩
  · rintro ⟨message, hmessage, rfl⟩
    rw [decode_layout message previous hmessage]

/-! ## Main results -/

/-- Round trip: an accepted message is decoded to itself, into any target. -/
theorem codec_round_trip (message previous : Message)
    (htopic : message.topic ≠ [])
    (htopic_le : message.topic.length ≤ 2 ^ 32 - 1)
    (hdevice_le : message.deviceId.length ≤ 2 ^ 32 - 1)
    (htag_le : message.tagName.length ≤ 2 ^ 32 - 1)
    (hstring_le : ∀ text, message.value = .string text → text.length ≤ 2 ^ 32 - 1) :
    ∃ output, encode message = some output ∧
      decode output previous = (true, message) := by
  have hvalue_le : (encodeValue message.value).length ≤ maxLength := by
    cases hvalue : message.value with
    | monostate => exact Nat.zero_le _
    | string text => exact hstring_le text hvalue
    | _ number =>
      simp only [encodeValue, appendPod, List.nil_append, Pod.length_bytes]
      decide
  have hencodable : Encodable message :=
    ⟨htopic, htopic_le, hdevice_le, htag_le, hvalue_le⟩
  exact ⟨layout message, (encode_eq_some_iff _ _).mpr ⟨hencodable, rfl⟩,
    decode_layout message previous hencodable⟩

/-- The round trip on a message with a NUL byte in its string value. -/
theorem codec_round_trip_nul :
    ∃ output,
      encode ⟨ascii "t", ascii "d", [], .string [65, 0, 66], .stale, -1⟩ = some output ∧
      decode output Message.empty =
        (true, ⟨ascii "t", ascii "d", [], .string [65, 0, 66], .stale, -1⟩) :=
  codec_round_trip _ _ (by decide) (by decide) (by decide) (by decide)
    (by rintro text ⟨rfl⟩; decide)

/-- Exactness: the accepted inputs are the outputs of `encode`, and encoding the
    decoded message gives back the input byte for byte. -/
theorem codec_exact (input : Bytes) (previous : Message) :
    ((decode input previous).1 = true ↔ ∃ message, encode message = some input) ∧
    ((decode input previous).1 = true →
      encode (decode input previous).2 = some input) := by
  refine ⟨?_, ?_⟩
  · simp only [accepted_iff, encode_eq_some_iff]
  · intro h
    have hsound := decode_sound input (decode input previous).2 previous (Prod.ext h rfl)
    exact (encode_eq_some_iff _ _).mpr hsound

/-! ## Self-delimitation -/

/-- The length that a header declares. -/
def Header.declaredLength (header : Header) : Nat :=
  36 + header.topicLength.toNat + header.deviceIdLength.toNat + header.tagNameLength.toNat +
    header.valueLength.toNat

/-- The length that the header at the start of the input declares. -/
def declaredLength (input : Bytes) : Nat :=
  (readHeader input).elim 0 fun (header, _) => header.declaredLength

/-- The first 36 bytes of a layout are its header. -/
private theorem take_layout (message : Message) :
    (layout message).take 36 = (headerOf message (encodeValue message.value)).bytes :=
  List.take_left' (Header.length_bytes _)

/-- The header of an encodable message declares the length of its layout. -/
private theorem length_layout (message : Message) (h : Encodable message) :
    (layout message).length =
      (headerOf message (encodeValue message.value)).declaredLength := by
  simp only [layout, List.length_append, Header.length_bytes, Header.declaredLength, headerOf,
    toNat_length h.topic_le, toNat_length h.deviceId_le, toNat_length h.tagName_le,
    toNat_length h.value_le]
  omega

/-- Whether an input is accepted does not depend on the target. -/
theorem accepted_congr (input : Bytes) (previous previous' : Message) :
    (decode input previous).1 = true ↔ (decode input previous').1 = true := by
  rw [accepted_iff, accepted_iff]

/-- The accepted inputs are prefix-free. -/
theorem accepted_prefixFree (previous : Message) :
    PrefixFree fun input => (decode input previous).1 = true := by
  refine .of_length 36 declaredLength ?_ ?_
  · intro input haccepted
    obtain ⟨message, -, rfl⟩ := (accepted_iff _ _).mp haccepted
    rw [layout, List.length_append, Header.length_bytes]
    omega
  · intro input haccepted
    obtain ⟨message, hmessage, rfl⟩ := (accepted_iff _ _).mp haccepted
    have hread := (readHeader_at (headerOf message (encodeValue message.value)) []).1
    rw [List.append_nil] at hread
    rw [take_layout, declaredLength, hread, length_layout message hmessage]
    rfl

end EdgeLink.IpcMessageCodec
