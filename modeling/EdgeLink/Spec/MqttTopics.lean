import EdgeLink.Native.MqttPayload

/-!
# Topics of device tags

`forwardMessage` is meant to give every device tag a topic of its own. The names are not
checked for the separator between them, so a topic can be split in more than one way; two
splits differ by a piece that both names have in common (`Overlap`).
-/

namespace EdgeLink

open CText

/-- The device name of the second split reaches into the tag name of the first one. It can
    do so by a whole separator, or share the slash of two separators. -/
def Overlap (message other : Message) : Prop :=
  (∃ middle, other.deviceId = message.deviceId ++ ascii "/tags/" ++ middle ∧
    message.tagName = middle ++ ascii "/tags/" ++ other.tagName) ∨
  (other.deviceId = message.deviceId ++ ascii "/tags" ∧
    message.tagName = ascii "tags/" ++ other.tagName)

/-- The only ends of the separator that it also starts with: all of it, its slash, nothing. -/
theorem separator_border :
    ∀ k ≤ 6, (ascii "/tags/").drop k <+: ascii "/tags/" → k = 0 ∨ k = 5 ∨ k = 6 := by
  decide

/-- A text that continues a separator with another one: it is empty, they share a slash, or
    it starts with the whole of the first one. -/
theorem separator_split {front tag tag' : Bytes}
    (h : ascii "/tags/" ++ tag = front ++ (ascii "/tags/" ++ tag')) :
    (front = [] ∧ tag = tag') ∨
    (front = ascii "/tags" ∧ tag = ascii "tags/" ++ tag') ∨
    ∃ middle, front = ascii "/tags/" ++ middle ∧ tag = middle ++ ascii "/tags/" ++ tag' := by
  rcases List.append_eq_append_iff.mp h with ⟨middle, hfront, htag⟩ | ⟨rest, hsep, hrest⟩
  · exact .inr (.inr ⟨middle, hfront, by rw [htag, List.append_assoc]⟩)
  · -- the rest of the first separator is the beginning of the second one
    have hlength := congrArg List.length hsep
    have hfront : front = (ascii "/tags/").take front.length := by
      rw [hsep, List.take_left]
    have hdrop : rest = (ascii "/tags/").drop front.length := by
      rw [hsep, List.drop_left]
    -- it is a prefix and a suffix of the separator
    have hborder : rest <+: ascii "/tags/" := by
      have hlong : ascii "/tags/" <+: rest ++ tag := hrest ▸ List.prefix_append _ _
      apply List.prefix_of_prefix_length_le (List.prefix_append rest tag) hlong
      rw [hlength, List.length_append]
      omega
    have hle : front.length ≤ 6 := by
      rw [List.length_append] at hlength
      have hsix : (ascii "/tags/").length = 6 := rfl
      omega
    rcases separator_border front.length hle (hdrop ▸ hborder) with hk | hk | hk
    · rw [hk] at hfront hdrop
      subst hfront hdrop
      exact .inl ⟨rfl, (List.append_cancel_left hrest).symm⟩
    · rw [hk] at hfront hdrop
      subst hfront hdrop
      exact .inr (.inl ⟨rfl, (List.append_cancel_left
        (show ascii "/" ++ (ascii "tags/" ++ tag') = ascii "/" ++ tag from hrest)).symm⟩)
    · rw [hk] at hfront hdrop
      subst hfront hdrop
      exact .inr (.inr ⟨[], rfl, hrest.symm⟩)

/-- Equal topics: equal names, or one of the two overlaps. -/
theorem names_of_forwardTopic_eq {topicPrefix : Bytes} {message other : Message}
    (h : forwardTopic topicPrefix message = forwardTopic topicPrefix other) :
    (message.deviceId = other.deviceId ∧ message.tagName = other.tagName) ∨
      Overlap message other ∨ Overlap other message := by
  simp only [forwardTopic, List.append_assoc, List.append_cancel_left_eq] at h
  rcases List.append_eq_append_iff.mp h with ⟨front, hdevice, hrest⟩ | ⟨front, hdevice, hrest⟩
  · rcases separator_split hrest with ⟨rfl, htag⟩ | ⟨rfl, htag⟩ | ⟨middle, rfl, htag⟩
    · exact .inl ⟨by rw [hdevice, List.append_nil], htag⟩
    · exact .inr (.inl (.inr ⟨hdevice, htag⟩))
    · exact .inr (.inl (.inl ⟨middle, by rw [hdevice, List.append_assoc], htag⟩))
  · rcases separator_split hrest with ⟨rfl, htag⟩ | ⟨rfl, htag⟩ | ⟨middle, rfl, htag⟩
    · exact .inl ⟨by rw [hdevice, List.append_nil], htag.symm⟩
    · exact .inr (.inr (.inr ⟨hdevice, htag⟩))
    · exact .inr (.inr (.inl ⟨middle, by rw [hdevice, List.append_assoc], htag⟩))

/-- The overlaps do give equal topics. -/
theorem forwardTopic_eq_of_overlap (topicPrefix : Bytes) {message other : Message}
    (h : Overlap message other) :
    forwardTopic topicPrefix message = forwardTopic topicPrefix other := by
  rcases h with ⟨middle, hdevice, htag⟩ | ⟨hdevice, htag⟩
  · simp [forwardTopic, hdevice, htag]
  · simp only [forwardTopic, hdevice, htag, List.append_assoc]
    rfl

/-- Names that overlap are not equal. -/
theorem Overlap.deviceId_ne {message other : Message} (h : Overlap message other) :
    message.deviceId ≠ other.deviceId := by
  intro heq
  rcases h with ⟨middle, hdevice, -⟩ | ⟨hdevice, -⟩
  · have hlength := congrArg List.length hdevice
    have hsix : (ascii "/tags/").length = 6 := rfl
    rw [← heq, List.length_append, List.length_append] at hlength
    omega
  · have hlength := congrArg List.length hdevice
    have hfive : (ascii "/tags").length = 5 := rfl
    rw [← heq, List.length_append] at hlength
    omega

/-- The device name has a `/tags` inside, at its end or with a slash after it. -/
def DeviceSplits (deviceId : Bytes) : Prop :=
  ∃ front, front ≠ [] ∧ (deviceId = front ++ ascii "/tags" ∨
    ∃ rest, deviceId = front ++ ascii "/tags/" ++ rest)

/-- The tag name has a `tags/` inside, at its start or with a slash before it. -/
def TagSplits (tagName : Bytes) : Prop :=
  ∃ rest, rest ≠ [] ∧ (tagName = ascii "tags/" ++ rest ∨
    ∃ front, tagName = front ++ ascii "/tags/" ++ rest)

/-- The message is one that `forwardMessage` does not ignore. -/
def Message.Named (message : Message) : Prop :=
  message.deviceId ≠ [] ∧ message.tagName ≠ []

/-- No other device tag has the topic of this one. -/
def OwnTopic (topicPrefix : Bytes) (message : Message) : Prop :=
  ∀ other : Message, other.Named →
    forwardTopic topicPrefix message = forwardTopic topicPrefix other →
    message.deviceId = other.deviceId ∧ message.tagName = other.tagName

/-- A device tag has a topic of its own exactly when neither name can be split. -/
theorem ownTopic_iff (topicPrefix : Bytes) (message : Message) (hnamed : message.Named) :
    OwnTopic topicPrefix message ↔
      ¬DeviceSplits message.deviceId ∧ ¬TagSplits message.tagName := by
  obtain ⟨hdevice, htag⟩ := hnamed
  constructor
  · intro h
    -- a name that can be split is shared with the message of the other split
    have hno : ∀ deviceId tagName, deviceId ≠ [] → tagName ≠ [] →
        Overlap message { message with deviceId, tagName } ∨
          Overlap { message with deviceId, tagName } message → False := by
      intro deviceId tagName hd ht hoverlap
      rcases hoverlap with hoverlap | hoverlap
      · exact hoverlap.deviceId_ne
          (h _ ⟨hd, ht⟩ (forwardTopic_eq_of_overlap topicPrefix hoverlap)).1
      · exact hoverlap.deviceId_ne
          (h _ ⟨hd, ht⟩ (forwardTopic_eq_of_overlap topicPrefix hoverlap).symm).1.symm
    constructor
    · rintro ⟨front, hfront, heq | ⟨rest, heq⟩⟩
      · exact hno front (ascii "tags/" ++ message.tagName) hfront (by simp [htag])
          (.inr (.inr ⟨heq, rfl⟩))
      · exact hno front (rest ++ ascii "/tags/" ++ message.tagName) hfront (by simp [htag])
          (.inr (.inl ⟨rest, heq, rfl⟩))
    · rintro ⟨rest, hrest, heq | ⟨front, heq⟩⟩
      · exact hno (message.deviceId ++ ascii "/tags") rest (by simp [hdevice]) hrest
          (.inl (.inr ⟨rfl, heq⟩))
      · exact hno (message.deviceId ++ ascii "/tags/" ++ front) rest (by simp [hdevice]) hrest
          (.inl (.inl ⟨front, rfl, heq⟩))
  · rintro ⟨hdeviceSplits, htagSplits⟩ other hother htopic
    rcases names_of_forwardTopic_eq htopic with hnames | hoverlap | hoverlap
    · exact hnames
    · -- the tag name would be split before the other tag name
      exfalso
      rcases hoverlap with ⟨middle, -, heq⟩ | ⟨-, heq⟩
      · exact htagSplits ⟨_, hother.2, .inr ⟨middle, heq⟩⟩
      · exact htagSplits ⟨_, hother.2, .inl heq⟩
    · exfalso
      rcases hoverlap with ⟨middle, heq, -⟩ | ⟨heq, -⟩
      · exact hdeviceSplits ⟨_, hother.1, .inr ⟨middle, heq⟩⟩
      · exact hdeviceSplits ⟨_, hother.1, .inl heq⟩

/-- Equal topics mean equal names exactly when the names do not overlap. -/
theorem forwardTopic_inj_iff (topicPrefix : Bytes) (message other : Message) :
    (forwardTopic topicPrefix message = forwardTopic topicPrefix other →
        message.deviceId = other.deviceId ∧ message.tagName = other.tagName) ↔
      ¬(Overlap message other ∨ Overlap other message) := by
  constructor
  · rintro h (hoverlap | hoverlap)
    · exact hoverlap.deviceId_ne (h (forwardTopic_eq_of_overlap topicPrefix hoverlap)).1
    · exact hoverlap.deviceId_ne (h (forwardTopic_eq_of_overlap topicPrefix hoverlap).symm).1.symm
  · intro hno htopic
    rcases names_of_forwardTopic_eq htopic with hnames | hoverlap | hoverlap
    · exact hnames
    · exact absurd (.inl hoverlap) hno
    · exact absurd (.inr hoverlap) hno

/-- Neither name has a NUL. -/
def Message.NulFree (message : Message) : Prop :=
  0 ∉ message.deviceId ∧ 0 ∉ message.tagName

/-- A topic without NUL reaches libmosquitto whole. -/
theorem cString_forwardTopic {topicPrefix : Bytes} {message : Message}
    (hnul : 0 ∉ topicPrefix) (h : message.NulFree) :
    cString (forwardTopic topicPrefix message) = forwardTopic topicPrefix message := by
  have hslash : 0 ∉ ascii "/" := by decide
  have htags : 0 ∉ ascii "/tags/" := by decide
  rw [cString_eq_self_iff]
  simp only [forwardTopic, List.mem_append, hnul, hslash, htags, h.1, h.2, or_self,
    not_false_eq_true]

/-- **Topics.** For any prefix and any two messages: equal topics mean equal names exactly
    when the names do not overlap. So a device tag has a topic of its own exactly when its
    device name has no `/tags` behind its first byte that ends the name or is followed by a
    slash, and its tag name has no `tags/` before its last byte that starts the name or
    follows a slash. The topics here are the ones that `forwardMessage` builds; of names and
    a prefix without NUL the same is true of the C strings that libmosquitto reads. -/
theorem topic_unique_iff (topicPrefix : Bytes) (message : Message) (hnamed : message.Named) :
    (∀ other : Message, other.Named →
      ((forwardTopic topicPrefix message = forwardTopic topicPrefix other →
          message.deviceId = other.deviceId ∧ message.tagName = other.tagName) ↔
        ¬(Overlap message other ∨ Overlap other message))) ∧
    (OwnTopic topicPrefix message ↔
      ¬DeviceSplits message.deviceId ∧ ¬TagSplits message.tagName) ∧
    (0 ∉ topicPrefix → message.NulFree → ∀ other : Message, other.Named → other.NulFree →
      ((cString (forwardTopic topicPrefix message) = cString (forwardTopic topicPrefix other) →
          message.deviceId = other.deviceId ∧ message.tagName = other.tagName) ↔
        ¬(Overlap message other ∨ Overlap other message))) := by
  refine ⟨?_, ownTopic_iff topicPrefix message hnamed, ?_⟩
  · intro other _
    exact forwardTopic_inj_iff topicPrefix message other
  · intro hnul hmessage other _ hother
    rw [cString_forwardTopic hnul hmessage, cString_forwardTopic hnul hother]
    exact forwardTopic_inj_iff topicPrefix message other

/-- A message of a device tag. -/
def namedMessage (deviceId tagName : Bytes) : Message where
  topic := []
  deviceId := deviceId
  tagName := tagName
  value := .monostate
  quality := .good
  timestamp := 0

theorem topic_unique_sample :
    OwnTopic (ascii "edgelink/devices") (namedMessage (ascii "d") (ascii "t")) ∧
    ¬(Overlap (namedMessage (ascii "d") (ascii "t")) (namedMessage (ascii "d") (ascii "u")) ∨
      Overlap (namedMessage (ascii "d") (ascii "u")) (namedMessage (ascii "d") (ascii "t"))) := by
  obtain ⟨-, hown, htopics⟩ := topic_unique_iff (ascii "edgelink/devices")
    (namedMessage (ascii "d") (ascii "t")) ⟨by decide, by decide⟩
  constructor
  · apply hown.mpr
    constructor
    · rintro ⟨front, hfront, heq | ⟨rest, heq⟩⟩
      · have hlength := congrArg List.length heq
        simp [namedMessage, ascii] at hlength
      · have hlength := congrArg List.length heq
        simp [namedMessage, ascii] at hlength
        omega
    · rintro ⟨rest, hrest, heq | ⟨front, heq⟩⟩
      · have hlength := congrArg List.length heq
        simp [namedMessage, ascii] at hlength
      · have hlength := congrArg List.length heq
        simp [namedMessage, ascii] at hlength
        omega
  · -- the two C strings differ
    apply (htopics (by decide) ⟨by decide, by decide⟩ (namedMessage (ascii "d") (ascii "u"))
      ⟨by decide, by decide⟩ ⟨by decide, by decide⟩).mp
    intro htopic
    exact absurd htopic (by decide)

/-- The tag `b/tags/c` of the device `a` has the topic of the tag `c` of the device
    `a/tags/b`. -/
theorem topic_shared :
    ¬ ∀ (topicPrefix : Bytes) (message other : Message), message.Named → other.Named →
      forwardTopic topicPrefix message = forwardTopic topicPrefix other →
      message.deviceId = other.deviceId ∧ message.tagName = other.tagName := by
  intro h
  have hnames := h (ascii "edgelink/devices") (namedMessage (ascii "a") (ascii "b/tags/c"))
    (namedMessage (ascii "a/tags/b") (ascii "c")) ⟨by decide, by decide⟩
    ⟨by decide, by decide⟩ (by decide)
  exact absurd hnames.1 (by decide)

end EdgeLink
