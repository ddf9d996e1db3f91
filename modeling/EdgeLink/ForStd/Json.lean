import EdgeLink.ForStd.JsonTokens

/-!
# JSON texts

The grammar of RFC 8259 over bytes, with the value that a text denotes, and a reader.

* `Value`, `Denotes`: the productions of the grammar. `Value` is counted by the depth of its
  arrays and objects.
* `read`: a reader by recursive descent.

The main result is `read_iff`: the reader accepts the texts of the grammar and no others,
and returns what they denote. So a text denotes at most one value (`Denotes.unique`). No text
of the grammar has a NUL (`Denotes.zero_not_mem`).
-/

open CText

namespace Json

/-! ## Lists of items -/

def isWhitespace (c : UInt8) : Bool := c = 0x20 || c = 0x09 || c = 0x0A || c = 0x0D

/-- White space. -/
def Blank (text : List UInt8) : Prop := ∀ c ∈ text, isWhitespace c = true

/-- `text.dropWhile isWhitespace`. -/
abbrev skip (text : List UInt8) : List UInt8 := text.dropWhile isWhitespace

theorem blank_takeWhile (text : List UInt8) : Blank (text.takeWhile isWhitespace) :=
  fun _ hc => List.mem_takeWhile_imp hc

/-- What is skipped stands in front of the rest. -/
theorem eq_of_skip {text rest : List UInt8} (h : skip text = rest) :
    text = text.takeWhile isWhitespace ++ rest := by
  rw [← h, List.takeWhile_append_dropWhile]

/-- Where there is no white space, nothing is skipped. -/
theorem skip_of_stops {text : List UInt8} (htext : Stops isWhitespace text) :
    skip text = text := by
  cases text with
  | nil => rfl
  | cons c text => exact List.dropWhile_cons_of_neg (by simp [htext.head])

/-- White space is skipped up to the first other byte. -/
theorem skip_append {before text : List UInt8} (hbefore : Blank before)
    (htext : Stops isWhitespace text) : skip (before ++ text) = text :=
  (span_append hbefore htext).2

/-- White space does not go on a number. -/
theorem isNumberByte_of_isWhitespace {c : UInt8} (h : isWhitespace c = true) :
    isNumberByte c = false := by
  simp only [isWhitespace, Bool.or_eq_true, decide_eq_true_eq] at h
  rcases h with ((rfl | rfl) | rfl) | rfl
  · decide
  · decide
  · decide
  · decide

theorem Blank.ends {text : List UInt8} (h : Blank text) : Ends text := by
  intro c hc
  exact isNumberByte_of_isWhitespace (h c (List.mem_of_mem_head? hc))

/-- A number can end before white space and a separator. -/
theorem ends_append {after : List UInt8} (hafter : Blank after) {c : UInt8}
    (hc : isNumberByte c = false) (text : List UInt8) : Ends (after ++ c :: text) := by
  cases after with
  | nil => exact Stops.cons hc text
  | cons space after => exact Stops.cons hafter.ends.head _

variable {α : Type}

/-- One or more items with commas between them. -/
inductive Separated (Item : α → List UInt8 → Prop) : List α → List UInt8 → Prop
  | one {item : α} {before text after : List UInt8} (hbefore : Blank before)
      (hitem : Item item text) (hafter : Blank after) :
    Separated Item [item] (before ++ (text ++ after))
  | cons {item : α} {items : List α} {before text after body : List UInt8}
      (hbefore : Blank before) (hitem : Item item text) (hafter : Blank after)
      (hrest : Separated Item items body) :
    Separated Item (item :: items) (before ++ (text ++ (after ++ 0x2C :: body)))

/-- Items in brackets. -/
inductive Enclosed (Item : α → List UInt8 → Prop) (opening closing : UInt8) :
    List α → List UInt8 → Prop
  | empty {blank : List UInt8} (hblank : Blank blank) :
    Enclosed Item opening closing [] (opening :: (blank ++ [closing]))
  | items {items : List α} {body : List UInt8} (hbody : Separated Item items body) :
    Enclosed Item opening closing items (opening :: (body ++ [closing]))

/-- Items up to the closing bracket. -/
def readSeparated (readItem : List UInt8 → Option (α × List UInt8)) (closing : UInt8) :
    Nat → List UInt8 → Option (List α × List UInt8)
  | 0, _ => none
  | fuel + 1, text =>
    match readItem (skip text) with
    | none => none
    | some (item, rest) =>
      match skip rest with
      | [] => none
      | c :: rest =>
        if c = closing then some ([item], rest)
        else if c = 0x2C then
          (readSeparated readItem closing fuel rest).map fun (items, rest) =>
            (item :: items, rest)
        else none

/-- What follows an opening bracket. -/
def readEnclosed (readItem : List UInt8 → Option (α × List UInt8)) (closing : UInt8)
    (text : List UInt8) : Option (List α × List UInt8) :=
  match skip text with
  | [] => none
  | c :: rest =>
    if c = closing then some ([], rest) else readSeparated readItem closing text.length text

/-- The items can be told from white space and closing brackets. -/
def Starts (Item : α → List UInt8 → Prop) : Prop :=
  ∀ item text, Item item text →
    ∃ c tail, text = c :: tail ∧ isWhitespace c = false ∧ c ≠ 0x5D ∧ c ≠ 0x7D

/-- The reader reads items to their end. -/
def Complete (Item : α → List UInt8 → Prop)
    (readItem : List UInt8 → Option (α × List UInt8)) : Prop :=
  ∀ item text rest, Item item text → Ends rest → readItem (text ++ rest) = some (item, rest)

/-- The reader reads nothing but items. -/
def Sound (Item : α → List UInt8 → Prop)
    (readItem : List UInt8 → Option (α × List UInt8)) : Prop :=
  ∀ item text rest, readItem text = some (item, rest) →
    ∃ body, text = body ++ rest ∧ Item item body

variable {Item : α → List UInt8 → Prop} {readItem : List UInt8 → Option (α × List UInt8)}

theorem Starts.stops (h : Starts Item) {item : α} {text : List UInt8} (hitem : Item item text)
    (rest : List UInt8) : Stops isWhitespace (text ++ rest) := by
  obtain ⟨c, tail, rfl, hspace, -⟩ := h item text hitem
  exact Stops.cons hspace _

/-- A closing bracket. -/
def isClosing (c : UInt8) : Prop := c = 0x5D ∨ c = 0x7D

theorem isClosing.number {c : UInt8} (h : isClosing c) : isNumberByte c = false := by
  rcases h with rfl | rfl
  · decide
  · decide

theorem isClosing.whitespace {c : UInt8} (h : isClosing c) : isWhitespace c = false := by
  rcases h with rfl | rfl
  · decide
  · decide

theorem isClosing.comma {c : UInt8} (h : isClosing c) : 0x2C ≠ c := by
  rcases h with rfl | rfl
  · decide
  · decide

/-- The items are read up to the closing bracket. -/
theorem readSeparated_append (hstarts : Starts Item) (hread : Complete Item readItem)
    {closing : UInt8} (hclosing : isClosing closing) {items : List α} {body : List UInt8}
    (h : Separated Item items body) (rest : List UInt8) :
    ∀ fuel, body.length ≤ fuel → readSeparated readItem closing (fuel + 1)
      (body ++ closing :: rest) = some (items, rest) := by
  induction h with
  | @one item before text after hbefore hitem hafter =>
    intro fuel _
    rw [readSeparated, List.append_assoc, List.append_assoc,
      skip_append hbefore (hstarts.stops hitem _),
      hread _ _ _ hitem (ends_append hafter hclosing.number rest)]
    dsimp only
    rw [skip_append hafter (Stops.cons hclosing.whitespace rest)]
    dsimp only
    rw [if_pos rfl]
  | @cons item items before text after body hbefore hitem hafter hrest ih =>
    intro fuel hfuel
    simp only [List.length_append, List.length_cons] at hfuel
    -- the comma takes at least one byte, so there is fuel for the next item
    obtain ⟨fuel, rfl⟩ : ∃ n, fuel = n + 1 := Nat.exists_eq_succ_of_ne_zero (by omega)
    rw [readSeparated, List.append_assoc, List.append_assoc, List.append_assoc,
      List.cons_append, skip_append hbefore (hstarts.stops hitem _),
      hread _ _ _ hitem (ends_append hafter (by decide) _)]
    dsimp only
    rw [skip_append hafter (Stops.cons (by decide) _)]
    dsimp only
    rw [if_neg hclosing.comma, if_pos rfl, ih fuel (by omega)]
    rfl

/-- An item and the comma behind it are read, and then the other items. -/
theorem readSeparated_comma (hstarts : Starts Item) (hread : Complete Item readItem)
    {closing : UInt8} (hclosing : isClosing closing) {item : α} {text : List UInt8}
    (hitem : Item item text) (body : List UInt8) (fuel : Nat) :
    readSeparated readItem closing (fuel + 1) (text ++ 0x2C :: body) =
      (readSeparated readItem closing fuel body).map fun (items, rest) =>
        (item :: items, rest) := by
  rw [readSeparated, skip_of_stops (hstarts.stops hitem _),
    hread _ _ _ hitem (Stops.cons (by decide) body)]
  dsimp only
  rw [skip_of_stops (Stops.cons (by decide) body)]
  dsimp only
  rw [if_neg hclosing.comma, if_pos rfl]

/-- So are items in brackets. -/
theorem readEnclosed_append (hstarts : Starts Item) (hread : Complete Item readItem)
    {opening closing : UInt8} (hclosing : isClosing closing) {items : List α}
    {text : List UInt8} (h : Enclosed Item opening closing items text) (rest : List UInt8) :
    ∃ body, text = opening :: body ∧
      readEnclosed readItem closing (body ++ rest) = some (items, rest) := by
  cases h with
  | @empty blank hblank =>
    refine ⟨blank ++ [closing], rfl, ?_⟩
    have hskip : skip (blank ++ [closing] ++ rest) = closing :: rest := by
      rw [List.append_assoc]
      exact skip_append hblank (Stops.cons hclosing.whitespace rest)
    rw [readEnclosed, hskip]
    exact if_pos rfl
  | @items items body hbody =>
    refine ⟨body ++ [closing], rfl, ?_⟩
    -- the first item does not look like the closing bracket
    obtain ⟨before, tail, c, hbefore, rfl, hspace, hne⟩ : ∃ before tail c, Blank before ∧
        body = before ++ c :: tail ∧ isWhitespace c = false ∧ c ≠ closing := by
      have hhead : ∀ item text, Item item text → ∃ c tail, text = c :: tail ∧
          isWhitespace c = false ∧ c ≠ closing := by
        intro item text hitem
        obtain ⟨c, tail, htext, hspace, hbracket, hbrace⟩ := hstarts item text hitem
        refine ⟨c, tail, htext, hspace, ?_⟩
        rcases hclosing with rfl | rfl
        · exact hbracket
        · exact hbrace
      cases hbody with
      | @one item before text after hbefore hitem hafter =>
        obtain ⟨c, tail, rfl, hc⟩ := hhead item text hitem
        exact ⟨before, _, c, hbefore, rfl, hc⟩
      | @cons item items before text after body hbefore hitem hafter hrest =>
        obtain ⟨c, tail, rfl, hc⟩ := hhead item text hitem
        exact ⟨before, _, c, hbefore, rfl, hc⟩
    have hskip : skip (before ++ c :: tail ++ [closing] ++ rest) =
        c :: (tail ++ [closing] ++ rest) := by
      simp only [List.append_assoc, List.cons_append]
      exact skip_append hbefore (Stops.cons hspace _)
    have hseparated := readSeparated_append hstarts hread hclosing hbody rest
      ((before ++ c :: tail).length + rest.length) (Nat.le_add_right _ _)
    rw [readEnclosed, hskip]
    dsimp only
    rw [if_neg hne, List.append_assoc]
    have hlength : (before ++ c :: tail ++ ([closing] ++ rest)).length =
        (before ++ c :: tail).length + rest.length + 1 := by
      simp only [List.length_append, List.length_cons, List.length_nil]
      omega
    rw [hlength]
    exact hseparated

theorem readSeparated_sound (hread : Sound Item readItem) (closing : UInt8) (fuel : Nat) :
    ∀ {items : List α} {text rest : List UInt8},
      readSeparated readItem closing fuel text = some (items, rest) →
      ∃ body, text = body ++ closing :: rest ∧ Separated Item items body := by
  induction fuel with
  | zero =>
    intro items text rest h
    cases h
  | succ fuel ih =>
    intro items text rest h
    rw [readSeparated] at h
    split at h
    · cases h
    · rename_i item text' hitem
      obtain ⟨body, hbody, hof⟩ := hread _ _ _ hitem
      have htext := eq_of_skip hbody
      split at h
      · cases h
      · rename_i c tail hskip
        have htext' := eq_of_skip hskip
        split at h
        · rename_i hc
          obtain ⟨rfl, rfl⟩ := Prod.mk.inj (Option.some.inj h)
          refine ⟨_, ?_, .one (blank_takeWhile text) hof (blank_takeWhile text')⟩
          rw [List.append_assoc, List.append_assoc, ← hc, ← htext', ← htext]
        split at h
        · rename_i hc
          obtain ⟨⟨items', rest'⟩, hitems, heq⟩ := Option.map_eq_some_iff.mp h
          obtain ⟨rfl, rfl⟩ := Prod.mk.inj heq
          obtain ⟨more, hmore, hrest⟩ := ih hitems
          refine ⟨_, ?_, .cons (blank_takeWhile text) hof (blank_takeWhile text') hrest⟩
          rw [List.append_assoc, List.append_assoc, List.append_assoc, List.cons_append, ← hmore,
            ← hc, ← htext', ← htext]
        · cases h

theorem readEnclosed_sound (hread : Sound Item readItem) (opening closing : UInt8)
    {items : List α} {text rest : List UInt8}
    (h : readEnclosed readItem closing text = some (items, rest)) :
    ∃ body, opening :: text = body ++ rest ∧ Enclosed Item opening closing items body := by
  rw [readEnclosed] at h
  split at h
  · cases h
  · rename_i c tail hskip
    have htext := eq_of_skip hskip
    split at h
    · rename_i hc
      obtain ⟨rfl, rfl⟩ := Prod.mk.inj (Option.some.inj h)
      refine ⟨_, ?_, .empty (blank_takeWhile text)⟩
      rw [List.cons_append, List.append_assoc, ← hc]
      exact congrArg _ htext
    · obtain ⟨body, hbody, hseparated⟩ := readSeparated_sound hread closing _ h
      refine ⟨_, ?_, .items hseparated⟩
      rw [List.cons_append, List.append_assoc, hbody]
      rfl

/-! ## Values -/

/-- `null`, `true`, `false`. -/
def nullText : List UInt8 := [0x6E, 0x75, 0x6C, 0x6C]
def trueText : List UInt8 := [0x74, 0x72, 0x75, 0x65]
def falseText : List UInt8 := [0x66, 0x61, 0x6C, 0x73, 0x65]

/-- The text of a value that is neither an array nor an object. -/
inductive Scalar : Json → List UInt8 → Prop
  | nullLiteral : Scalar .null nullText
  | trueLiteral : Scalar (.bool true) trueText
  | falseLiteral : Scalar (.bool false) falseText
  | number {text : List UInt8} {mantissa exponent : Int}
      (hnumber : NumberText text mantissa exponent) : Scalar (.number mantissa exponent) text
  | string {body bytes : List UInt8} (hbody : Characters body bytes) :
    Scalar (.string bytes) (0x22 :: (body ++ [0x22]))

/-- A name, a colon and a value. -/
inductive Member (Value : Json → List UInt8 → Prop) : List UInt8 × Json → List UInt8 → Prop
  | mk {name body before after text : List UInt8} {value : Json}
      (hname : Characters body name) (hbefore : Blank before) (hafter : Blank after)
      (hvalue : Value value text) :
    Member Value (name, value)
      (0x22 :: (body ++ 0x22 :: (before ++ 0x3A :: (after ++ text))))

/-- The text of a value whose arrays and objects are at most `depth` deep, where a scalar
    has depth 1. -/
def Value : Nat → Json → List UInt8 → Prop
  | 0, _, _ => False
  | depth + 1, value, text =>
    Scalar value text ∨
    (∃ elements, value = .array elements ∧
      Enclosed (Value depth) 0x5B 0x5D elements text) ∨
    ∃ members, value = .object members ∧
      Enclosed (Member (Value depth)) 0x7B 0x7D members text

/-- The text denotes the value: it is the text of the value with white space around it. -/
def Denotes (text : List UInt8) (value : Json) : Prop :=
  ∃ depth before body after, Blank before ∧ Blank after ∧ Value depth value body ∧
    text = before ++ (body ++ after)

/-- The texts of the grammar. -/
def IsJson (text : List UInt8) : Prop := ∃ value, Denotes text value

def readWord (word : List UInt8) (value : Json) (text : List UInt8) :
    Option (Json × List UInt8) :=
  if word.isPrefixOf text then some (value, text.drop word.length) else none

/-- The first byte tells the kind of a value. -/
def readScalar : List UInt8 → Option (Json × List UInt8)
  | [] => none
  | c :: text =>
    if c = 0x6E then readWord nullText .null (c :: text)
    else if c = 0x74 then readWord trueText (.bool true) (c :: text)
    else if c = 0x66 then readWord falseText (.bool false) (c :: text)
    else if c = 0x22 then
      (readString (c :: text)).map fun (bytes, rest) => (.string bytes, rest)
    else readNumber (c :: text)

def readMember (readValue : List UInt8 → Option (Json × List UInt8)) (text : List UInt8) :
    Option ((List UInt8 × Json) × List UInt8) :=
  match readString text with
  | none => none
  | some (name, rest) =>
    match skip rest with
    | [] => none
    | c :: rest =>
      if c = 0x3A then
        (readValue (skip rest)).map fun (value, rest) => ((name, value), rest)
      else none

def readValue : Nat → List UInt8 → Option (Json × List UInt8)
  | 0, _ => none
  | _ + 1, [] => none
  | depth + 1, c :: text =>
    if c = 0x5B then
      (readEnclosed (readValue depth) 0x5D text).map fun (elements, rest) =>
        (.array elements, rest)
    else if c = 0x7B then
      (readEnclosed (readMember (readValue depth)) 0x7D text).map fun (members, rest) =>
        (.object members, rest)
    else readScalar (c :: text)

/-- The reader. No text is deeper than it is long. -/
def read (text : List UInt8) : Option Json :=
  match readValue text.length (skip text) with
  | none => none
  | some (value, rest) => if rest.all isWhitespace then some value else none

/-! ### The reader is complete -/

/-- What a number starts with. -/
theorem NumberText.head {text : List UInt8} {mantissa exponent : Int}
    (h : NumberText text mantissa exponent) :
    ∃ c tail, text = c :: tail ∧ (c = 0x2D ∨ isDigit c = true) := by
  obtain ⟨negative, integer, fraction, digits, power, value, hinteger, -, -⟩ := h
  obtain ⟨hne, hdigits⟩ := isDigit_of_isNumeral hinteger
  cases negative with
  | true => exact ⟨0x2D, _, rfl, .inl rfl⟩
  | false =>
    obtain ⟨c, tail, rfl⟩ := List.exists_cons_of_ne_nil hne
    exact ⟨c, _, rfl, .inr (hdigits c List.mem_cons_self)⟩

/-- A byte that starts a number starts nothing else. -/
theorem numberHead_ne {c : UInt8} (h : c = 0x2D ∨ isDigit c = true) (d : UInt8)
    (hminus : d ≠ 0x2D) (hdigit : isDigit d = false) : c ≠ d := by
  rintro rfl
  rcases h with h | h
  · exact hminus h
  · rw [hdigit] at h
    cases h

/-- Values start with a byte of their own. -/
theorem Scalar.head {value : Json} {text : List UInt8} (h : Scalar value text) :
    ∃ c tail, text = c :: tail ∧ isWhitespace c = false ∧
      c ≠ 0x5D ∧ c ≠ 0x7D ∧ c ≠ 0x5B ∧ c ≠ 0x7B := by
  cases h with
  | nullLiteral => exact ⟨_, _, rfl, by decide⟩
  | trueLiteral => exact ⟨_, _, rfl, by decide⟩
  | falseLiteral => exact ⟨_, _, rfl, by decide⟩
  | string hbody => exact ⟨_, _, rfl, by decide⟩
  | number hnumber =>
    obtain ⟨c, tail, htext, hc⟩ := hnumber.head
    have hne := numberHead_ne hc
    have hspace : isWhitespace c = false := by
      simp only [isWhitespace, Bool.or_eq_false_iff, decide_eq_false_iff_not]
      exact ⟨⟨⟨hne _ (by decide) (by decide), hne _ (by decide) (by decide)⟩,
        hne _ (by decide) (by decide)⟩, hne _ (by decide) (by decide)⟩
    exact ⟨c, tail, htext, hspace, hne _ (by decide) (by decide), hne _ (by decide) (by decide),
      hne _ (by decide) (by decide), hne _ (by decide) (by decide)⟩

theorem Enclosed.head {Item : α → List UInt8 → Prop} {opening closing : UInt8} {items : List α}
    {text : List UInt8} (h : Enclosed Item opening closing items text) :
    ∃ tail, text = opening :: tail := by
  cases h with
  | empty hblank => exact ⟨_, rfl⟩
  | items hbody => exact ⟨_, rfl⟩

theorem starts_value (depth : Nat) : Starts (Value depth) := by
  intro value text h
  cases depth with
  | zero => exact h.elim
  | succ depth =>
    rcases h with h | ⟨elements, -, h⟩ | ⟨members, -, h⟩
    · obtain ⟨c, tail, htext, hspace, hbracket, hbrace, -⟩ := h.head
      exact ⟨c, tail, htext, hspace, hbracket, hbrace⟩
    · obtain ⟨tail, rfl⟩ := h.head
      exact ⟨_, _, rfl, by decide⟩
    · obtain ⟨tail, rfl⟩ := h.head
      exact ⟨_, _, rfl, by decide⟩

theorem starts_member (V : Json → List UInt8 → Prop) : Starts (Member V) := by
  rintro _ _ ⟨-, -, -, -⟩
  exact ⟨_, _, rfl, by decide⟩

theorem readWord_append (word : List UInt8) (value : Json) (rest : List UInt8) :
    readWord word value (word ++ rest) = some (value, rest) := by
  rw [readWord, if_pos (List.isPrefixOf_iff_prefix.mpr (List.prefix_append word rest)),
    List.drop_left]

theorem readScalar_append : Complete Scalar readScalar := by
  intro value text rest h hrest
  cases h with
  | nullLiteral => exact readWord_append nullText _ rest
  | trueLiteral => exact readWord_append trueText _ rest
  | falseLiteral => exact readWord_append falseText _ rest
  | string hbody =>
    have hread := readString_append hbody rest
    simp only [List.cons_append, List.append_assoc, List.nil_append]
    show (readString _).map _ = _
    rw [hread]
    rfl
  | number hnumber =>
    obtain ⟨c, tail, rfl, hc⟩ := hnumber.head
    have hne := numberHead_ne hc
    have hread := readNumber_append hnumber hrest
    rw [List.cons_append] at hread ⊢
    rw [readScalar, if_neg (hne _ (by decide) (by decide)),
      if_neg (hne _ (by decide) (by decide)), if_neg (hne _ (by decide) (by decide)),
      if_neg (hne _ (by decide) (by decide)), hread]

theorem readMember_append {V : Json → List UInt8 → Prop}
    {readV : List UInt8 → Option (Json × List UInt8)} (hstarts : Starts V)
    (hread : Complete V readV) : Complete (Member V) (readMember readV) := by
  rintro _ _ rest ⟨hname, hbefore, hafter, hvalue⟩ hrest
  simp only [List.cons_append, List.append_assoc]
  rw [readMember, readString_append hname]
  dsimp only
  rw [skip_append hbefore (Stops.cons (by decide) _)]
  dsimp only
  rw [if_pos rfl, skip_append hafter (hstarts.stops hvalue rest), hread _ _ _ hvalue hrest]
  rfl

/-- A value is read to its end. -/
theorem readValue_append (depth : Nat) : Complete (Value depth) (readValue depth) := by
  induction depth with
  | zero => exact fun _ _ _ h => h.elim
  | succ depth ih =>
    rintro value text rest (h | ⟨elements, rfl, h⟩ | ⟨members, rfl, h⟩) hrest
    · obtain ⟨c, tail, rfl, -, -, -, hbracket, hbrace⟩ := h.head
      have hread := readScalar_append _ _ rest h hrest
      rw [List.cons_append] at hread ⊢
      rw [readValue, if_neg hbracket, if_neg hbrace, hread]
    · obtain ⟨body, rfl, hread⟩ :=
        readEnclosed_append (starts_value depth) ih (.inl rfl) h rest
      rw [List.cons_append, readValue, if_pos rfl, hread]
      rfl
    · obtain ⟨body, rfl, hread⟩ := readEnclosed_append (starts_member _)
        (readMember_append (starts_value depth) ih) (.inr rfl) h rest
      rw [List.cons_append, readValue, if_neg (by decide), if_pos rfl, hread]
      rfl

/-! ### Depth -/

theorem Separated.imp {Item Item' : α → List UInt8 → Prop} {items : List α}
    {body : List UInt8} (h : Separated Item items body) :
    (∀ item text, text.length ≤ body.length → Item item text → Item' item text) →
      Separated Item' items body := by
  induction h with
  | one hbefore hitem hafter =>
    intro himp
    refine .one hbefore (himp _ _ ?_ hitem) hafter
    simp only [List.length_append]
    omega
  | cons hbefore hitem hafter hrest ih =>
    intro himp
    refine .cons hbefore (himp _ _ ?_ hitem) hafter (ih fun item text hle hof => ?_)
    · simp only [List.length_append]
      omega
    · refine himp item text ?_ hof
      simp only [List.length_append, List.length_cons]
      omega

theorem Enclosed.imp {Item Item' : α → List UInt8 → Prop} {opening closing : UInt8}
    {items : List α} {text : List UInt8} (h : Enclosed Item opening closing items text)
    (himp : ∀ item body, body.length < text.length → Item item body → Item' item body) :
    Enclosed Item' opening closing items text := by
  cases h with
  | empty hblank => exact .empty hblank
  | items hbody =>
    refine .items (hbody.imp fun item body hle hof => himp item body ?_ hof)
    simp only [List.length_append, List.length_cons]
    omega

theorem Member.imp {V V' : Json → List UInt8 → Prop} {member : List UInt8 × Json}
    {text : List UInt8} (h : Member V member text)
    (himp : ∀ value body, body.length < text.length → V value body → V' value body) :
    Member V' member text := by
  obtain ⟨hname, hbefore, hafter, hvalue⟩ := h
  refine ⟨hname, hbefore, hafter, himp _ _ ?_ hvalue⟩
  simp only [List.length_append, List.length_cons]
  omega

/-- No value is deeper than its text is long. -/
theorem Value.depth_le (depth : Nat) : ∀ (n : Nat) {value : Json} {text : List UInt8},
    Value depth value text → text.length ≤ n → Value n value text := by
  induction depth with
  | zero => exact fun _ _ _ h _ => h.elim
  | succ depth ih =>
    intro n value text h hle
    obtain ⟨c, tail, rfl, -⟩ := starts_value (depth + 1) value text h
    obtain ⟨n, rfl⟩ : ∃ m, n = m + 1 := by
      rw [List.length_cons] at hle
      exact Nat.exists_eq_succ_of_ne_zero (by omega)
    rcases h with h | ⟨elements, rfl, h⟩ | ⟨members, rfl, h⟩
    · exact .inl h
    · refine .inr (.inl ⟨elements, rfl, h.imp fun item body hlt hof => ih n hof ?_⟩)
      omega
    · refine .inr (.inr ⟨members, rfl, h.imp fun member body hlt hof => ?_⟩)
      refine hof.imp fun value text hlt' hof' => ih n hof' ?_
      omega

/-! ### Texts have no NUL -/

theorem Blank.zero_not_mem {text : List UInt8} (h : Blank text) : 0 ∉ text :=
  fun hzero => absurd (h 0 hzero) (by decide)

theorem Scalar.zero_not_mem {value : Json} {text : List UInt8} (h : Scalar value text) :
    0 ∉ text := by
  cases h with
  | nullLiteral => decide
  | trueLiteral => decide
  | falseLiteral => decide
  | number hnumber => exact hnumber.zero_not_mem
  | string hbody =>
    simp only [List.mem_cons, List.mem_append, List.not_mem_nil, or_false, not_or]
    exact ⟨by decide, hbody.zero_not_mem, by decide⟩

theorem Separated.zero_not_mem {Item : α → List UInt8 → Prop} {items : List α}
    {body : List UInt8} (h : Separated Item items body)
    (hitems : ∀ item text, Item item text → 0 ∉ text) : 0 ∉ body := by
  induction h with
  | one hbefore hitem hafter =>
    simp only [List.mem_append, not_or]
    exact ⟨hbefore.zero_not_mem, hitems _ _ hitem, hafter.zero_not_mem⟩
  | cons hbefore hitem hafter _ ih =>
    simp only [List.mem_append, List.mem_cons, not_or]
    exact ⟨hbefore.zero_not_mem, hitems _ _ hitem, hafter.zero_not_mem, by decide, ih⟩

theorem Enclosed.zero_not_mem {Item : α → List UInt8 → Prop} {opening closing : UInt8}
    {items : List α} {text : List UInt8} (h : Enclosed Item opening closing items text)
    (hopening : 0 ≠ opening) (hclosing : 0 ≠ closing)
    (hitems : ∀ item text, Item item text → 0 ∉ text) : 0 ∉ text := by
  cases h with
  | empty hblank =>
    simp only [List.mem_cons, List.mem_append, List.not_mem_nil, or_false, not_or]
    exact ⟨hopening, hblank.zero_not_mem, hclosing⟩
  | items hbody =>
    simp only [List.mem_cons, List.mem_append, List.not_mem_nil, or_false, not_or]
    exact ⟨hopening, hbody.zero_not_mem hitems, hclosing⟩

theorem Member.zero_not_mem {V : Json → List UInt8 → Prop} {member : List UInt8 × Json}
    {text : List UInt8} (h : Member V member text)
    (hvalues : ∀ value text, V value text → 0 ∉ text) : 0 ∉ text := by
  obtain ⟨hname, hbefore, hafter, hvalue⟩ := h
  simp only [List.mem_cons, List.mem_append, not_or]
  exact ⟨by decide, hname.zero_not_mem, by decide, hbefore.zero_not_mem, by decide,
    hafter.zero_not_mem, hvalues _ _ hvalue⟩

theorem Value.zero_not_mem (depth : Nat) :
    ∀ (value : Json) (text : List UInt8), Value depth value text → 0 ∉ text := by
  induction depth with
  | zero => exact fun _ _ h => h.elim
  | succ depth ih =>
    rintro value text (h | ⟨elements, rfl, h⟩ | ⟨members, rfl, h⟩)
    · exact h.zero_not_mem
    · exact h.zero_not_mem (by decide) (by decide) ih
    · exact h.zero_not_mem (by decide) (by decide) fun _ _ hmember => hmember.zero_not_mem ih

/-- A text of the grammar is its own C string. -/
theorem Denotes.zero_not_mem {text : List UInt8} {value : Json} (h : Denotes text value) :
    0 ∉ text := by
  obtain ⟨depth, before, body, after, hbefore, hafter, hvalue, rfl⟩ := h
  simp only [List.mem_append, not_or]
  exact ⟨hbefore.zero_not_mem, hvalue.zero_not_mem, hafter.zero_not_mem⟩

/-! ### The reader is sound -/

theorem readWord_eq_some {word text rest : List UInt8} {value value' : Json}
    (h : readWord word value text = some (value', rest)) :
    text = word ++ rest ∧ value' = value := by
  rw [readWord] at h
  split at h
  · rename_i hprefix
    obtain ⟨rfl, rfl⟩ := Prod.mk.inj (Option.some.inj h)
    obtain ⟨tail, rfl⟩ := List.isPrefixOf_iff_prefix.mp hprefix
    exact ⟨by rw [List.drop_left], rfl⟩
  · cases h

theorem readScalar_sound : Sound Scalar readScalar := by
  intro value text rest h
  cases text with
  | nil => cases h
  | cons c text =>
    rw [readScalar] at h
    split at h
    · obtain ⟨htext, rfl⟩ := readWord_eq_some h
      exact ⟨nullText, htext, .nullLiteral⟩
    split at h
    · obtain ⟨htext, rfl⟩ := readWord_eq_some h
      exact ⟨trueText, htext, .trueLiteral⟩
    split at h
    · obtain ⟨htext, rfl⟩ := readWord_eq_some h
      exact ⟨falseText, htext, .falseLiteral⟩
    split at h
    · obtain ⟨⟨bytes, rest'⟩, hstring, heq⟩ := Option.map_eq_some_iff.mp h
      obtain ⟨rfl, rfl⟩ := Prod.mk.inj heq
      obtain ⟨body, htext, hbody⟩ := readString_eq_some hstring
      exact ⟨0x22 :: (body ++ [0x22]), by rw [htext]; simp, .string hbody⟩
    · obtain ⟨body, mantissa, exponent, htext, rfl, hnumber⟩ := readNumber_eq_some h
      exact ⟨body, htext, .number hnumber⟩

theorem readMember_sound {V : Json → List UInt8 → Prop}
    {readV : List UInt8 → Option (Json × List UInt8)} (hread : Sound V readV) :
    Sound (Member V) (readMember readV) := by
  intro member text rest h
  rw [readMember] at h
  split at h
  · cases h
  · rename_i name text' hstring
    obtain ⟨body, rfl, hname⟩ := readString_eq_some hstring
    split at h
    · cases h
    · rename_i c tail hskip
      have htext' := eq_of_skip hskip
      split at h
      · rename_i hcolon
        obtain ⟨⟨value, rest'⟩, hvalue, heq⟩ := Option.map_eq_some_iff.mp h
        obtain ⟨rfl, rfl⟩ := Prod.mk.inj heq
        obtain ⟨valueText, hsplit, hof⟩ := hread _ _ _ hvalue
        have htail := eq_of_skip hsplit
        refine ⟨_, ?_, .mk hname (blank_takeWhile text') (blank_takeWhile tail) hof⟩
        simp only [List.cons_append, List.append_assoc]
        rw [← htail, ← hcolon, ← htext']
      · cases h

theorem readValue_sound (depth : Nat) : Sound (Value depth) (readValue depth) := by
  induction depth with
  | zero =>
    intro value text rest h
    cases h
  | succ depth ih =>
    intro value text rest h
    cases text with
    | nil => cases h
    | cons c text =>
      rw [readValue] at h
      split at h
      · rename_i hc
        obtain ⟨⟨elements, rest'⟩, hitems, heq⟩ := Option.map_eq_some_iff.mp h
        obtain ⟨rfl, rfl⟩ := Prod.mk.inj heq
        obtain ⟨body, hbody, hof⟩ := readEnclosed_sound ih c 0x5D hitems
        exact ⟨body, hbody, .inr (.inl ⟨elements, rfl, hc ▸ hof⟩)⟩
      split at h
      · rename_i hc
        obtain ⟨⟨members, rest'⟩, hitems, heq⟩ := Option.map_eq_some_iff.mp h
        obtain ⟨rfl, rfl⟩ := Prod.mk.inj heq
        obtain ⟨body, hbody, hof⟩ := readEnclosed_sound (readMember_sound ih) c 0x7D hitems
        exact ⟨body, hbody, .inr (.inr ⟨members, rfl, hc ▸ hof⟩)⟩
      · obtain ⟨body, htext, hof⟩ := readScalar_sound _ _ _ h
        exact ⟨body, htext, .inl hof⟩

/-! ### Texts -/

/-- The reader returns what a text denotes, and nothing for other texts. -/
theorem read_iff (text : List UInt8) (value : Json) :
    read text = some value ↔ Denotes text value := by
  constructor
  · intro h
    rw [read] at h
    split at h
    · cases h
    · rename_i value' rest hread
      split at h
      · rename_i hblank
        obtain rfl := Option.some.inj h
        obtain ⟨body, hbody, hof⟩ := readValue_sound _ _ _ _ hread
        refine ⟨_, _, body, rest, blank_takeWhile text, List.all_eq_true.mp hblank, hof, ?_⟩
        rw [← hbody, List.takeWhile_append_dropWhile]
      · cases h
  · rintro ⟨depth, before, body, after, hbefore, hafter, hof, rfl⟩
    have hlength : body.length ≤ (before ++ (body ++ after)).length := by
      simp only [List.length_append]
      omega
    have hread := readValue_append _ _ _ after (hof.depth_le _ _ hlength) hafter.ends
    rw [read, skip_append hbefore ((starts_value depth).stops hof after), hread]
    exact if_pos (List.all_eq_true.mpr hafter)

/-- A text denotes at most one value. -/
theorem Denotes.unique {text : List UInt8} {value value' : Json} (h : Denotes text value)
    (h' : Denotes text value') : value = value' := by
  rw [← read_iff] at h h'
  rw [h] at h'
  exact Option.some.inj h'

theorem isJson_iff (text : List UInt8) : IsJson text ↔ (read text).isSome = true := by
  simp only [IsJson, ← read_iff, Option.isSome_iff_exists]

instance (text : List UInt8) : Decidable (IsJson text) :=
  decidable_of_iff _ (isJson_iff text).symm

/-! ## What is written -/

/-- A byte that stands for itself in a string. -/
def isPlain (c : UInt8) : Bool := 0x20 ≤ c && c ≠ 0x22 && c ≠ 0x5C

/-- A text of such bytes stands for itself. -/
theorem characters_of_plain {text : List UInt8} (h : text.all isPlain = true) :
    Characters text text := by
  induction text with
  | nil => exact .nil
  | cons c text ih =>
    rw [List.all_cons, Bool.and_eq_true] at h
    obtain ⟨hc, htext⟩ := h
    simp only [isPlain, Bool.and_eq_true, decide_eq_true_eq] at hc
    exact .cons (.unescaped c (UInt8.not_lt.mpr hc.1.1) hc.1.2 hc.2) (ih htext)

/-- What `decimalInt` writes is a number without exponent. -/
theorem numberText_decimalInt (i : Int) : NumberText (decimalInt i) i 0 := by
  have hnumber (negative : Bool) : NumberText (minus negative ++ decimal i.natAbs)
      (signed negative i.natAbs) 0 := by
    have hmk := NumberText.mk negative (decimal i.natAbs) [] [] [] 0
      ((isNumeral_iff _).mpr ⟨_, rfl⟩) .none .none
    simp only [List.append_nil, digitsValue_decimal] at hmk
    exact hmk
  unfold decimalInt
  split
  · rename_i hneg
    have hsigned : signed true i.natAbs = i := by
      show -(i.natAbs : Int) = i
      omega
    have htrue := hnumber true
    rwa [hsigned] at htrue
  · rename_i hneg
    have hsigned : signed false i.natAbs = i := by
      show (i.natAbs : Int) = i
      omega
    have hfalse := hnumber false
    rwa [hsigned] at hfalse

/-! Lists and objects without white space. -/

theorem blank_nil : Blank [] := fun _ h => absurd h List.not_mem_nil

theorem Separated.last {Item : α → List UInt8 → Prop} {item : α} {text : List UInt8}
    (h : Item item text) : Separated Item [item] text := by
  have hone := Separated.one blank_nil h blank_nil
  rwa [List.nil_append, List.append_nil] at hone

theorem Separated.comma {Item : α → List UInt8 → Prop} {item : α} {items : List α}
    {text body : List UInt8} (h : Item item text) (hrest : Separated Item items body) :
    Separated Item (item :: items) (text ++ 0x2C :: body) :=
  .cons blank_nil h blank_nil hrest

theorem Member.tight {V : Json → List UInt8 → Prop} {name text : List UInt8} {value : Json}
    (hname : name.all isPlain = true) (hvalue : V value text) :
    Member V (name, value) (0x22 :: (name ++ 0x22 :: 0x3A :: text)) :=
  .mk (characters_of_plain hname) blank_nil blank_nil hvalue

/-- An object of scalars. -/
theorem denotes_object {members : List (List UInt8 × Json)} {body : List UInt8}
    (h : Separated (Member (Value 1)) members body) :
    Denotes (0x7B :: (body ++ [0x7D])) (object members) := by
  refine ⟨2, [], _, [], blank_nil, blank_nil, .inr (.inr ⟨members, rfl, .items h⟩), ?_⟩
  rw [List.nil_append, List.append_nil]

/-! ## What is not written -/

theorem readSeparated_none {Item : Type} {readItem : List UInt8 → Option (Item × List UInt8)}
    {closing : UInt8} {text : List UInt8} (h : readItem (skip text) = none) (fuel : Nat) :
    readSeparated readItem closing fuel text = none := by
  cases fuel with
  | zero => rfl
  | succ fuel => rw [readSeparated, h]

/-- After any members, a text that is not read as a member is no end of an object. -/
theorem readSeparated_members (fronts : List ((List UInt8 × Json) × List UInt8))
    (hfronts : ∀ front ∈ fronts, Member Scalar front.1 front.2) {body : List UInt8}
    {depth : Nat} (hbody : readMember (readValue (depth + 1)) (skip body) = none) (fuel : Nat) :
    readSeparated (readMember (readValue (depth + 1))) 0x7D fuel
      (fronts.flatMap (fun front => front.2 ++ [0x2C]) ++ body) = none := by
  induction fronts generalizing fuel with
  | nil => exact readSeparated_none hbody fuel
  | cons front fronts ih =>
    cases fuel with
    | zero => rfl
    | succ fuel =>
      have hmember : Member (Value (depth + 1)) front.1 front.2 :=
        (hfronts front List.mem_cons_self).imp fun _ _ _ hscalar => .inl hscalar
      rw [List.flatMap_cons, List.append_assoc, List.append_assoc, List.singleton_append,
        readSeparated_comma (starts_member _)
          (readMember_append (starts_value _) (readValue_append _)) (.inr rfl) hmember,
        ih fun other hother => hfronts other (List.mem_cons_of_mem front hother)]
      rfl

/-- Such a text is not JSON. -/
theorem not_isJson_object (fronts : List ((List UInt8 × Json) × List UInt8))
    (hfronts : ∀ front ∈ fronts, Member Scalar front.1 front.2) {body tail : List UInt8}
    (hquote : fronts.flatMap (fun front => front.2 ++ [0x2C]) ++ body = 0x22 :: tail)
    (hbody : ∀ depth, readMember (readValue depth) (skip body) = none) :
    ¬IsJson (0x7B :: (fronts.flatMap (fun front => front.2 ++ [0x2C]) ++ body)) := by
  have hnone := readSeparated_members fronts hfronts (hbody (tail.length + 1)) (tail.length + 1)
  rw [hquote] at hnone ⊢
  rw [isJson_iff, read, skip_of_stops (Stops.cons (by decide) _)]
  simp only [List.length_cons]
  rw [readValue, if_neg (by decide), if_pos rfl, readEnclosed,
    skip_of_stops (Stops.cons (by decide) _)]
  dsimp only
  rw [if_neg (by decide), List.length_cons, hnone]
  simp

end Json
