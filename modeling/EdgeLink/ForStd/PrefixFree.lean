import Mathlib.Data.List.Basic

/-!
# Prefix-free languages

Words none of which is a proper prefix of another one: whoever reads such a word knows by
itself where it ends.

* `PrefixFree.of_length`: a format is prefix-free if its words start with a header that
  declares their length.
* `PrefixFree.take_eq`: a buffer that starts with a word holds no other word from its start.
* `PrefixFree.not_take`, `PrefixFree.not_append`: a word that is cut, or that has something
  behind it, is no word.
-/

variable {α : Type}

/-- A word that is a prefix of another one is that word. -/
def PrefixFree (language : List α → Prop) : Prop :=
  ∀ short long, language short → language long → short <+: long → short = long

namespace PrefixFree

variable {language : List α → Prop}

/-- The first `width` items of each word declare its length. -/
theorem of_length (width : Nat) (declared : List α → Nat)
    (hwidth : ∀ word, language word → width ≤ word.length)
    (hdeclared : ∀ word, language word → word.length = declared (word.take width)) :
    PrefixFree language := by
  intro short long hshort hlong hprefix
  obtain ⟨rest, rfl⟩ := hprefix
  -- the longer word starts with the header of the shorter one
  have hheader : (short ++ rest).take width = short.take width :=
    List.take_append_of_le_length (hwidth short hshort)
  have hlength := hdeclared (short ++ rest) hlong
  rw [hheader, ← hdeclared short hshort] at hlength
  exact (List.prefix_append short rest).eq_of_length hlength.symm

/-- A buffer that starts with a word holds no other word from its start. -/
theorem take_eq (h : PrefixFree language) {word buffer : List α} {size : Nat}
    (hword : language word) (hbuffer : word <+: buffer) (hsize : language (buffer.take size)) :
    buffer.take size = word := by
  -- both are prefixes of the buffer, so one is a prefix of the other
  rcases List.prefix_or_prefix_of_prefix (List.take_prefix size buffer) hbuffer with hle | hle
  · exact h _ _ hsize hword hle
  · exact (h _ _ hword hsize hle).symm

/-- With another size than its own, such a buffer gives no word. -/
theorem not_take_of_ne (h : PrefixFree language) {word buffer : List α} {size : Nat}
    (hword : language word) (hbuffer : word <+: buffer) (hle : size ≤ buffer.length)
    (hne : size ≠ word.length) : ¬ language (buffer.take size) := by
  intro hsize
  have hlength := congrArg List.length (h.take_eq hword hbuffer hsize)
  rw [List.length_take_of_le hle] at hlength
  exact hne hlength

/-- A word that is cut is no word. -/
theorem not_take (h : PrefixFree language) {word : List α} {size : Nat} (hword : language word)
    (hlt : size < word.length) : ¬ language (word.take size) :=
  h.not_take_of_ne hword (List.prefix_refl word) (Nat.le_of_lt hlt) (Nat.ne_of_lt hlt)

/-- A word with something behind it is no word. -/
theorem not_append (h : PrefixFree language) {word rest : List α} (hword : language word)
    (hrest : rest ≠ []) : ¬ language (word ++ rest) := by
  intro hlong
  have heq := h _ _ hword hlong (List.prefix_append word rest)
  exact hrest (List.self_eq_append_right.mp heq)

end PrefixFree
