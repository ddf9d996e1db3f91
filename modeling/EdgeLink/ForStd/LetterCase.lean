import Mathlib.Data.List.Forall2
import EdgeLink.ForStd.CText

/-!
# Letter case in the C locale

* `toUpper`, `toLower`: the `toupper` and `tolower` of the C locale.
* `AnyCase name word`: `word` spells `name`, which is in upper case, in any mix of cases.
* `map_toUpper_eq_iff`: these are the words that `toUpper` takes to `name`.
-/

namespace CText

def isUpper (c : UInt8) : Bool := 65 ≤ c && c ≤ 90

def isLower (c : UInt8) : Bool := 97 ≤ c && c ≤ 122

/-- `toupper` in the C locale. -/
def toUpper (c : UInt8) : UInt8 := if isLower c then c - 32 else c

/-- `tolower` in the C locale. -/
def toLower (c : UInt8) : UInt8 := if isUpper c then c + 32 else c

/-- The word spells the name, each letter in either case. -/
def AnyCase (name word : List UInt8) : Prop :=
  List.Forall₂ (fun letter c => c = letter ∨ c = toLower letter) name word

theorem isUpper_iff (c : UInt8) : isUpper c = true ↔ 65 ≤ c.toNat ∧ c.toNat ≤ 90 := by
  simp only [isUpper, Bool.and_eq_true, decide_eq_true_eq, UInt8.le_iff_toNat_le]
  rfl

theorem isLower_iff (c : UInt8) : isLower c = true ↔ 97 ≤ c.toNat ∧ c.toNat ≤ 122 := by
  simp only [isLower, Bool.and_eq_true, decide_eq_true_eq, UInt8.le_iff_toNat_le]
  rfl

theorem toNat_toLower {letter : UInt8} (h : isUpper letter = true) :
    (toLower letter).toNat = letter.toNat + 32 := by
  have hrange := (isUpper_iff letter).mp h
  rw [toLower, if_pos h, UInt8.toNat_add]
  exact Nat.mod_eq_of_lt (by show letter.toNat + 32 < 256; omega)

theorem toNat_toUpper {c : UInt8} (h : isLower c = true) : (toUpper c).toNat = c.toNat - 32 := by
  have hrange := (isLower_iff c).mp h
  rw [toUpper, if_pos h]
  exact UInt8.toNat_sub_of_le _ _ (UInt8.le_iff_toNat_le.mpr (by show 32 ≤ c.toNat; omega))

/-- The bytes that `toUpper` takes to a letter in upper case. -/
theorem toUpper_eq_iff {letter : UInt8} (h : isUpper letter = true) (c : UInt8) :
    toUpper c = letter ↔ c = letter ∨ c = toLower letter := by
  have hletter := (isUpper_iff letter).mp h
  cases hc : isLower c with
  | true =>
    have hrange := (isLower_iff c).mp hc
    rw [← UInt8.toNat_inj, ← UInt8.toNat_inj, ← UInt8.toNat_inj, toNat_toUpper hc,
      toNat_toLower h]
    omega
  | false =>
    -- a letter in lower case would not be left alone
    have hrange := (isLower_iff c).not.mp (Bool.not_eq_true _ ▸ hc)
    rw [toUpper, hc, if_neg Bool.false_ne_true, ← UInt8.toNat_inj, ← UInt8.toNat_inj,
      toNat_toLower h]
    omega

/-- The words that `toUpper` takes to a name in upper case. -/
theorem map_toUpper_eq_iff {name : List UInt8} (h : name.all isUpper) (word : List UInt8) :
    word.map toUpper = name ↔ AnyCase name word := by
  induction name generalizing word with
  | nil => rw [List.map_eq_nil_iff, AnyCase, List.forall₂_nil_left_iff]
  | cons letter name ih =>
    obtain ⟨hletter, hname⟩ := Bool.and_eq_true_iff.mp h
    cases word with
    | nil => simp [AnyCase]
    | cons c word =>
      rw [List.map_cons, List.cons.injEq, toUpper_eq_iff hletter, ih hname, AnyCase, AnyCase,
        List.forall₂_cons]

/-- A word that spells a name consists of letters. -/
theorem isLetter_of_anyCase {name word : List UInt8} (h : name.all isUpper)
    (hword : AnyCase name word) : ∀ c ∈ word, isUpper c = true ∨ isLower c = true := by
  induction hword with
  | nil => exact fun c hc => nomatch hc
  | @cons letter c name word hletter _ ih =>
    obtain ⟨hupper, hname⟩ := Bool.and_eq_true_iff.mp h
    intro d hd
    rcases List.mem_cons.mp hd with rfl | hd
    · rcases hletter with rfl | rfl
      · exact .inl hupper
      · refine .inr ((isLower_iff _).mpr ?_)
        have hrange := (isUpper_iff letter).mp hupper
        rw [toNat_toLower hupper]
        omega
    · exact ih hname d hd

/-- Letters are neither white space nor NUL. -/
theorem not_space_of_isLetter {c : UInt8} (h : isUpper c = true ∨ isLower c = true) :
    isSpace c = false ∧ c ≠ 0 := by
  rw [isUpper_iff, isLower_iff] at h
  rw [← Bool.not_eq_true, isSpace_iff, Ne, ← UInt8.toNat_inj]
  exact ⟨by omega, by show ¬ c.toNat = 0; omega⟩

end CText
