import Mathlib.Data.List.DropRight

/-!
# Lists between padding

A list as a core with padding in front and behind, where `p` says which items are padding.

* `Padded`, `Bare`: the core with its padding, and a core that does not start or end with
  padding itself.
* `exists_bare`: every list has such a core.
* `findIdx_of_bare`, `findIdx_reverse_of_bare`: where a scan for an item that is no padding
  stops, from the front and from the back.
-/

namespace Padding

variable {α : Type} {p : α → Bool}

/-- `text` is `core` with padding in front and behind. -/
def Padded (p : α → Bool) (core text : List α) : Prop :=
  ∃ before after, text = before ++ core ++ after ∧ before.all p ∧ after.all p

/-- Neither the first nor the last item is padding. -/
structure Bare (p : α → Bool) (core : List α) : Prop where
  head : ∀ c ∈ core.head?, p c = false
  last : ∀ c ∈ core.getLast?, p c = false

/-- A list without any padding is bare. -/
theorem bare_of_forall {core : List α} (h : ∀ c ∈ core, p c = false) : Bare p core where
  head c hc := h c (List.mem_of_mem_head? hc)
  last c hc := h c (List.mem_of_mem_getLast? hc)

/-- Only padding has an empty core. -/
theorem padded_nil_iff (text : List α) : Padded p [] text ↔ text.all p := by
  constructor
  · rintro ⟨before, after, rfl, hbefore, hafter⟩
    rw [List.append_nil, List.all_append, hbefore, hafter]
    rfl
  · intro htext
    exact ⟨text, [], by simp, htext, rfl⟩

/-- Read backwards, a bare core is bare. -/
theorem Bare.reverse {core : List α} (h : Bare p core) : Bare p core.reverse where
  head := by
    rw [List.head?_reverse]
    exact h.last
  last := by
    rw [List.getLast?_reverse]
    exact h.head

/-- Every list has a bare core. -/
theorem exists_bare (p : α → Bool) (text : List α) :
    ∃ core, Padded p core text ∧ Bare p core := by
  let rest := text.dropWhile p
  refine ⟨rest.rdropWhile p, ⟨text.takeWhile p, rest.rtakeWhile p, ?_, ?_, ?_⟩, ?_, ?_⟩
  · rw [List.append_assoc, List.rdropWhile_append_rtakeWhile, List.takeWhile_append_dropWhile]
  · exact List.all_takeWhile
  · exact List.all_eq_true.mpr fun c hc => List.mem_rtakeWhile_imp hc
  · -- the core starts as the rest does, and the rest does not start with padding
    intro c hc
    obtain ⟨core, hcore⟩ := List.head?_eq_some_iff.mp hc
    obtain ⟨after, hrest⟩ := List.rdropWhile_prefix (p := p) (l := rest)
    have hhead : rest.head? = some c := by
      rw [← hrest, hcore]
      rfl
    have hnot := List.head?_dropWhile_not p text
    rw [hhead] at hnot
    exact hnot
  · intro c hc
    obtain ⟨core, hcore⟩ := List.getLast?_eq_some_iff.mp hc
    have hne : rest.rdropWhile p ≠ [] := by
      rw [hcore]
      exact List.concat_ne_nil c core
    have hlast := List.rdropWhile_last_not p rest hne
    rw [List.getLast?_eq_some_getLast hne, Option.mem_some_iff] at hc
    rw [hc] at hlast
    exact Bool.eq_false_iff.mpr hlast

/-! ## Scans -/

/-- A scan passes the padding in front of a list. -/
theorem findIdx_append_of_all {before : List α} (h : before.all p) (rest : List α) :
    (before ++ rest).findIdx (!p ·) = before.length + rest.findIdx (!p ·) := by
  induction before with
  | nil => exact (Nat.zero_add _).symm
  | cons c before ih =>
    obtain ⟨hc, hbefore⟩ := Bool.and_eq_true_iff.mp h
    rw [List.cons_append, List.findIdx_cons, hc, Bool.not_true, cond_false, ih hbefore,
      List.length_cons]
    omega

/-- A scan passes all of a list of padding. -/
theorem findIdx_of_all {text : List α} (h : text.all p) : text.findIdx (!p ·) = text.length := by
  have hscan := findIdx_append_of_all h []
  rwa [List.append_nil] at hscan

/-- A scan stops in front of a core that is not empty. -/
theorem findIdx_of_bare {before core : List α} (hbefore : before.all p) (hbare : Bare p core)
    (hne : core ≠ []) (after : List α) :
    (before ++ core ++ after).findIdx (!p ·) = before.length := by
  obtain ⟨c, core, rfl⟩ := List.exists_cons_of_ne_nil hne
  rw [List.append_assoc, findIdx_append_of_all hbefore, List.cons_append, List.findIdx_cons,
    hbare.head c rfl, Bool.not_false, cond_true, Nat.add_zero]

/-- A scan from the back stops behind a core that is not empty. -/
theorem findIdx_reverse_of_bare {core after : List α} (hafter : after.all p)
    (hbare : Bare p core) (hne : core ≠ []) (before : List α) :
    (before ++ core ++ after).reverse.findIdx (!p ·) = after.length := by
  have hscan := findIdx_of_bare (List.all_reverse.trans hafter) hbare.reverse
    (List.reverse_ne_nil_iff.mpr hne) before.reverse
  rwa [List.append_assoc, ← List.reverse_append, ← List.reverse_append, List.length_reverse]
    at hscan

end Padding
