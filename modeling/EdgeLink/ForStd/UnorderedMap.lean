import Mathlib.Data.List.Nodup
import Mathlib.Data.List.Perm.Basic

/-!
# Hash maps with an iteration order

A map as C++ code sees a `std::unordered_map`: keys are distinct, and the entries are
visited in some order that an operation may change. The order is the list itself, so
code that iterates is a recursion over `entries`, and what is proved for every map is
proved for every order.

* `find`, `emplace`, `erase`, `modify`, and `rehash` to another order.
* `modifyOn`: several changes in place, and how single changes add to them and undo them.
* `visit` and `mapValues`: loops over all entries, and what they leave as it was.
* `mem_entries_*`: the entries after an operation, and `perm_cons_erase`, what `erase`
  takes away.
-/

/-- A map: its entries in iteration order, no key twice. -/
structure UnorderedMap (Key Value : Type) where
  entries : List (Key × Value)
  nodup : (entries.map Prod.fst).Nodup

namespace UnorderedMap

variable {Key Value : Type}

/-- The keys in iteration order. -/
def keys (m : UnorderedMap Key Value) : List Key := m.entries.map Prod.fst

/-- The map without entries. -/
def empty : UnorderedMap Key Value := ⟨[], List.nodup_nil⟩

@[simp] theorem entries_empty : (empty : UnorderedMap Key Value).entries = [] := rfl

/-- Another iteration order of the same entries. -/
def rehash (m : UnorderedMap Key Value) (entries : List (Key × Value))
    (h : entries.Perm m.entries) : UnorderedMap Key Value :=
  ⟨entries, (h.map Prod.fst).nodup_iff.mpr m.nodup⟩

/-- A key has one value. -/
theorem value_unique (m : UnorderedMap Key Value) {key : Key} {value value' : Value}
    (h : (key, value) ∈ m.entries) (h' : (key, value') ∈ m.entries) : value = value' := by
  have heq := List.inj_on_of_nodup_map m.nodup h h' rfl
  exact (Prod.mk.inj heq).2

/-- A map is its entries in their order. -/
theorem eq_of_entries {m m' : UnorderedMap Key Value} (h : m.entries = m'.entries) : m = m' := by
  cases m
  cases m'
  obtain rfl := h
  rfl

variable [DecidableEq Key]

/-- The value of a key. -/
def find (m : UnorderedMap Key Value) (key : Key) : Option Value :=
  (m.entries.find? (·.1 = key)).map Prod.snd

/-- What `find` finds is the entry of the key. -/
theorem find_eq_some_iff (m : UnorderedMap Key Value) (key : Key) (value : Value) :
    m.find key = some value ↔ (key, value) ∈ m.entries := by
  simp only [find, Option.map_eq_some_iff]
  constructor
  · rintro ⟨⟨key', value'⟩, hfind, rfl⟩
    have hkey := List.find?_some hfind
    simp only [decide_eq_true_eq] at hkey
    exact hkey ▸ List.mem_of_find?_eq_some hfind
  · intro hmem
    have hsome : (m.entries.find? (·.1 = key)).isSome := by
      rw [List.find?_isSome]
      exact ⟨(key, value), hmem, by simp⟩
    obtain ⟨⟨key', value'⟩, hfind⟩ := Option.isSome_iff_exists.mp hsome
    have hkey := List.find?_some hfind
    simp only [decide_eq_true_eq] at hkey
    have hmem' := List.mem_of_find?_eq_some hfind
    exact ⟨_, hfind, m.value_unique (hkey ▸ hmem') hmem⟩

/-- What `find` does not find is no key. -/
theorem find_eq_none_iff (m : UnorderedMap Key Value) (key : Key) :
    m.find key = none ↔ key ∉ m.keys := by
  rw [Option.eq_none_iff_forall_not_mem]
  simp only [Option.mem_def, find_eq_some_iff, keys, List.mem_map, not_exists, not_and]
  constructor
  · rintro h ⟨key', value⟩ hmem rfl
    exact h value hmem
  · intro h value hmem
    exact h (key, value) hmem rfl

/-- A new entry; nothing changes when the key is there already. -/
def emplace (m : UnorderedMap Key Value) (key : Key) (value : Value) :
    UnorderedMap Key Value :=
  if h : key ∈ m.keys then m
  else
    ⟨m.entries ++ [(key, value)], by
      rw [List.map_append, List.map_singleton, ← List.concat_eq_append]
      exact (List.nodup_concat _ _).mpr ⟨h, m.nodup⟩⟩

/-- A key that is not there yet. -/
theorem entries_emplace {m : UnorderedMap Key Value} {key : Key} (h : key ∉ m.keys)
    (value : Value) : (m.emplace key value).entries = m.entries ++ [(key, value)] := by
  simp [emplace, h]

/-- The entries after `emplace` are the old ones, and perhaps the new one. -/
theorem mem_entries_emplace {m : UnorderedMap Key Value} {key : Key} {value : Value}
    {entry : Key × Value} (h : entry ∈ (m.emplace key value).entries) :
    entry ∈ m.entries ∨ entry = (key, value) := by
  by_cases hkey : key ∈ m.keys
  · rw [emplace, dif_pos hkey] at h
    exact .inl h
  · rw [entries_emplace hkey, List.mem_append, List.mem_singleton] at h
    exact h

/-- After `emplace` the key has a value. -/
theorem exists_mem_emplace (m : UnorderedMap Key Value) (key : Key) (value : Value) :
    ∃ value', (key, value') ∈ (m.emplace key value).entries := by
  by_cases hkey : key ∈ m.keys
  · obtain ⟨⟨key', value'⟩, hmem, rfl⟩ := List.mem_map.mp hkey
    exact ⟨value', by rwa [emplace, dif_pos hkey]⟩
  · exact ⟨value, by simp [entries_emplace hkey]⟩

/-- The value of the key after `emplace` is the new one, or the one that was there. -/
theorem find_of_mem_emplace {m : UnorderedMap Key Value} {key : Key} {value value' : Value}
    (h : (key, value') ∈ (m.emplace key value).entries) :
    (m.find key = none ∧ value' = value) ∨ m.find key = some value' := by
  by_cases hkey : key ∈ m.keys
  · rw [emplace, dif_pos hkey] at h
    exact .inr ((m.find_eq_some_iff key value').mpr h)
  · rw [entries_emplace hkey] at h
    obtain hold | hnew := List.mem_append.mp h
    · exact absurd (List.mem_map_of_mem (f := Prod.fst) hold) hkey
    · exact .inl ⟨(m.find_eq_none_iff key).mpr hkey,
        (Prod.mk.inj (List.mem_singleton.mp hnew)).2⟩

/-- The entry of a key is taken out; the others keep their order. -/
def erase (m : UnorderedMap Key Value) (key : Key) : UnorderedMap Key Value :=
  ⟨m.entries.filter (·.1 ≠ key), (List.filter_sublist.map Prod.fst).nodup m.nodup⟩

/-- The entries of the other keys are left. -/
@[simp] theorem mem_entries_erase (m : UnorderedMap Key Value) (key : Key)
    (entry : Key × Value) :
    entry ∈ (m.erase key).entries ↔ entry ∈ m.entries ∧ entry.1 ≠ key := by
  simp [erase]

/-- Taking out an entry that was not there before. -/
theorem erase_emplace {m : UnorderedMap Key Value} {key : Key} (h : key ∉ m.keys)
    (value : Value) : (m.emplace key value).erase key = m := by
  apply eq_of_entries
  have hold : ∀ entry ∈ m.entries, entry.1 ≠ key :=
    fun entry hmem heq => h (heq ▸ List.mem_map_of_mem hmem)
  simpa [erase, entries_emplace h] using fun key' value' hmem => hold (key', value') hmem

/-- `erase` takes one entry away. -/
theorem perm_cons_erase {m : UnorderedMap Key Value} {key : Key} {value : Value}
    (h : (key, value) ∈ m.entries) :
    m.entries.Perm ((key, value) :: (m.erase key).entries) := by
  have hnodup : m.entries.Nodup := List.Nodup.of_map _ m.nodup
  rw [List.perm_ext_iff_of_nodup hnodup]
  · rintro ⟨key', value'⟩
    simp only [List.mem_cons, mem_entries_erase]
    by_cases hkey : key' = key
    · subst hkey
      constructor
      · intro hmem
        exact .inl (by rw [m.value_unique hmem h])
      · rintro (heq | ⟨hmem, -⟩)
        · exact heq ▸ h
        · exact hmem
    · simp [hkey]
  · refine List.nodup_cons.mpr ⟨by simp, hnodup.sublist List.filter_sublist⟩

/-- One entry fewer. -/
theorem length_erase_lt {m : UnorderedMap Key Value} {key : Key} {value : Value}
    (h : (key, value) ∈ m.entries) : (m.erase key).entries.length < m.entries.length := by
  rw [(perm_cons_erase h).length_eq]
  exact Nat.lt_succ_self _

/-- The value of a key is changed in place. -/
def modify (m : UnorderedMap Key Value) (key : Key) (f : Value → Value) :
    UnorderedMap Key Value :=
  ⟨m.entries.map fun entry => if entry.1 = key then (entry.1, f entry.2) else entry, by
    rw [List.map_map]
    have hfst : (Prod.fst ∘ fun entry : Key × Value =>
        if entry.1 = key then (entry.1, f entry.2) else entry) = Prod.fst := by
      funext entry
      simp only [Function.comp]
      split <;> rfl
    rw [hfst]
    exact m.nodup⟩

/-- `modify` changes one entry. -/
theorem perm_cons_modify {m : UnorderedMap Key Value} {key : Key} {value : Value}
    (h : (key, value) ∈ m.entries) (f : Value → Value) :
    (m.modify key f).entries.Perm ((key, f value) :: (m.erase key).entries) := by
  have hperm := (perm_cons_erase h).map fun entry =>
    if entry.1 = key then (entry.1, f entry.2) else entry
  rw [List.map_cons, if_pos rfl] at hperm
  have hrest : ((m.erase key).entries.map fun entry =>
      if entry.1 = key then (entry.1, f entry.2) else entry) = (m.erase key).entries := by
    refine (List.map_congr_left fun entry hmem => ?_).trans (List.map_id _)
    exact if_neg ((mem_entries_erase m key entry).mp hmem).2
  rwa [hrest] at hperm

/-- The entries after a change in place. -/
theorem mem_entries_modify (m : UnorderedMap Key Value) (key : Key) (f : Value → Value)
    (key' : Key) (value' : Value) :
    (key', value') ∈ (m.modify key f).entries ↔
      (key' ≠ key ∧ (key', value') ∈ m.entries) ∨
      (key' = key ∧ ∃ value, (key, value) ∈ m.entries ∧ value' = f value) := by
  simp only [modify, List.mem_map]
  constructor
  · rintro ⟨⟨key₀, value₀⟩, hmem, heq⟩
    by_cases hkey : key₀ = key
    · rw [if_pos hkey] at heq
      obtain ⟨rfl, rfl⟩ := Prod.mk.inj heq
      exact .inr ⟨hkey, value₀, hkey ▸ hmem, rfl⟩
    · rw [if_neg hkey] at heq
      obtain ⟨rfl, rfl⟩ := Prod.mk.inj heq
      exact .inl ⟨hkey, hmem⟩
  · rintro (⟨hkey, hmem⟩ | ⟨rfl, value, hmem, rfl⟩)
    · exact ⟨(key', value'), hmem, by simp [hkey]⟩
    · exact ⟨(key', value), hmem, by simp⟩

/-- Storing what a function makes of the value is changing the value by the function. -/
theorem modify_const {m : UnorderedMap Key Value} {key : Key} {value : Value}
    (h : (key, value) ∈ m.entries) (f : Value → Value) :
    m.modify key (fun _ => f value) = m.modify key f := by
  unfold modify
  congr 1
  apply List.map_congr_left
  rintro ⟨key', value'⟩ hmem
  split
  · rename_i heq
    obtain rfl : key' = key := heq
    rw [m.value_unique h hmem]
  · rfl

/-- What does not look at the changed part of the values is the same as before. -/
theorem map_entries_modify {β : Type} (m : UnorderedMap Key Value) (key : Key)
    (f : Value → Value) (g : Key × Value → β)
    (h : ∀ value, g (key, f value) = g (key, value)) :
    (m.modify key f).entries.map g = m.entries.map g := by
  simp only [modify, List.map_map]
  apply List.map_congr_left
  rintro ⟨key', value'⟩ -
  by_cases hkey : key' = key
  · simp [hkey, h]
  · simp [hkey]

/-- The keys stay, in the same order. -/
@[simp] theorem keys_modify (m : UnorderedMap Key Value) (key : Key) (f : Value → Value) :
    (m.modify key f).keys = m.keys :=
  m.map_entries_modify key f Prod.fst fun _ => rfl

/-- The values of several keys are changed in place. -/
def modifyOn (m : UnorderedMap Key Value) (keys : List Key) (f : Value → Value) :
    UnorderedMap Key Value :=
  ⟨m.entries.map fun entry => if entry.1 ∈ keys then (entry.1, f entry.2) else entry, by
    rw [List.map_map]
    have hfst : (Prod.fst ∘ fun entry : Key × Value =>
        if entry.1 ∈ keys then (entry.1, f entry.2) else entry) = Prod.fst := by
      funext entry
      simp only [Function.comp]
      split <;> rfl
    rw [hfst]
    exact m.nodup⟩

@[simp] theorem modifyOn_nil (m : UnorderedMap Key Value) (f : Value → Value) :
    m.modifyOn [] f = m := by
  apply eq_of_entries
  simp [modifyOn]

/-- One more change. -/
theorem modify_modifyOn (m : UnorderedMap Key Value) {keys : List Key} {key : Key}
    (hkey : key ∉ keys) (f : Value → Value) :
    (m.modifyOn keys f).modify key f = m.modifyOn (keys ++ [key]) f := by
  apply eq_of_entries
  simp only [modify, modifyOn, List.map_map]
  apply List.map_congr_left
  rintro ⟨key', value⟩ -
  by_cases heq : key' = key
  · subst heq
    simp [hkey]
  · by_cases hmem : key' ∈ keys <;> simp [hmem, heq]

/-- A change that is undone. -/
theorem modify_undo (m : UnorderedMap Key Value) {keys : List Key} {key : Key}
    (hkey : key ∉ keys) (f g : Value → Value)
    (h : ∀ value, (key, value) ∈ m.entries → g (f value) = value) :
    (m.modifyOn (key :: keys) f).modify key g = m.modifyOn keys f := by
  apply eq_of_entries
  simp only [modify, modifyOn, List.map_map]
  apply List.map_congr_left
  rintro ⟨key', value⟩ hmem
  by_cases heq : key' = key
  · subst heq
    simp [hkey, h value hmem]
  · by_cases hmem : key' ∈ keys <;> simp [hmem, heq]

/-- The entry of a key that is changed. -/
theorem mem_entries_modifyOn {m : UnorderedMap Key Value} {keys : List Key} {key : Key}
    {value : Value} (h : (key, value) ∈ m.entries) (hkey : key ∈ keys) (f : Value → Value) :
    (key, f value) ∈ (m.modifyOn keys f).entries := by
  rw [modifyOn, List.mem_map]
  exact ⟨(key, value), h, if_pos hkey⟩

/-! ## Loops over the entries -/

section Visit

variable {Key Value β : Type} {f : Key → Value → Value × Bool}

/-- A loop over entries that may change their values and ends early where `f` says `false`:
    the entries afterwards, and whether it has seen them all. -/
def visitEntries (f : Key → Value → Value × Bool) :
    List (Key × Value) → List (Key × Value) × Bool
  | [] => ([], true)
  | (key, value) :: rest =>
    let visited := f key value
    if visited.2 then
      let after := visitEntries f rest
      ((key, visited.1) :: after.1, after.2)
    else ((key, visited.1) :: rest, false)

/-- What does not look at the changed part of the values is the same after the loop. -/
theorem map_visitEntries (g : Key × Value → β)
    (h : ∀ key value, g (key, (f key value).1) = g (key, value))
    (entries : List (Key × Value)) : (visitEntries f entries).1.map g = entries.map g := by
  induction entries with
  | nil => rfl
  | cons entry rest ih =>
    simp only [visitEntries]
    split <;> simp [h, ih]

/-- An entry after the loop is an entry of before, which the loop has changed or not. -/
theorem mem_visitEntries {entries : List (Key × Value)} {key : Key} {value : Value}
    (h : (key, value) ∈ (visitEntries f entries).1) :
    ∃ old, (key, old) ∈ entries ∧ (value = old ∨ value = (f key old).1) := by
  induction entries with
  | nil => exact absurd h List.not_mem_nil
  | cons entry rest ih =>
    obtain ⟨key', old⟩ := entry
    have hsplit : (key, value) = (key', (f key' old).1) ∨ (key, value) ∈ rest ∨
        (key, value) ∈ (visitEntries f rest).1 := by
      simp only [visitEntries] at h
      split at h
      · exact (List.mem_cons.mp h).imp_right .inr
      · exact (List.mem_cons.mp h).imp_right .inl
    rcases hsplit with hvisited | hrest | hrest
    · obtain ⟨rfl, rfl⟩ := Prod.mk.inj hvisited
      exact ⟨old, List.mem_cons_self, .inr rfl⟩
    · exact ⟨value, List.mem_cons_of_mem _ hrest, .inl rfl⟩
    · obtain ⟨old', hmem, hvalue⟩ := ih hrest
      exact ⟨old', List.mem_cons_of_mem _ hmem, hvalue⟩

/-- A loop that has seen all entries has changed each of them. -/
theorem visitEntries_complete {entries : List (Key × Value)}
    (h : (visitEntries f entries).2 = true) :
    (visitEntries f entries).1 = entries.map (fun entry => (entry.1, (f entry.1 entry.2).1)) ∧
      ∀ entry ∈ entries, (f entry.1 entry.2).2 = true := by
  induction entries with
  | nil => exact ⟨rfl, List.forall_mem_nil _⟩
  | cons entry rest ih =>
    simp only [visitEntries] at h ⊢
    split at h
    · rename_i hcontinues
      obtain ⟨hrest, hall⟩ := ih h
      simp [hcontinues, hrest]
      exact fun key value hmem => hall (key, value) hmem
    · exact nomatch h

/-- The loop over the entries of a map. -/
def visit (m : UnorderedMap Key Value) (f : Key → Value → Value × Bool) :
    UnorderedMap Key Value × Bool :=
  (⟨(visitEntries f m.entries).1, by
    rw [map_visitEntries Prod.fst fun _ _ => rfl]
    exact m.nodup⟩, (visitEntries f m.entries).2)

/-- The values of all entries are changed in place. -/
def mapValues (m : UnorderedMap Key Value) (f : Value → Value) : UnorderedMap Key Value :=
  ⟨m.entries.map fun entry => (entry.1, f entry.2), by
    rw [List.map_map]
    exact m.nodup⟩

end Visit

end UnorderedMap
