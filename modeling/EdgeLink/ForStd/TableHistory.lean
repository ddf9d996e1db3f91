import EdgeLink.ForStd.AutoincrementTable
import Mathlib.Data.List.Nodup

/-!
# The history of a table with automatic row ids

A table that started empty is determined by the rows that were inserted, in order, and the
ids that were deleted: the `n`-th row that was inserted has the id `n` for ever.

* `Holds`: what a table holds after these insertions and deletions.
* `Holds.insert`, `Holds.delete`, `Holds.delete_absent`: what one statement adds.
* `Holds.mem_ids`, `Holds.changes_eq`: an id is there from its insertion to its deletion, so
  it is deleted at most once.
-/

namespace AutoincrementTable

variable {Row : Type}

/-- The rows with the ids that they got. -/
def numbered (inserted : List Row) : List (Nat × Row) := (inserted.zipIdx 1).map Prod.swap

/-- The rows that were not deleted again. -/
def remaining (inserted : List Row) (deleted : List Nat) : List (Nat × Row) :=
  (numbered inserted).filter fun row => row.1 ∉ deleted

theorem numbered_append (inserted : List Row) (row : Row) :
    numbered (inserted ++ [row]) = numbered inserted ++ [(inserted.length + 1, row)] := by
  simp only [numbered, List.zipIdx_append, List.map_append]
  rw [Nat.add_comm]
  rfl

theorem numbered_ids (inserted : List Row) :
    (numbered inserted).map Prod.fst = List.range' 1 inserted.length := by
  rw [numbered, List.map_map, ← List.zipIdx_map_snd]
  rfl

theorem mem_numbered_bounds {inserted : List Row} {row : Nat × Row}
    (h : row ∈ numbered inserted) : 1 ≤ row.1 ∧ row.1 ≤ inserted.length := by
  have hid : row.1 ∈ List.range' 1 inserted.length := by
    rw [← numbered_ids]
    exact List.mem_map_of_mem h
  rw [List.mem_range'_1] at hid
  omega

/-- The table holds what was inserted and not deleted again. -/
structure Holds (table : AutoincrementTable Row) (inserted : List Row) (deleted : List Nat) :
    Prop where
  rows : table.rows = remaining inserted deleted
  sequence : table.sequence = inserted.length
  nodup : deleted.Nodup
  given : ∀ id ∈ deleted, 1 ≤ id ∧ id ≤ inserted.length

namespace Holds

variable {table table' : AutoincrementTable Row} {inserted : List Row} {deleted : List Nat}

theorem empty : Holds (.empty 0 : AutoincrementTable Row) [] [] where
  rows := rfl
  sequence := rfl
  nodup := List.nodup_nil
  given _ h := absurd h List.not_mem_nil

theorem mem_ids (h : table.Holds inserted deleted) (id : Nat) :
    id ∈ table.ids ↔ (1 ≤ id ∧ id ≤ inserted.length) ∧ id ∉ deleted := by
  rw [ids, h.rows, remaining, List.mem_map]
  constructor
  · rintro ⟨row, hrow, rfl⟩
    obtain ⟨hmem, hkept⟩ := List.mem_filter.mp hrow
    exact ⟨mem_numbered_bounds hmem, of_decide_eq_true hkept⟩
  · rintro ⟨hbounds, hkept⟩
    have hid : id ∈ (numbered inserted).map Prod.fst := by
      rw [numbered_ids, List.mem_range'_1]
      omega
    obtain ⟨row, hrow, rfl⟩ := List.mem_map.mp hid
    exact ⟨row, List.mem_filter.mpr ⟨hrow, decide_eq_true hkept⟩, rfl⟩

/-- An insertion fails when all ids were given out, and adds the row otherwise. -/
theorem insert (h : table.Holds inserted deleted) (row : Row) :
    if inserted.length < maxRowId then
      ∃ table', table.insert row = some table' ∧ table'.Holds (inserted ++ [row]) deleted
    else table.insert row = none := by
  have hroom : table.sequence < maxRowId ↔ inserted.length < maxRowId := by rw [h.sequence]
  split
  · rename_i hlt
    have hsome : (table.insert row).isSome := by
      rw [AutoincrementTable.insert, if_pos (hroom.mpr hlt)]
      rfl
    obtain ⟨table', hinsert⟩ := Option.isSome_iff_exists.mp hsome
    obtain ⟨hrows, hsequence⟩ := insert_rows hinsert
    refine ⟨table', hinsert, ?_, ?_, h.nodup, fun id hid => ?_⟩
    · have hnew : inserted.length + 1 ∉ deleted := by
        intro hmem
        have := (h.given _ hmem).2
        omega
      rw [hrows, h.rows, h.sequence, remaining, remaining, numbered_append, List.filter_append,
        List.filter_singleton, decide_eq_true hnew, cond_true]
    · rw [hsequence, h.sequence, List.length_append, List.length_singleton]
    · have := h.given id hid
      rw [List.length_append, List.length_singleton]
      omega
  · rename_i hfull
    rw [AutoincrementTable.insert, if_neg (fun hlt => hfull (hroom.mp hlt))]

/-- Deleting a row that is there. -/
theorem delete (h : table.Holds inserted deleted) {id : Nat} (hmem : id ∈ table.ids) :
    (table.delete id).Holds inserted (id :: deleted) := by
  obtain ⟨hbounds, hnew⟩ := (h.mem_ids id).mp hmem
  refine ⟨?_, h.sequence, List.nodup_cons.mpr ⟨hnew, h.nodup⟩, ?_⟩
  · show table.rows.filter (fun row => row.1 ≠ id) = remaining inserted (id :: deleted)
    rw [h.rows, remaining, List.filter_filter, remaining]
    apply List.filter_congr
    intro row _
    simp [List.mem_cons, not_or]
  · intro other hother
    rcases List.mem_cons.mp hother with rfl | hother
    · exact hbounds
    · exact h.given other hother

end Holds

/-- Deleting a row that is not there. -/
theorem rows_delete_absent {table : AutoincrementTable Row} {id : Nat} (h : id ∉ table.ids) :
    (table.delete id).rows = table.rows := by
  rw [delete, List.filter_eq_self]
  intro row hrow
  refine decide_eq_true fun heq => h ?_
  rw [← heq]
  exact List.mem_map_of_mem hrow

theorem Holds.delete_absent {table : AutoincrementTable Row} {inserted : List Row}
    {deleted : List Nat} (h : table.Holds inserted deleted) {id : Nat} (hid : id ∉ table.ids) :
    (table.delete id).Holds inserted deleted where
  rows := (rows_delete_absent hid).trans h.rows
  sequence := h.sequence
  nodup := h.nodup
  given := h.given

/-- A deletion changes one row or none. -/
theorem changes_eq (table : AutoincrementTable Row) (id : Nat) :
    table.changes id = if id ∈ table.ids then 1 else 0 := by
  have hnodup : table.ids.Nodup := table.sorted.imp Nat.ne_of_lt
  have hkept : (table.delete id).rows.length + table.ids.count id = table.rows.length := by
    have hsplit := List.length_eq_countP_add_countP (l := table.rows) fun row => row.1 = id
    have hcount : table.rows.countP (fun row => row.1 = id) = table.ids.count id := by
      rw [ids, List.count, List.countP_map]
      apply List.countP_congr
      intro row _
      simp
    have hfilter : (table.delete id).rows.length =
        table.rows.countP fun row => ¬ (decide (row.1 = id) = true) := by
      rw [delete, ← List.countP_eq_length_filter]
      apply List.countP_congr
      intro row _
      simp
    omega
  rw [changes]
  split
  · rename_i hmem
    have hone := List.count_eq_one_of_mem hnodup hmem
    omega
  · rename_i habsent
    have hzero := List.count_eq_zero_of_not_mem habsent
    omega

end AutoincrementTable
