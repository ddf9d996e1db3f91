import Mathlib.Algebra.Group.Nat.Defs
import Mathlib.Data.List.Basic
import Mathlib.Data.List.Perm.Subperm

/-!
# Tables with automatic row ids

A table with an `INTEGER PRIMARY KEY AUTOINCREMENT` column: rows carry ids that were never
given out before, so the order of the ids is the order of the insertions. That the ids
increase and stay below the largest one given out is part of the type.

Insertion fails once the largest possible row id has been given out.
-/

/-- A table whose row ids are given out in increasing order. -/
structure AutoincrementTable (Row : Type) where
  rows : List (Nat × Row)
  sequence : Nat
  sorted : (rows.map Prod.fst).Pairwise (· < ·)
  bounded : ∀ id ∈ rows.map Prod.fst, 0 < id ∧ id ≤ sequence

namespace AutoincrementTable

variable {Row : Type}

/-- The largest row id. -/
def maxRowId : Nat := 2 ^ 63 - 1

/-- A table without rows in which ids up to `sequence` have been used. -/
def empty (sequence : Nat) : AutoincrementTable Row where
  rows := []
  sequence := sequence
  sorted := List.Pairwise.nil
  bounded := fun _ h => absurd h List.not_mem_nil

/-- The ids of the rows, in order. -/
def ids (table : AutoincrementTable Row) : List Nat := table.rows.map Prod.fst

/-- `INSERT`: the row gets the next id. -/
def insert (table : AutoincrementTable Row) (row : Row) : Option (AutoincrementTable Row) :=
  if table.sequence < maxRowId then
    some {
      rows := table.rows ++ [(table.sequence + 1, row)]
      sequence := table.sequence + 1
      sorted := by
        rw [List.map_append, List.pairwise_append]
        refine ⟨table.sorted, List.pairwise_singleton _ _, fun id hid id' hid' => ?_⟩
        rw [List.mem_singleton.mp hid']
        exact Nat.lt_succ_of_le (table.bounded id hid).2
      bounded := by
        intro id hid
        rw [List.map_append] at hid
        rcases List.mem_append.mp hid with hid | hid
        · exact ⟨(table.bounded id hid).1, Nat.le_succ_of_le (table.bounded id hid).2⟩
        · rw [List.mem_singleton.mp hid]
          exact ⟨Nat.succ_pos _, Nat.le_refl _⟩ }
  else none

/-- `DELETE ... WHERE id = ?`. -/
def delete (table : AutoincrementTable Row) (id : Nat) : AutoincrementTable Row where
  rows := table.rows.filter fun row => row.1 ≠ id
  sequence := table.sequence
  sorted := table.sorted.sublist (List.filter_sublist.map _)
  bounded := fun id hid => table.bounded id ((List.filter_sublist.map _).subset hid)

/-- The number of rows that `delete` removes. -/
def changes (table : AutoincrementTable Row) (id : Nat) : Nat :=
  table.rows.length - (table.delete id).rows.length

/-- `SELECT ... ORDER BY id ASC LIMIT ?`; `none` is no limit. -/
def select (table : AutoincrementTable Row) (limit : Option Nat) : List (Nat × Row) :=
  match limit with
  | none => table.rows
  | some n => table.rows.take n

/-! ## Lemmas -/

/-- An insertion that succeeds adds the row at the end, with an id of its own. -/
theorem insert_rows {table table' : AutoincrementTable Row} {row : Row}
    (h : table.insert row = some table') :
    table'.rows = table.rows ++ [(table.sequence + 1, row)] ∧
      table'.sequence = table.sequence + 1 := by
  unfold insert at h
  split at h
  · obtain rfl := Option.some.inj h
    exact ⟨rfl, rfl⟩
  · exact nomatch h

/-- Deleting the first row leaves the others. -/
theorem delete_head {table : AutoincrementTable Row} {row : Nat × Row}
    {rest : List (Nat × Row)} (h : table.rows = row :: rest) :
    (table.delete row.1).rows = rest ∧ table.changes row.1 = 1 := by
  have hsorted := table.sorted
  rw [h, List.map_cons, List.pairwise_cons] at hsorted
  have hrest : (table.delete row.1).rows = rest := by
    simp only [delete, h, ne_eq, not_true_eq_false, decide_false, Bool.false_eq_true,
      not_false_eq_true, List.filter_cons_of_neg, List.filter_eq_self]
    intro other hother
    have := hsorted.1 other.1 (List.mem_map_of_mem hother)
    exact decide_eq_true (Nat.ne_of_gt this)
  refine ⟨hrest, ?_⟩
  rw [changes, hrest, h, List.length_cons]
  omega

/-- A table has at most as many rows as ids were given out. -/
theorem length_le_sequence (table : AutoincrementTable Row) :
    table.rows.length ≤ table.sequence := by
  have hnodup : table.ids.Nodup := table.sorted.imp Nat.ne_of_lt
  have hsubset : table.ids ⊆ List.range' 1 table.sequence := by
    intro id hid
    have hbounded := table.bounded id hid
    rw [List.mem_range'_1]
    omega
  have hle := (hnodup.subperm hsubset).length_le
  rwa [ids, List.length_map, List.length_range'] at hle

end AutoincrementTable
