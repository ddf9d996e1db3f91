import Mathlib.Data.List.Basic
import Mathlib.Order.Basic

/-! # Timer descriptors

What the kernel keeps for a timer descriptor, in nanoseconds of a clock that never goes back,
and a record of the reads that found something to take.

* `TimerFd.setTime`, `TimerFd.read`: a new setting drops what was not read yet; a read takes
  all expirations since the one before it, and does not block.
* `expirations_periodic`, `expirations_once`: how often a setting has gone off.
* `TimerRecord.Served`: no two reads took the same expiration, kept by all operations.
* `Served.read_iff`: the next read finds something exactly when the setting has gone off
  since the last one. -/

/-- A timer descriptor. -/
structure TimerFd where
  /-- When the setting goes off first; `none` while disarmed. -/
  first : Option Nat := none
  interval : Nat := 0
  /-- The expirations that were read. -/
  taken : Nat := 0
deriving DecidableEq

namespace TimerFd

/-- A new setting: it goes off after `value`, and then every `interval` if that is not zero.
    A `value` of zero disarms. -/
def setTime (now value interval : Nat) : TimerFd :=
  if value = 0 then {} else { first := some (now + value), interval }

/-- How often the setting has gone off. -/
def expirations (timer : TimerFd) (now : Nat) : Nat :=
  match timer.first with
  | none => 0
  | some first =>
    if now < first then 0
    else if timer.interval = 0 then 1
    else (now - first) / timer.interval + 1

/-- A read: the number of expirations since the last one, `none` for `EAGAIN`. -/
def read (timer : TimerFd) (now : Nat) : TimerFd × Option Nat :=
  if timer.expirations now ≤ timer.taken then (timer, none)
  else
    ({ timer with taken := timer.expirations now }, some (timer.expirations now - timer.taken))

@[simp] theorem expirations_disarmed (now : Nat) : expirations {} now = 0 := rfl

@[simp] theorem expirations_taken (timer : TimerFd) (taken now : Nat) :
    expirations { timer with taken } now = timer.expirations now := rfl

/-- A setting goes off again and again, never less often. -/
theorem expirations_mono (timer : TimerFd) {now later : Nat} (h : now ≤ later) :
    timer.expirations now ≤ timer.expirations later := by
  unfold expirations
  cases timer.first with
  | none => exact Nat.le_refl 0
  | some first =>
    simp only
    by_cases hnow : now < first
    · rw [if_pos hnow]
      exact Nat.zero_le _
    · have hlater : ¬ later < first := by omega
      rw [if_neg hnow, if_neg hlater]
      split
      · exact Nat.le_refl 1
      · exact Nat.succ_le_succ (Nat.div_le_div_right (by omega))

/-- A periodic setting has gone off once for every whole interval since it was made. -/
theorem expirations_periodic {interval : Nat} (hpos : 0 < interval) (start now : Nat) :
    (setTime start interval interval).expirations now = (now - start) / interval := by
  rw [setTime, if_neg (by omega)]
  simp only [expirations]
  by_cases hfirst : now < start + interval
  · rw [if_pos hfirst, Nat.div_eq_of_lt (by omega)]
  · rw [if_neg hfirst, if_neg (by omega), ← Nat.add_div_right _ hpos]
    congr 1
    omega

/-- A setting without an interval goes off once. -/
theorem expirations_once {value : Nat} (hpos : 0 < value) (start now : Nat) :
    (setTime start value 0).expirations now = if start + value ≤ now then 1 else 0 := by
  rw [setTime, if_neg (by omega)]
  simp only [expirations, if_pos]
  split <;> split <;> omega

/-- A setting of zero does not go off. -/
theorem expirations_zero (start interval now : Nat) :
    (setTime start 0 interval).expirations now = 0 := rfl

end TimerFd

/-! ## A record of the reads -/

/-- A timer descriptor, when it was set last, and when it was read with success since then,
    newest first. -/
structure TimerRecord where
  timerFd : TimerFd := {}
  setAt : Nat := 0
  reads : List Nat := []
deriving DecidableEq

namespace TimerRecord

/-- A new setting. -/
def setTime (now value interval : Nat) : TimerRecord :=
  { timerFd := TimerFd.setTime now value interval, setAt := now }

/-- A read. -/
def read (record : TimerRecord) (now : Nat) : TimerRecord × Option Nat :=
  match record.timerFd.read now with
  | (_, none) => (record, none)
  | (timerFd, some count) => ({ record with timerFd, reads := now :: record.reads }, some count)

/-- How often the setting had gone off at each read, newest first. -/
def counts (record : TimerRecord) : List Nat := record.reads.map record.timerFd.expirations

/-- Each read came after an expiration that no read before it had seen. -/
structure Served (record : TimerRecord) (now : Nat) : Prop where
  taken : record.timerFd.taken = record.counts.headD 0
  fresh : (record.counts ++ [0]).Pairwise (· > ·)
  past : ∀ time ∈ record.reads, time ≤ now

variable {record : TimerRecord} {now : Nat}

/-- Nothing was read from a new setting. -/
theorem served_setTime (start value interval now : Nat) :
    (setTime start value interval).Served now := by
  refine ⟨?_, List.pairwise_singleton _ _, List.forall_mem_nil _⟩
  show (TimerFd.setTime start value interval).taken = 0
  unfold TimerFd.setTime
  split <;> rfl

/-- Time goes on. -/
theorem Served.later (h : record.Served now) {later : Nat} (hle : now ≤ later) :
    record.Served later :=
  ⟨h.taken, h.fresh, fun time hmem => Nat.le_trans (h.past time hmem) hle⟩

/-- The last read had seen more than the ones before it. -/
theorem Served.count_le_taken (h : record.Served now) {time : Nat} (hmem : time ∈ record.reads) :
    record.timerFd.expirations time ≤ record.timerFd.taken := by
  have hcount : record.timerFd.expirations time ∈ record.counts := List.mem_map_of_mem hmem
  have hfresh := (List.pairwise_append.mp h.fresh).1
  rw [h.taken]
  cases hcounts : record.counts with
  | nil => exact absurd (hcounts ▸ hcount) List.not_mem_nil
  | cons last earlier =>
    rw [hcounts] at hcount hfresh
    obtain heq | hearlier := List.mem_cons.mp hcount
    · exact Nat.le_of_eq heq
    · exact Nat.le_of_lt ((List.pairwise_cons.mp hfresh).1 _ hearlier)

/-- What was read is what the last read had seen. -/
theorem Served.taken_lt_iff (h : record.Served now) (count : Nat) :
    record.timerFd.taken < count ↔
      0 < count ∧ ∀ time ∈ record.reads, record.timerFd.expirations time < count := by
  constructor
  · intro hlt
    exact ⟨by omega, fun time hmem => Nat.lt_of_le_of_lt (h.count_le_taken hmem) hlt⟩
  · rintro ⟨hpos, hall⟩
    rw [h.taken, counts]
    cases hreads : record.reads with
    | nil => exact hpos
    | cons last earlier => exact hall last (hreads ▸ List.mem_cons_self)

/-- The next read finds something exactly when the setting has gone off since the last one
    that did. -/
theorem Served.read_iff (h : record.Served now) :
    (record.read now).2.isSome ↔
      0 < record.timerFd.expirations now ∧ ∀ time ∈ record.reads,
        record.timerFd.expirations time < record.timerFd.expirations now := by
  rw [← h.taken_lt_iff, read, TimerFd.read]
  split <;> rename_i hread
  · split at hread <;> simp_all
  · split at hread <;> simp_all

/-- A list of decreasing numbers between zero and a bound is not longer than the bound. -/
theorem length_le_of_pairwise_gt {numbers : List Nat} {bound : Nat}
    (h : (numbers ++ [0]).Pairwise (· > ·)) (hbound : ∀ number ∈ numbers, number ≤ bound) :
    numbers.length ≤ bound := by
  induction numbers generalizing bound with
  | nil => exact Nat.zero_le bound
  | cons number rest ih =>
    obtain ⟨hlt, hrest⟩ := List.pairwise_cons.mp h
    have hnumber := hbound number List.mem_cons_self
    have hpositive := hlt 0 (by simp)
    have hlength : rest.length ≤ number - 1 := by
      refine ih hrest fun other hmem => ?_
      have hother := hlt other (List.mem_append_left _ hmem)
      omega
    rw [List.length_cons]
    omega

/-- There were no more reads than expirations. -/
theorem Served.length_reads_le (h : record.Served now) :
    record.reads.length ≤ record.timerFd.expirations now := by
  rw [← List.length_map record.timerFd.expirations]
  refine length_le_of_pairwise_gt h.fresh fun count hcount => ?_
  obtain ⟨time, htime, rfl⟩ := List.mem_map.mp hcount
  exact record.timerFd.expirations_mono (h.past time htime)

/-- A read that finds nothing changes nothing. -/
theorem read_of_none (h : (record.read now).2 = none) : (record.read now).1 = record := by
  unfold read at h ⊢
  split
  · rfl
  · rename_i hread
    rw [hread] at h
    exact nomatch h

/-- A read with success is noted; the setting stays. -/
theorem read_of_some {count : Nat} (h : (record.read now).2 = some count) :
    record.timerFd.taken < record.timerFd.expirations now ∧
      (record.read now).1 =
        { record with
          timerFd := { record.timerFd with taken := record.timerFd.expirations now }
          reads := now :: record.reads } := by
  unfold read TimerFd.read at h ⊢
  by_cases hnew : record.timerFd.expirations now ≤ record.timerFd.taken
  · rw [if_pos hnew] at h
    exact nomatch h
  · rw [if_neg hnew]
    exact ⟨by omega, rfl⟩

/-- Reading keeps the record right. -/
theorem Served.read (h : record.Served now) : (record.read now).1.Served now := by
  cases hread : (record.read now).2 with
  | none =>
    rw [read_of_none hread]
    exact h
  | some count =>
    obtain ⟨hnew, heq⟩ := read_of_some hread
    rw [heq]
    refine ⟨rfl, ?_, ?_⟩
    · have hlt : ∀ earlier ∈ record.counts ++ [0],
          earlier < record.timerFd.expirations now := by
        obtain ⟨hpos, hall⟩ := (h.taken_lt_iff _).mp hnew
        intro earlier hmem
        obtain hmem | hzero := List.mem_append.mp hmem
        · obtain ⟨time, htime, rfl⟩ := List.mem_map.mp hmem
          exact hall time htime
        · rw [List.mem_singleton.mp hzero]
          exact hpos
      exact List.pairwise_cons.mpr ⟨hlt, h.fresh⟩
    · intro time hmem
      obtain rfl | hold := List.mem_cons.mp hmem
      · exact Nat.le_refl _
      · exact h.past time hold

/-- The setting is the one that was made last. -/
theorem read_timerFd (record : TimerRecord) (now : Nat) :
    (record.read now).1.timerFd.first = record.timerFd.first ∧
      (record.read now).1.timerFd.interval = record.timerFd.interval ∧
      (record.read now).1.setAt = record.setAt := by
  cases hread : (record.read now).2 with
  | none => rw [read_of_none hread]; exact ⟨rfl, rfl, rfl⟩
  | some count => rw [(read_of_some hread).2]; exact ⟨rfl, rfl, rfl⟩

end TimerRecord
