import Mathlib.Algebra.Group.Nat.Defs

/-! # Event counters

An eventfd in its default mode: a 64-bit counter that never reaches the largest word. A write
adds to it, a read takes all of it, and neither blocks. -/

/-- The counter, below its bound. -/
@[ext] structure EventFd where
  counter : Nat
  bounded : counter ≤ 2 ^ 64 - 2
deriving DecidableEq

namespace EventFd

/-- A counter that was just made. -/
def empty : EventFd := ⟨0, Nat.zero_le _⟩

/-- A write: `none` for `EAGAIN`, where the counter would pass its bound. -/
def write (fd : EventFd) (count : Nat) : Option EventFd :=
  if h : fd.counter + count ≤ 2 ^ 64 - 2 then some ⟨fd.counter + count, h⟩ else none

/-- A read: `none` for `EAGAIN`, where there is nothing to take. -/
def read (fd : EventFd) : Option (EventFd × Nat) :=
  if fd.counter = 0 then none else some (empty, fd.counter)

/-- The descriptor is ready for `EPOLLIN`. -/
def readable (fd : EventFd) : Bool := fd.counter ≠ 0

@[simp] theorem counter_empty : empty.counter = 0 := rfl

theorem readable_iff (fd : EventFd) : fd.readable = true ↔ 0 < fd.counter := by
  simp [readable, Nat.pos_iff_ne_zero]

/-- A write that is accepted adds its count. -/
theorem write_eq_some_iff {fd fd' : EventFd} {count : Nat} :
    fd.write count = some fd' ↔ fd'.counter = fd.counter + count := by
  unfold write
  constructor
  · intro h
    split at h
    · rw [← Option.some.inj h]
    · exact nomatch h
  · intro h
    have hbounded := fd'.bounded
    rw [dif_pos (by omega)]
    exact congrArg some (EventFd.ext h.symm)

theorem write_eq_none_iff {fd : EventFd} {count : Nat} :
    fd.write count = none ↔ 2 ^ 64 - 2 < fd.counter + count := by
  unfold write
  split
  · simp
    omega
  · simp
    omega

/-- A read takes all there is, and there is something. -/
theorem read_eq_some_iff {fd fd' : EventFd} {count : Nat} :
    fd.read = some (fd', count) ↔ 0 < count ∧ fd.counter = count ∧ fd' = empty := by
  unfold read
  split
  · rename_i hzero
    simp only [false_iff, reduceCtorEq]
    rintro ⟨hpos, rfl, -⟩
    omega
  · rename_i hne
    simp only [Option.some.injEq, Prod.mk.injEq]
    constructor
    · rintro ⟨rfl, rfl⟩
      exact ⟨by omega, rfl, rfl⟩
    · rintro ⟨-, rfl, rfl⟩
      exact ⟨rfl, rfl⟩

/-- After a write that adds something the descriptor is readable, even where it was refused. -/
theorem readable_write (fd : EventFd) {count : Nat} (hpos : 0 < count)
    (hsmall : count ≤ 2 ^ 64 - 2) : 0 < ((fd.write count).getD fd).counter := by
  cases hwrite : fd.write count with
  | none =>
    have hfull := write_eq_none_iff.mp hwrite
    simp only [Option.getD_none]
    omega
  | some fd' =>
    have hcounter := write_eq_some_iff.mp hwrite
    simp only [Option.getD_some]
    omega

end EventFd
