import EdgeLink.ForStd.CappedDoubling
import EdgeLink.Native.ReconnectBackoff

/-! # Reconnect backoff correctness

What a `ReconnectBackoff` holds after a number of failures since its last `reset`.

* `Scheduled`: the fields after the failures of a list, newest first, in terms of
  `cappedDoubling`, and `Scheduled.recordFailure`, `scheduled_reset`, the two operations.
* `After`: the same where the counter has not wrapped, and the limits can be converted.
* `After.canRetry_cons`: a retry is allowed once the delay of the latest failure is over.
* `After.exact`: no step of `recordFailure` wraps. -/

namespace EdgeLink

namespace ReconnectBackoff

/-- Nanoseconds of a millisecond. -/
def nanosecondsPerMillisecond : Int := 1000000

/-- The backoff has its limits, and they can be converted to nanoseconds. -/
structure Configured (backoff : ReconnectBackoff) (initial maximum : Int) : Prop where
  initialDelay : backoff.initialDelay.toInt = initial
  maximumDelay : backoff.maximumDelay.toInt = maximum
  positive : 0 < initial
  ordered : initial ≤ maximum
  convertible : maximum * nanosecondsPerMillisecond < 2 ^ 63

/-- The time, in nanoseconds, at which a failure at `now` allows a retry, where `count`
    failures came before it since the last `reset`. -/
def retryTime (initial maximum : Int) (now : Int64) (count : Nat) : Int :=
  now.toInt + cappedDoubling initial maximum count * nanosecondsPerMillisecond

/-- The fields of a backoff after `failures`, the times of the failures since the last
    reset, newest first. There may be more failures than the counter can count. -/
structure Scheduled (backoff : ReconnectBackoff) (initial maximum : Int)
    (failures : List Int64) : Prop where
  initialDelay : backoff.initialDelay.toInt = initial
  maximumDelay : backoff.maximumDelay.toInt = maximum
  positive : 0 < initial
  ordered : initial ≤ maximum
  failureCount : backoff.failureCount.toNat = failures.length % 2 ^ 64
  nextDelay : backoff.nextDelay.toInt = cappedDoubling initial maximum failures.length
  retryAt : ∀ latest earlier, failures = latest :: earlier →
    backoff.retryAt.toInt = retryTime initial maximum latest earlier.length

/-- The same for a backoff whose limits can be converted and whose counter has not wrapped. -/
structure After (backoff : ReconnectBackoff) (initial maximum : Int)
    (failures : List Int64) : Prop extends Configured backoff initial maximum where
  failureCount : backoff.failureCount.toNat = failures.length
  nextDelay : backoff.nextDelay.toInt = cappedDoubling initial maximum failures.length
  retryAt : ∀ latest earlier, failures = latest :: earlier →
    backoff.retryAt.toInt = latest.toInt +
      cappedDoubling initial maximum earlier.length * nanosecondsPerMillisecond

/-- The results of `recordFailure` at `now` are those of exact arithmetic. -/
structure RecordsExactly (backoff : ReconnectBackoff) (now : Int64) : Prop where
  conversion : (nanosecondsOfMilliseconds backoff.nextDelay).toInt =
    backoff.nextDelay.toInt * nanosecondsPerMillisecond
  retryAt : (now + nanosecondsOfMilliseconds backoff.nextDelay).toInt =
    now.toInt + (nanosecondsOfMilliseconds backoff.nextDelay).toInt
  doubling : (backoff.nextDelay * 2).toInt = backoff.nextDelay.toInt * 2
  count : (backoff.failureCount + 1).toNat = backoff.failureCount.toNat + 1

variable {backoff : ReconnectBackoff} {initial maximum : Int} {failures : List Int64}

/-! ## The operations -/

/-- A new backoff has seen no failure. -/
theorem scheduled_create {initialDelay maximumDelay : Int64}
    (h : create initialDelay maximumDelay = some backoff) :
    backoff.Scheduled initialDelay.toInt maximumDelay.toInt [] := by
  simp only [create] at h
  split at h
  · exact nomatch h
  · rename_i hrange
    obtain rfl := Option.some.inj h
    rw [not_or, Int64.le_iff_toInt_le, Int64.lt_iff_toInt_lt, not_le, not_lt] at hrange
    have hzero : (0 : Int64).toInt = 0 := rfl
    constructor
    case initialDelay => rfl
    case maximumDelay => rfl
    case positive => omega
    case ordered => exact hrange.2
    case failureCount => rfl
    case nextDelay => exact (cappedDoubling_zero hrange.2).symm
    case retryAt => exact fun _ _ h => nomatch h

/-- `reset` forgets the failures. -/
theorem scheduled_reset (hinitial : backoff.initialDelay.toInt = initial)
    (hmaximum : backoff.maximumDelay.toInt = maximum) (hpositive : 0 < initial)
    (hordered : initial ≤ maximum) : backoff.reset.Scheduled initial maximum [] := by
  constructor
  case initialDelay => exact hinitial
  case maximumDelay => exact hmaximum
  case positive => exact hpositive
  case ordered => exact hordered
  case failureCount => rfl
  case nextDelay =>
    rw [List.length_nil, cappedDoubling_zero hordered]
    exact hinitial
  case retryAt => exact fun _ _ h => nomatch h

/-- Where the doubling does not wrap, the next delay is the next of the sequence. -/
theorem nextDelay_recordFailure {k : Nat} (hpositive : 0 < initial)
    (hordered : initial ≤ maximum) (hmaximum : backoff.maximumDelay.toInt = maximum)
    (hnext : backoff.nextDelay.toInt = cappedDoubling initial maximum k)
    (hdoubling : (backoff.nextDelay * 2).toInt = backoff.nextDelay.toInt * 2)
    (now : Int64) :
    (backoff.recordFailure now).nextDelay.toInt =
      cappedDoubling initial maximum (k + 1) := by
  simp only [ReconnectBackoff.recordFailure]
  split
  · rename_i hmax
    -- the maximum was reached before
    rw [Int64.le_iff_toInt_le, hmaximum, hnext] at hmax
    rw [cappedDoubling_succ_of_max hpositive hordered hmax]
    exact hmaximum
  · -- otherwise the doubled delay is cut at the maximum
    rw [cappedDoubling_succ hpositive hordered, ← hnext]
    split
    · rename_i hless
      rw [Int64.lt_iff_toInt_lt, hmaximum, hdoubling] at hless
      rw [hmaximum]
      omega
    · rename_i hless
      rw [Int64.lt_iff_toInt_lt, hmaximum, hdoubling] at hless
      rw [hdoubling]
      omega

/-- `recordFailure` adds a failure. -/
theorem Scheduled.recordFailure (h : backoff.Scheduled initial maximum failures)
    {now : Int64}
    (hdelay : cappedDoubling initial maximum failures.length *
      nanosecondsPerMillisecond < 2 ^ 63)
    (hretry : retryTime initial maximum now failures.length < 2 ^ 63) :
    (backoff.recordFailure now).Scheduled initial maximum (now :: failures) := by
  have hpositive := cappedDoubling_pos h.positive h.ordered failures.length
  have hlow := now.le_toInt
  simp only [retryTime, nanosecondsPerMillisecond] at hdelay hretry
  have hconversion : (nanosecondsOfMilliseconds backoff.nextDelay).toInt =
      cappedDoubling initial maximum failures.length * 1000000 := by
    have hunit : (1000000 : Int64).toInt = 1000000 := rfl
    rw [nanosecondsOfMilliseconds, Int64.toInt_mul_exact, hunit, h.nextDelay] <;>
      rw [hunit, h.nextDelay] <;> omega
  constructor
  case initialDelay => exact h.initialDelay
  case maximumDelay => exact h.maximumDelay
  case positive => exact h.positive
  case ordered => exact h.ordered
  case failureCount =>
    show (backoff.failureCount + 1).toNat = (failures.length + 1) % 2 ^ 64
    have hone : (1 : UInt64).toNat = 1 := rfl
    rw [UInt64.toNat_add, hone, h.failureCount]
    omega
  case nextDelay =>
    -- a delay that can be converted to nanoseconds can be doubled
    have hdoubling : (backoff.nextDelay * 2).toInt = backoff.nextDelay.toInt * 2 := by
      have htwo : (2 : Int64).toInt = 2 := rfl
      rw [Int64.toInt_mul_exact, htwo] <;> rw [htwo, h.nextDelay] <;> omega
    exact nextDelay_recordFailure h.positive h.ordered h.maximumDelay h.nextDelay hdoubling now
  case retryAt =>
    intro latest earlier heq
    obtain ⟨rfl, rfl⟩ := List.cons.inj heq
    show (now + nanosecondsOfMilliseconds backoff.nextDelay).toInt = _
    have hsum := @Int64.toInt_add_exact now (nanosecondsOfMilliseconds backoff.nextDelay)
    rw [hconversion] at hsum
    exact hsum (by omega) hretry

/-! ## Within the range of the clock -/

/-- A count below the wrap is exact. -/
theorem Scheduled.after (h : backoff.Scheduled initial maximum failures)
    (hconvertible : maximum * nanosecondsPerMillisecond < 2 ^ 63)
    (hcount : failures.length < 2 ^ 64) : backoff.After initial maximum failures where
  toConfigured := ⟨h.initialDelay, h.maximumDelay, h.positive, h.ordered, hconvertible⟩
  failureCount := h.failureCount.trans (Nat.mod_eq_of_lt hcount)
  nextDelay := h.nextDelay
  retryAt := h.retryAt

theorem After.scheduled (h : backoff.After initial maximum failures) :
    backoff.Scheduled initial maximum failures where
  initialDelay := h.initialDelay
  maximumDelay := h.maximumDelay
  positive := h.positive
  ordered := h.ordered
  failureCount := by
    have hlt := backoff.failureCount.toNat_lt
    rw [h.failureCount] at hlt ⊢
    exact (Nat.mod_eq_of_lt hlt).symm
  nextDelay := h.nextDelay
  retryAt := h.retryAt

theorem after_create {initialDelay maximumDelay : Int64}
    (hfits : maximumDelay.toInt * nanosecondsPerMillisecond < 2 ^ 63)
    (h : create initialDelay maximumDelay = some backoff) :
    backoff.After initialDelay.toInt maximumDelay.toInt [] :=
  (scheduled_create h).after hfits (by decide)

theorem Configured.reset (h : backoff.Configured initial maximum) :
    backoff.reset.After initial maximum [] :=
  (scheduled_reset h.initialDelay h.maximumDelay h.positive h.ordered).after h.convertible
    (by decide)

/-- Nothing wraps where the clock is far enough from its end. -/
theorem After.exact (h : backoff.After initial maximum failures) {now : Int64}
    (hnow : now.toInt + maximum * nanosecondsPerMillisecond < 2 ^ 63)
    (hcount : failures.length + 1 < 2 ^ 64) : backoff.RecordsExactly now := by
  have hpositive := cappedDoubling_pos h.positive h.ordered failures.length
  have hle := cappedDoubling_le initial maximum failures.length
  -- the delay is positive and at most `maximum`, which can be converted
  rw [← h.nextDelay] at hpositive hle
  have hfits := h.convertible
  have hlow := now.le_toInt
  simp only [nanosecondsPerMillisecond] at hfits hnow
  have hconversion : (nanosecondsOfMilliseconds backoff.nextDelay).toInt =
      backoff.nextDelay.toInt * 1000000 := by
    have hunit : (1000000 : Int64).toInt = 1000000 := rfl
    rw [nanosecondsOfMilliseconds, Int64.toInt_mul_exact, hunit] <;> rw [hunit] <;> omega
  constructor
  case conversion => exact hconversion
  case retryAt =>
    apply Int64.toInt_add_exact
    · rw [hconversion]
      omega
    · rw [hconversion]
      omega
  case doubling =>
    have htwo : (2 : Int64).toInt = 2 := rfl
    rw [Int64.toInt_mul_exact, htwo] <;> rw [htwo] <;> omega
  case count =>
    have hone : (1 : UInt64).toNat = 1 := rfl
    rw [UInt64.toNat_add, hone, h.failureCount]
    exact Nat.mod_eq_of_lt hcount

/-- `recordFailure` adds a failure. -/
theorem After.recordFailure (h : backoff.After initial maximum failures) {now : Int64}
    (hnow : now.toInt + maximum * nanosecondsPerMillisecond < 2 ^ 63)
    (hcount : failures.length + 1 < 2 ^ 64) :
    (backoff.recordFailure now).After initial maximum (now :: failures) := by
  have hle := cappedDoubling_le initial maximum failures.length
  have hfits := h.convertible
  have hdelay : cappedDoubling initial maximum failures.length * nanosecondsPerMillisecond ≤
      maximum * nanosecondsPerMillisecond := by
    simp only [nanosecondsPerMillisecond]
    omega
  have hretry : retryTime initial maximum now failures.length < 2 ^ 63 := by
    rw [retryTime]
    omega
  exact (h.scheduled.recordFailure (by omega) hretry).after hfits hcount

/-- Without failures a retry is allowed at once. -/
theorem After.canRetry_nil (h : backoff.After initial maximum []) (now : Int64) :
    backoff.canRetry now = true := by
  have hzero : backoff.failureCount = 0 := by
    apply UInt64.toNat_inj.mp
    rw [h.failureCount]
    rfl
  simp [canRetry, hzero]

/-- After a failure a retry is allowed once its delay is over. -/
theorem After.canRetry_cons {latest : Int64} {earlier : List Int64}
    (h : backoff.After initial maximum (latest :: earlier)) (now : Int64) :
    backoff.canRetry now = true ↔
      latest.toInt + cappedDoubling initial maximum earlier.length *
        nanosecondsPerMillisecond ≤ now.toInt := by
  have hcount : backoff.failureCount ≠ 0 := by
    intro hzero
    have hlength := h.failureCount
    rw [hzero] at hlength
    exact nomatch hlength
  rw [← h.retryAt latest earlier rfl, ← Int64.le_iff_toInt_le]
  simp [canRetry, hcount]

end ReconnectBackoff

end EdgeLink
