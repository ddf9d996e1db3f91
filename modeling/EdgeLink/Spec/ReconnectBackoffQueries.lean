import Mathlib.Data.List.Induction
import EdgeLink.Spec.ReconnectBackoffCorrect

/-! # The two queries of a backoff

`canRetry` compares time points in nanoseconds, and `remainingDelay` cuts the difference to
milliseconds. So in the last millisecond before the retry time the remaining delay is zero
while a retry is still forbidden.

* `scheduled_perform`: every run within the range of the clock leads to the schedule of its
  failures, however many there were. The counter of failures wraps, the delays do not.
* `Scheduled.agree_iff`, `queries_agree_iff`: when the two queries agree. -/

namespace EdgeLink

/-- The calls that change a backoff. -/
inductive BackoffCall where
  | recordFailure (now : Int64)
  | reset

/-- The reading of the clock that a call makes. -/
def BackoffCall.reading : BackoffCall → Option Int64
  | .recordFailure now => some now
  | .reset => none

namespace ReconnectBackoff

/-- One call. -/
def call (backoff : ReconnectBackoff) : BackoffCall → ReconnectBackoff
  | .recordFailure now => backoff.recordFailure now
  | .reset => backoff.reset

/-- A run of calls. -/
def perform (backoff : ReconnectBackoff) (calls : List BackoffCall) : ReconnectBackoff :=
  calls.foldl call backoff

/-- The times of the failures since the last `reset` of a run, newest first. -/
def failuresSince (calls : List BackoffCall) : List Int64 :=
  calls.foldl (fun failures call =>
    match call with
    | .recordFailure now => now :: failures
    | .reset => []) []

/-- The readings of a run, and `now` after it, are those of a monotone clock, and the delays
    and retry times that it leads to are within the range of the clock. -/
structure InRange (initial maximum : Int) (calls : List BackoffCall) (now : Int64) :
    Prop where
  monotone : (calls.filterMap BackoffCall.reading ++ [now]).Pairwise (· ≤ ·)
  delay : ∀ earlier time later, calls = earlier ++ .recordFailure time :: later →
    cappedDoubling initial maximum (failuresSince earlier).length *
      nanosecondsPerMillisecond < 2 ^ 63
  retry : ∀ earlier time later, calls = earlier ++ .recordFailure time :: later →
    retryTime initial maximum time (failuresSince earlier).length < 2 ^ 63

variable {backoff : ReconnectBackoff} {initial maximum : Int} {failures : List Int64}

/-! ## Runs -/

@[simp] theorem failuresSince_recordFailure (calls : List BackoffCall) (now : Int64) :
    failuresSince (calls ++ [.recordFailure now]) = now :: failuresSince calls := by
  simp [failuresSince]

@[simp] theorem failuresSince_reset (calls : List BackoffCall) :
    failuresSince (calls ++ [.reset]) = [] := by
  simp [failuresSince]

@[simp] theorem perform_append_singleton (backoff : ReconnectBackoff)
    (calls : List BackoffCall) (last : BackoffCall) :
    backoff.perform (calls ++ [last]) = (backoff.perform calls).call last := by
  simp [perform]

/-- A run without its last call is in range as well. -/
theorem InRange.dropLast {calls : List BackoffCall} {last : BackoffCall} {now : Int64}
    (h : InRange initial maximum (calls ++ [last]) now) :
    InRange initial maximum calls now := by
  constructor
  case monotone =>
    refine List.Pairwise.sublist ?_ h.monotone
    rw [List.filterMap_append]
    exact (List.sublist_append_left _ _).append_right _
  case delay =>
    intro earlier time later heq
    exact h.delay earlier time (later ++ [last]) (by simp [heq])
  case retry =>
    intro earlier time later heq
    exact h.retry earlier time (later ++ [last]) (by simp [heq])

/-- Every run within the range of the clock leads to the schedule of its failures. -/
theorem scheduled_perform (h : backoff.Scheduled initial maximum [])
    (calls : List BackoffCall) {now : Int64} (hrange : InRange initial maximum calls now) :
    (backoff.perform calls).Scheduled initial maximum (failuresSince calls) := by
  induction calls using List.reverseRecOn with
  | nil => exact h
  | append_singleton calls last ih =>
    have hscheduled := ih hrange.dropLast
    rw [perform_append_singleton]
    cases last with
    | recordFailure time =>
      rw [failuresSince_recordFailure]
      exact hscheduled.recordFailure (hrange.delay calls time [] rfl)
        (hrange.retry calls time [] rfl)
    | reset =>
      rw [failuresSince_reset]
      exact scheduled_reset hscheduled.initialDelay hscheduled.maximumDelay
        hscheduled.positive hscheduled.ordered

/-- The failures of a run were not after the readings that follow it. -/
theorem InRange.failures_le {calls : List BackoffCall} {now : Int64}
    (h : InRange initial maximum calls now) :
    ∀ time ∈ failuresSince calls, time.toInt ≤ now.toInt := by
  induction calls using List.reverseRecOn with
  | nil => exact fun _ hmem => nomatch hmem
  | append_singleton calls last ih =>
    cases last with
    | recordFailure time =>
      have hmonotone := h.monotone
      rw [List.filterMap_append, List.pairwise_append] at hmonotone
      have hle : time ≤ now :=
        hmonotone.2.2 time (List.mem_append_right _ List.mem_cons_self) now
          List.mem_cons_self
      rw [failuresSince_recordFailure, List.forall_mem_cons]
      exact ⟨Int64.le_iff_toInt_le.mp hle, ih h.dropLast⟩
    | reset =>
      rw [failuresSince_reset]
      exact fun _ hmem => nomatch hmem

/-- Where a failure is the last one noted, it was the last call. -/
theorem eq_append_of_failuresSince {calls : List BackoffCall} {latest : Int64}
    {earlier : List Int64} (h : failuresSince calls = latest :: earlier) :
    ∃ before, calls = before ++ [.recordFailure latest] ∧ failuresSince before = earlier := by
  induction calls using List.reverseRecOn with
  | nil => exact nomatch h
  | append_singleton calls last =>
    cases last with
    | recordFailure time =>
      rw [failuresSince_recordFailure] at h
      obtain ⟨rfl, rfl⟩ := List.cons.inj h
      exact ⟨calls, rfl, rfl⟩
    | reset =>
      rw [failuresSince_reset] at h
      exact nomatch h

/-! ## The queries -/

/-- Without failures, as far as the counter shows them, both queries allow a retry. -/
theorem queries_of_zero (h : backoff.failureCount = 0) (now : Int64) :
    backoff.remainingDelay now = 0 ∧ backoff.canRetry now = true := by
  constructor
  · exact if_pos h
  · simp [canRetry, h]

/-- The remaining delay is cut to whole milliseconds. -/
theorem remainingDelay_eq_zero_iff (h : backoff.failureCount ≠ 0) {now : Int64}
    (hfits : backoff.retryAt.toInt - now.toInt < 2 ^ 63) :
    backoff.remainingDelay now = 0 ↔
      backoff.retryAt.toInt < now.toInt + nanosecondsPerMillisecond := by
  rw [remainingDelay, if_neg h, nanosecondsPerMillisecond]
  split
  · rename_i hover
    rw [Int64.le_iff_toInt_le] at hover
    exact iff_of_true rfl (by omega)
  · rename_i hbefore
    rw [Int64.le_iff_toInt_le] at hbefore
    have hdifference :
        (backoff.retryAt - now).toInt = backoff.retryAt.toInt - now.toInt := by
      rw [Int64.toInt_sub]
      exact Int.bmod_eq_of_le (by omega) (by omega)
    have hdiv := Int64.toInt_div_of_ne_right (backoff.retryAt - now) 1000000 (by decide)
    have hunit : (1000000 : Int64).toInt = 1000000 := rfl
    rw [hdifference, hunit, Int.tdiv_eq_ediv_of_nonneg (by omega)] at hdiv
    rw [← Int64.toInt_inj, hdiv, show (0 : Int64).toInt = 0 from rfl]
    omega

/-- After a failure at `latest`, the queries agree unless the counter shows the failure and the
    reading is in the last millisecond before the retry time. -/
theorem Scheduled.agree_iff {latest : Int64} {earlier : List Int64}
    (h : backoff.Scheduled initial maximum (latest :: earlier)) {now : Int64}
    (hlatest : latest.toInt ≤ now.toInt)
    (hdelay : cappedDoubling initial maximum earlier.length * nanosecondsPerMillisecond <
      2 ^ 63) :
    (backoff.remainingDelay now = 0 ↔ backoff.canRetry now = true) ↔
      (earlier.length + 1) % 2 ^ 64 = 0 ∨
        retryTime initial maximum latest earlier.length ≤ now.toInt ∨
        now.toInt + nanosecondsPerMillisecond ≤
          retryTime initial maximum latest earlier.length := by
  have hretryAt := h.retryAt latest earlier rfl
  have hmod : backoff.failureCount.toNat = (earlier.length + 1) % 2 ^ 64 := h.failureCount
  by_cases hcount : backoff.failureCount = 0
  · obtain ⟨hremaining, hretry⟩ := queries_of_zero hcount now
    rw [hcount] at hmod
    exact iff_of_true (iff_of_true hremaining hretry) (.inl hmod.symm)
  · have hwrapped : (earlier.length + 1) % 2 ^ 64 ≠ 0 := by
      rw [← hmod]
      exact fun hzero => hcount (UInt64.toNat_inj.mp hzero)
    have hcan : backoff.canRetry now = true ↔ backoff.retryAt.toInt ≤ now.toInt := by
      rw [← Int64.le_iff_toInt_le]
      simp [canRetry, hcount]
    have hfits : backoff.retryAt.toInt - now.toInt < 2 ^ 63 := by
      rw [hretryAt, retryTime]
      omega
    have hunit : nanosecondsPerMillisecond = 1000000 := rfl
    rw [remainingDelay_eq_zero_iff hcount hfits, hcan, hretryAt]
    omega

/-- For every accepted backoff, every run within the range of a monotone clock and every
    later reading, `remainingDelay` is zero exactly when `canRetry` is true, unless the
    reading lies less than a millisecond before the retry time. A counter that has wrapped
    to zero allows a retry in both queries. -/
theorem queries_agree_iff {initialDelay maximumDelay : Int64}
    (h : create initialDelay maximumDelay = some backoff) (calls : List BackoffCall)
    (now : Int64) (hrange : InRange initialDelay.toInt maximumDelay.toInt calls now) :
    ((backoff.perform calls).remainingDelay now = 0 ↔
        (backoff.perform calls).canRetry now = true) ↔
      ∀ latest earlier, failuresSince calls = latest :: earlier →
        (earlier.length + 1) % 2 ^ 64 = 0 ∨
          retryTime initialDelay.toInt maximumDelay.toInt latest earlier.length ≤
            now.toInt ∨
          now.toInt + nanosecondsPerMillisecond ≤
            retryTime initialDelay.toInt maximumDelay.toInt latest earlier.length := by
  have hscheduled := scheduled_perform (scheduled_create h) calls hrange
  have hpast := hrange.failures_le
  generalize backoff.perform calls = reached at hscheduled
  cases hfailures : failuresSince calls with
  | nil =>
    rw [hfailures] at hscheduled
    have hzero : reached.failureCount = 0 :=
      UInt64.toNat_inj.mp hscheduled.failureCount
    obtain ⟨hdelay, hretry⟩ := queries_of_zero hzero now
    exact iff_of_true (iff_of_true hdelay hretry) fun _ _ heq => nomatch heq
  | cons latest earlier =>
    rw [hfailures] at hscheduled hpast
    obtain ⟨before, hcalls, hearlier⟩ := eq_append_of_failuresSince hfailures
    have hdelay := hrange.delay before latest [] hcalls
    rw [hearlier] at hdelay
    rw [hscheduled.agree_iff (hpast latest List.mem_cons_self) hdelay]
    constructor
    · intro hagree other others heq
      obtain ⟨rfl, rfl⟩ := List.cons.inj heq
      exact hagree
    · intro hall
      exact hall latest earlier rfl

/-- A run of one failure is in range where its retry time is. -/
theorem inRange_recordFailure {time now : Int64} (hle : time ≤ now)
    (hdelay : cappedDoubling initial maximum 0 * nanosecondsPerMillisecond < 2 ^ 63)
    (hretry : retryTime initial maximum time 0 < 2 ^ 63) :
    InRange initial maximum [.recordFailure time] now := by
  have hsingle (earlier : List BackoffCall) (other : Int64) (later : List BackoffCall)
      (heq : [BackoffCall.recordFailure time] = earlier ++ .recordFailure other :: later) :
      earlier = [] ∧ other = time := by
    cases earlier with
    | nil => exact ⟨rfl, (BackoffCall.recordFailure.inj (List.cons.inj heq).1).symm⟩
    | cons call earlier => simp at heq
  constructor
  case monotone => exact List.pairwise_pair.mpr hle
  case delay =>
    intro earlier other later heq
    obtain ⟨rfl, rfl⟩ := hsingle earlier other later heq
    exact hdelay
  case retry =>
    intro earlier other later heq
    obtain ⟨rfl, rfl⟩ := hsingle earlier other later heq
    exact hretry

/-- A failure with a delay of a millisecond, asked about after a nanosecond: nothing is left
    to wait, and a retry is forbidden. -/
theorem queries_disagree :
    ∃ backoff, create 1 1 = some backoff ∧ InRange 1 1 [.recordFailure 0] 1 ∧
      (backoff.perform [.recordFailure 0]).remainingDelay 1 = 0 ∧
      (backoff.perform [.recordFailure 0]).canRetry 1 = false := by
  refine ⟨_, rfl, ?_, rfl, rfl⟩
  exact inRange_recordFailure (by decide) (by decide) (by decide)

/-- A millisecond after the failure both queries allow a retry. -/
theorem queries_agree_after_wait :
    ∃ backoff, create 1 1 = some backoff ∧ InRange 1 1 [.recordFailure 0] 1000000 ∧
      ((backoff.perform [.recordFailure 0]).remainingDelay 1000000 = 0 ↔
        (backoff.perform [.recordFailure 0]).canRetry 1000000 = true) := by
  have hcreate : create 1 1 = some ⟨1, 1, 1, 0, 0⟩ := rfl
  have hrange : InRange 1 1 [.recordFailure 0] 1000000 :=
    inRange_recordFailure (by decide) (by decide) (by decide)
  refine ⟨_, hcreate, hrange, (queries_agree_iff hcreate _ _ hrange).mpr ?_⟩
  intro latest earlier heq
  obtain ⟨rfl, rfl⟩ := List.cons.inj heq
  exact .inr (.inl (by decide))

end ReconnectBackoff

end EdgeLink
