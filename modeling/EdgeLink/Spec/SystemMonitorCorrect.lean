import Mathlib.Algebra.Order.BigOperators.Group.List
import Mathlib.Algebra.Order.Field.Rat
import Mathlib.Tactic.Linarith
import Mathlib.Tactic.Positivity
import EdgeLink.Native.SystemMonitor

/-! # The arithmetic of the system monitor

The counters of the kernel are any numbers of 64 bits, and the baseline is from an earlier
call. The guards of `sampleCpu` and `sampleMemory` are exact: a sum is refused only where it
does not fit, so no operation wraps and an accepted line has the times that its counters add
up to (`acceptedTimes`).

## Key results

* `addCounters_cases`, `currentTimes_cases`: accepted or refused, against exact sums.
* `sampleCpu_cases`, `sampleMemory_cases`: what the two halves of a sample can do.
* `acceptedTimes_cpuLine`: every list of counters can be on the line.
* `sample_arithmetic`: all samples of all runs. -/

namespace EdgeLink

open CText

/-! ## Times in exact numbers -/

/-- The sum of the counters that `sampleCpu` looks at. -/
def totalTime (counters : List UInt64) : Nat := ((counters.take 8).map UInt64.toNat).sum

/-- The sum of the fourth and the fifth counter. -/
def idleTime (counters : List UInt64) : Nat :=
  (((counters.drop 3).take 2).map UInt64.toNat).sum

/-- The total and the idle time of a line that `sampleCpu` accepts. -/
def acceptedTimes (procStat : Option Bytes) : Option (Nat × Nat) :=
  match cpuCounters procStat with
  | none => none
  | some counters =>
    if 4 ≤ counters.length ∧ totalTime counters < 2 ^ 64 then
      some (totalTime counters, idleTime counters)
    else none

/-- The busy share of the time between two samples. -/
def busyShare (previous current : Nat × Nat) : ℚ :=
  (((current.1 : ℚ) - previous.1) - ((current.2 : ℚ) - previous.2)) /
    ((current.1 : ℚ) - previous.1)

/-- The idle time is part of the total. -/
theorem idleTime_le_totalTime (counters : List UInt64) :
    idleTime counters ≤ totalTime counters := by
  have hsublist : ((counters.drop 3).take 2).Sublist (counters.take 8) := by
    have hdrop := List.drop_sublist 3 (counters.take 8)
    rw [List.drop_take] at hdrop
    exact (List.take_sublist_take_left (by decide)).trans hdrop
  exact (hsublist.map UInt64.toNat).sum_le_sum fun _ _ => Nat.zero_le _

/-- A first line with the given counters. -/
def cpuLine (counters : List UInt64) : Bytes := ascii "cpu" ++ joined counters

/-- Every list of counters can be read from a line. -/
theorem cpuCounters_cpuLine (counters : List UInt64) :
    cpuCounters (some (cpuLine counters)) = some counters := by
  have hline : lines (cpuLine counters) = [cpuLine counters] := by
    apply lines_eq_singleton
    · exact List.append_ne_nil_of_left_ne_nil (by decide) _
    · intro hmem
      obtain hlabel | hcounters := List.mem_append.mp hmem
      · exact absurd hlabel (by decide)
      · exact lineBreak_not_mem_joined counters hcounters
  have hword : extractWord (cpuLine counters) = some (ascii "cpu", joined counters) :=
    extractWord_joined (by decide) (by decide) counters
  simp only [cpuCounters, Option.map_some, hline, hword, if_true, extractCounters_joined]

/-- It is accepted if there are four counters and their sum fits. -/
theorem acceptedTimes_cpuLine {counters : List UInt64} (hlength : 4 ≤ counters.length)
    (hfits : totalTime counters < 2 ^ 64) :
    acceptedTimes (some (cpuLine counters)) = some (totalTime counters, idleTime counters) := by
  rw [acceptedTimes, cpuCounters_cpuLine]
  exact if_pos ⟨hlength, hfits⟩

/-! ## Guarded sums -/

/-- The loop adds the counters up, unless the sum does not fit. -/
theorem addCounters_cases (total : UInt64) (counters : List UInt64) :
    (∃ sum, addCounters total counters = some (some sum) ∧
        sum.toNat = total.toNat + (counters.map UInt64.toNat).sum) ∨
      (addCounters total counters = some none ∧
        2 ^ 64 ≤ total.toNat + (counters.map UInt64.toNat).sum) := by
  induction counters generalizing total with
  | nil => exact .inl ⟨total, rfl, rfl⟩
  | cons counter counters ih =>
    obtain ⟨room, hroom, ⟨hguard, hover⟩ | ⟨hguard, sum, hsum, hexact⟩⟩ :=
      UInt64.add_guard total counter
    · right
      rw [List.map_cons, List.sum_cons]
      exact ⟨by simp [addCounters, hroom, hguard], by omega⟩
    · have hturn : addCounters total (counter :: counters) = addCounters sum counters := by
        simp [addCounters, hroom, hguard, hsum]
      rw [hturn, List.map_cons, List.sum_cons, ← Nat.add_assoc, ← hexact]
      exact ih sum

/-- The idle time of at least four counters. -/
theorem addIdle_cases {counters : List UInt64} (h : 4 ≤ counters.length) :
    (∃ idle, addIdle counters = some (some idle) ∧ idle.toNat = idleTime counters) ∨
      (addIdle counters = some none ∧ 2 ^ 64 ≤ idleTime counters) := by
  match counters, h with
  | user :: nice :: system :: idle :: [], _ => exact .inl ⟨idle, rfl, rfl⟩
  | user :: nice :: system :: idle :: iowait :: rest, _ =>
    have hexact : idleTime (user :: nice :: system :: idle :: iowait :: rest) =
        idle.toNat + iowait.toNat := rfl
    obtain ⟨room, hroom, ⟨hguard, hover⟩ | ⟨hguard, sum, hsum, hvalue⟩⟩ :=
      UInt64.add_guard idle iowait
    · exact .inr ⟨by simp [addIdle, hroom, hguard], hexact ▸ hover⟩
    · exact .inl ⟨sum, by simp [addIdle, hroom, hguard, hsum], hexact ▸ hvalue⟩

/-- `currentTimes` accepts a line exactly if it has four counters and the total fits. -/
theorem currentTimes_cases (counters : List UInt64) :
    (∃ current, currentTimes counters = some (some current) ∧
        (4 ≤ counters.length ∧ totalTime counters < 2 ^ 64) ∧
        current.total.toNat = totalTime counters ∧ current.idle.toNat = idleTime counters) ∨
      (currentTimes counters = some none ∧
        ¬ (4 ≤ counters.length ∧ totalTime counters < 2 ^ 64)) := by
  by_cases hlength : counters.length < 4
  · exact .inr ⟨if_pos hlength, by omega⟩
  · have htake : counters.take (min 8 counters.length) = counters.take 8 :=
      List.take_eq_take_min.symm
    obtain ⟨total, hadd, htotal⟩ | ⟨hadd, hover⟩ := addCounters_cases 0 (counters.take 8)
    · have hfits := total.toNat_lt
      have hexact : total.toNat = totalTime counters := htotal.trans (Nat.zero_add _)
      have hle := idleTime_le_totalTime counters
      obtain ⟨idle, hidle, hvalue⟩ | ⟨-, hover⟩ := addIdle_cases (Nat.le_of_not_lt hlength)
      · refine .inl ⟨{ total, idle }, ?_, ⟨by omega, by omega⟩, hexact, hvalue⟩
        simp [currentTimes, hlength, htake, hadd, hidle]
      · -- the idle time is smaller than a total that fits
        omega
    · right
      have hexact : totalTime counters = (0 : UInt64).toNat + _ := (Nat.zero_add _).symm
      refine ⟨by simp [currentTimes, hlength, htake, hadd], fun h => ?_⟩
      exact absurd h.2 (by rw [hexact]; exact Nat.not_lt.mpr hover)

/-! ## CPU usage -/

/-- The times as exact numbers. -/
def CpuTimes.exact (times : CpuTimes) : Nat × Nat := (times.total.toNat, times.idle.toNat)

/-- The total has grown, and the idle time has grown by no more. -/
def Grown (previous current : Nat × Nat) : Prop :=
  previous.1 < current.1 ∧ previous.2 ≤ current.2 ∧
    current.2 - previous.2 ≤ current.1 - previous.1

/-- The busy share of times that have grown. -/
theorem busyShare_eq {previous current : Nat × Nat} (h : Grown previous current) :
    busyShare previous current =
      ((current.1 - previous.1 - (current.2 - previous.2) : Nat) : ℚ) /
        (current.1 - previous.1 : Nat) := by
  obtain ⟨htotal, hidle, hshare⟩ := h
  rw [busyShare, Nat.cast_sub hshare, Nat.cast_sub hidle, Nat.cast_sub htotal.le]

/-- It is a share. -/
theorem busyShare_mem {previous current : Nat × Nat} (h : Grown previous current) :
    0 ≤ busyShare previous current ∧ busyShare previous current ≤ 1 := by
  have hpositive : (0 : ℚ) < (current.1 - previous.1 : Nat) :=
    Nat.cast_pos.mpr (Nat.sub_pos_of_lt h.1)
  rw [busyShare_eq h]
  constructor
  · positivity
  · rw [div_le_one hpositive]
    exact_mod_cast Nat.sub_le _ _

namespace SystemMonitor

/-- The usage is computed without wrapping; where it is available, it is the busy share. -/
theorem cpuUsage_cases (monitor : SystemMonitor) (current : CpuTimes) :
    ∃ usage, monitor.cpuUsage current = some usage ∧
      (usage.1 = true →
        monitor.hasPreviousCpuTimes = true ∧
          Grown monitor.previousCpuTimes.exact current.exact ∧
          usage.2 = 100 * busyShare monitor.previousCpuTimes.exact current.exact) := by
  simp only [cpuUsage]
  split
  · rename_i hprevious
    obtain ⟨hhas, htotal, hidle⟩ := hprevious
    obtain ⟨totalDelta, htotalDelta, htotalValue⟩ :=
      UInt64.checkedSub_of_le (UInt64.le_iff_toNat_le.mp htotal)
    obtain ⟨idleDelta, hidleDelta, hidleValue⟩ :=
      UInt64.checkedSub_of_le (UInt64.le_iff_toNat_le.mp hidle)
    by_cases hguard : totalDelta > 0 ∧ idleDelta ≤ totalDelta
    · obtain ⟨hpositive, hshare⟩ := hguard
      have hshareNat := UInt64.le_iff_toNat_le.mp hshare
      have hpositiveNat : 0 < totalDelta.toNat := UInt64.lt_iff_toNat_lt.mp hpositive
      obtain ⟨busy, hbusy, hbusyValue⟩ := UInt64.checkedSub_of_le hshareNat
      refine ⟨(true, (busy.toNat : ℚ) * 100 / totalDelta.toNat), ?_, fun _ => ?_⟩
      · simp [htotalDelta, hidleDelta, hpositive, hshare, hbusy]
      · have hlt : monitor.previousCpuTimes.total.toNat < current.total.toNat := by omega
        have hgrown : Grown monitor.previousCpuTimes.exact current.exact :=
          ⟨hlt, UInt64.le_iff_toNat_le.mp hidle, htotalValue ▸ hidleValue ▸ hshareNat⟩
        refine ⟨hhas, hgrown, ?_⟩
        rw [busyShare_eq hgrown, hbusyValue, htotalValue, hidleValue, mul_comm, mul_div_assoc]
        rfl
    · exact ⟨(false, 0), by simp [htotalDelta, hidleDelta, hguard], nofun⟩
  · exact ⟨(false, 0), rfl, nofun⟩

/-- `sampleCpu` refuses the line and leaves everything, or takes its times as the baseline. -/
theorem sampleCpu_cases (monitor : SystemMonitor) (procStat : Option Bytes)
    (usage : Bool × ℚ) :
    (acceptedTimes procStat = none ∧
        monitor.sampleCpu procStat usage = some (monitor, usage, false)) ∨
      ∃ current usage', acceptedTimes procStat = some current.exact ∧
        current.idle.toNat ≤ current.total.toNat ∧
        monitor.sampleCpu procStat usage = some (⟨true, current⟩, usage', true) ∧
        (usage'.1 = true →
          monitor.hasPreviousCpuTimes = true ∧
            Grown monitor.previousCpuTimes.exact current.exact ∧
            usage'.2 = 100 * busyShare monitor.previousCpuTimes.exact current.exact) := by
  unfold acceptedTimes sampleCpu
  cases cpuCounters procStat with
  | none => exact .inl ⟨rfl, rfl⟩
  | some counters =>
    obtain ⟨current, hcurrent, haccepted, htotal, hidle⟩ | ⟨hrefused, hnot⟩ :=
      currentTimes_cases counters
    · obtain ⟨usage', husage, hshare⟩ := monitor.cpuUsage_cases current
      refine .inr ⟨current, usage', ?_, ?_, ?_, hshare⟩
      · rw [CpuTimes.exact, htotal, hidle]
        exact if_pos haccepted
      · rw [htotal, hidle]
        exact idleTime_le_totalTime counters
      · simp [hcurrent, husage]
    · exact .inl ⟨if_neg hnot, by simp [hrefused]⟩

end SystemMonitor

/-! ## Memory -/

/-- The conversion never wraps. -/
theorem kibibytesToBytes_cases (kibibytes : UInt64) :
    kibibytesToBytes kibibytes = some none ∨
      ∃ bytes, kibibytesToBytes kibibytes = some (some bytes) ∧
        bytes.toNat = kibibytes.toNat * 1024 := by
  unfold kibibytesToBytes
  by_cases hguard : kibibytes > UInt64.maximum / 1024
  · exact .inl (if_pos hguard)
  · have hle := UInt64.lt_iff_toNat_lt.not.mp hguard
    have hquotient : (UInt64.maximum / 1024).toNat = (2 ^ 64 - 1) / 1024 := rfl
    obtain ⟨bytes, hbytes, hvalue⟩ := UInt64.checkedMul_of_lt (a := kibibytes) (b := 1024)
      (by show kibibytes.toNat * 1024 < 2 ^ 64; omega)
    exact .inr ⟨bytes, by simp [hguard, hbytes], hvalue⟩

/-- Neither does the estimate of the available memory. -/
theorem estimateAvailable_isSome (fields : MemoryFields) :
    ∃ available, fields.estimateAvailable = some available := by
  unfold MemoryFields.estimateAvailable
  split
  · exact ⟨_, rfl⟩
  · obtain ⟨room, hroom, ⟨hguard, -⟩ | ⟨hguard, sum, hsum, -⟩⟩ :=
      UInt64.add_guard fields.freeKib fields.buffersKib
    · exact ⟨none, by simp [hroom, hguard]⟩
    · obtain ⟨room', hroom', ⟨hguard', -⟩ | ⟨hguard', available, havailable, -⟩⟩ :=
        UInt64.add_guard sum fields.cachedKib
      · exact ⟨none, by simp [hroom, hsum, hroom', hguard']⟩
      · exact ⟨some available, by simp [hroom, hguard, hsum, hroom', hguard', havailable]⟩

/-- What the memory fields say of each other, and that the CPU fields are left. -/
structure MemoryFilled (before after : SystemMetrics) : Prop where
  positive : 0 < after.memoryTotalBytes.toNat
  balanced : after.memoryUsedBytes.toNat + after.memoryAvailableBytes.toNat =
    after.memoryTotalBytes.toNat
  available : after.cpuUsageAvailable = before.cpuUsageAvailable
  percent : after.cpuUsagePercent = before.cpuUsagePercent

/-- A failed memory sample, or filled fields. -/
theorem fillMemory_cases (metrics : SystemMetrics) {totalKib availableKib : UInt64}
    (htotal : totalKib ≠ 0) (hle : availableKib ≤ totalKib) :
    ∃ after sampled, fillMemory metrics totalKib availableKib = some (after, sampled) ∧
      (sampled = true → MemoryFilled metrics after) := by
  have hleNat := UInt64.le_iff_toNat_le.mp hle
  have hpositive := UInt64.toNat_pos_of_ne_zero htotal
  unfold fillMemory
  obtain hbig | ⟨total, htotalBytes, htotalValue⟩ := kibibytesToBytes_cases totalKib
  · exact ⟨metrics, false, by simp [hbig], nofun⟩
  · obtain hbig | ⟨available, havailableBytes, havailableValue⟩ :=
      kibibytesToBytes_cases availableKib
    · exact ⟨{ metrics with memoryTotalBytes := total }, false, by simp [htotalBytes, hbig], nofun⟩
    · obtain ⟨used, hused, husedValue⟩ :=
        UInt64.checkedSub_of_le (a := total) (b := available) (by omega)
      refine ⟨_, true, by simp [htotalBytes, havailableBytes, hused]; rfl, fun _ => ?_⟩
      have hbytes : 0 < total.toNat := by omega
      have hbalanced : used.toNat + available.toNat = total.toNat := by omega
      exact ⟨hbytes, hbalanced, rfl, rfl⟩

/-- The available memory is cut to the total. -/
theorem min_le_totalKib (availableKib totalKib : UInt64) :
    min availableKib totalKib ≤ totalKib := by
  show (if availableKib ≤ totalKib then availableKib else totalKib) ≤ totalKib
  split
  · assumption
  · exact UInt64.le_refl totalKib

/-- `sampleMemory` gives a result without wrapping. -/
theorem sampleMemory_cases (procMeminfo : Option Bytes) (metrics : SystemMetrics) :
    ∃ after sampled, sampleMemory procMeminfo metrics = some (after, sampled) ∧
      (sampled = true → MemoryFilled metrics after) := by
  cases procMeminfo with
  | none => exact ⟨metrics, false, rfl, nofun⟩
  | some text =>
    simp only [sampleMemory]
    generalize (lines text).foldl MemoryFields.readLine {} = fields
    split
    · exact ⟨metrics, false, rfl, nofun⟩
    · rename_i htotal
      obtain ⟨available, havailable⟩ := estimateAvailable_isSome fields
      rw [havailable]
      cases available with
      | none => exact ⟨metrics, false, rfl, nofun⟩
      | some availableKib =>
        exact fillMemory_cases metrics htotal (min_le_totalKib availableKib fields.totalKib)

/-! ## Samples -/

/-- The baseline is the last accepted line. -/
structure SamplingInv (state : SystemMonitor × List (Nat × Nat)) : Prop where
  idle_le : state.1.previousCpuTimes.idle.toNat ≤ state.1.previousCpuTimes.total.toNat
  baseline : state.1.hasPreviousCpuTimes = true →
    state.2.getLast? = some state.1.previousCpuTimes.exact

/-- What `sample` makes of the result of `sampleCpu`. -/
theorem sample_cases {monitor next : SystemMonitor} {call : SampleCall} {usage : Bool × ℚ}
    {sampledCpu : Bool}
    (hcpu : monitor.sampleCpu call.procStat (false, 0) = some (next, usage, sampledCpu)) :
    ∃ metrics sampled, monitor.sample call = some (next, metrics, sampled) ∧
      (sampled = false → metrics = call.metrics) ∧
      (sampled = true → sampledCpu = true ∧
        metrics.cpuUsageAvailable = usage.1 ∧ metrics.cpuUsagePercent = usage.2 ∧
        0 < metrics.memoryTotalBytes.toNat ∧
        metrics.memoryUsedBytes.toNat + metrics.memoryAvailableBytes.toNat =
          metrics.memoryTotalBytes.toNat) := by
  simp only [SystemMonitor.sample]
  rw [hcpu]
  cases sampledCpu with
  | false => exact ⟨call.metrics, false, rfl, fun _ => rfl, nofun⟩
  | true =>
    obtain ⟨after, sampledMemory, hmemory, hfilled⟩ := sampleMemory_cases call.procMeminfo
      { cpuUsageAvailable := usage.1, cpuUsagePercent := usage.2 }
    cases sampledMemory with
    | false =>
      refine ⟨call.metrics, false, ?_, fun _ => rfl, nofun⟩
      exact congrArg (Option.bind · _) hmemory
    | true =>
      have filled := hfilled rfl
      refine ⟨_, true, congrArg (Option.bind · _) hmemory, nofun, fun _ => ?_⟩
      exact ⟨rfl, filled.available, filled.percent, filled.positive, filled.balanced⟩

/-- A monitor with the times of the lines that it has accepted. -/
abbrev observedSampling :=
  samplingSystem.observed fun _ call => acceptedTimes call.procStat

/-- Every sample keeps the invariant. -/
theorem SamplingInv.step {state after : SystemMonitor × List (Nat × Nat)}
    (inv : SamplingInv state) {call : SampleCall}
    (hstep : observedSampling.step state call = some after) : SamplingInv after := by
  obtain ⟨monitor, history⟩ := state
  obtain ⟨next, hnext, rfl⟩ := Option.map_eq_some_iff.mp hstep
  obtain ⟨⟨next', metrics, sampled⟩, hsample, rfl⟩ := Option.map_eq_some_iff.mp hnext
  obtain ⟨hrefused, hcpu⟩ | ⟨current, usage, haccepted, hle, hcpu, -⟩ :=
    monitor.sampleCpu_cases call.procStat (false, 0)
  · obtain ⟨metrics', sampled', heq, -⟩ := sample_cases hcpu
    obtain ⟨rfl, -⟩ := Prod.mk.inj (Option.some.inj (heq.symm.trans hsample))
    simpa [hrefused] using inv
  · obtain ⟨metrics', sampled', heq, -⟩ := sample_cases hcpu
    obtain ⟨rfl, -⟩ := Prod.mk.inj (Option.some.inj (heq.symm.trans hsample))
    exact ⟨hle, fun _ => by simp [haccepted]⟩

/-- In every run of samples, with any texts, no operation wraps, the idle time of the baseline
    is part of its total, a reported usage is the busy share since the last accepted line, the
    memory fields add up, and a failed sample leaves the caller's metrics. -/
theorem sample_arithmetic {monitor : SystemMonitor} {history : List (Nat × Nat)}
    (h : observedSampling.Reachable TransitionSystem.anyStep (monitor, history)) :
    monitor.previousCpuTimes.idle ≤ monitor.previousCpuTimes.total ∧
      ∀ call, ∃ next metrics sampled, monitor.sample call = some (next, metrics, sampled) ∧
        (sampled = false → metrics = call.metrics) ∧
        (sampled = true →
          (metrics.cpuUsageAvailable = true →
            0 ≤ metrics.cpuUsagePercent ∧ metrics.cpuUsagePercent ≤ 100 ∧
              ∃ previous current, history.getLast? = some previous ∧
                acceptedTimes call.procStat = some current ∧ previous.1 < current.1 ∧
                metrics.cpuUsagePercent = 100 * busyShare previous current) ∧
          0 < metrics.memoryTotalBytes.toNat ∧
          metrics.memoryUsedBytes.toNat + metrics.memoryAvailableBytes.toNat =
            metrics.memoryTotalBytes.toNat) := by
  have inv : SamplingInv (monitor, history) := by
    refine h.invariant SamplingInv ?_ fun _ _ _ _ inv _ hstep => inv.step hstep
    rintro ⟨initial, none⟩ ⟨rfl, rfl⟩
    exact ⟨Nat.le_refl 0, nofun⟩
  refine ⟨UInt64.le_iff_toNat_le.mpr inv.idle_le, fun call => ?_⟩
  obtain ⟨hrefused, hcpu⟩ | ⟨current, usage, haccepted, -, hcpu, hshare⟩ :=
    monitor.sampleCpu_cases call.procStat (false, 0)
  · obtain ⟨metrics, sampled, hsample, hfailed, hsampled⟩ := sample_cases hcpu
    refine ⟨monitor, metrics, sampled, hsample, hfailed, fun hsuccess => ?_⟩
    exact nomatch (hsampled hsuccess).1
  · obtain ⟨metrics, sampled, hsample, hfailed, hsampled⟩ := sample_cases hcpu
    refine ⟨_, metrics, sampled, hsample, hfailed, fun hsuccess => ?_⟩
    obtain ⟨-, havailable, hpercent, hmemory⟩ := hsampled hsuccess
    refine ⟨fun hreported => ?_, hmemory⟩
    obtain ⟨hhas, hgrown, hvalue⟩ := hshare (havailable.symm.trans hreported)
    obtain ⟨hzero, hone⟩ := busyShare_mem hgrown
    rw [hpercent, hvalue]
    exact ⟨by linarith, by linarith, _, _, inv.baseline hhas, haccepted, hgrown.1, rfl⟩

/-- A sample with the given counters, of a machine with four kibibytes of memory. -/
def exampleSample (counters : List UInt64) : SampleCall where
  procStat := some (cpuLine counters)
  procMeminfo := some (ascii "MemAvailable: 1 kB\nMemTotal: 4 kB\n")
  temperatures := []
  timestamp := 0
  metrics := {}

/-- Two samples, and the usage that the second one reports. -/
theorem sample_arithmetic_second_sample :
    ∃ monitor next metrics,
      SystemMonitor.sample monitor (exampleSample [3, 1, 1, 2]) = some (next, metrics, true) ∧
        metrics.cpuUsageAvailable = true ∧ metrics.cpuUsagePercent ≤ 100 := by
  obtain ⟨⟨monitor, history⟩, -, hreach, hmonitor⟩ :=
    TransitionSystem.exists_of_run observedSampling TransitionSystem.anyStep
      [exampleSample [1, 1, 1, 1]] (fun state => state.1 = ⟨true, ⟨4, 1⟩⟩) (s := ({}, []))
      ⟨rfl, rfl⟩ (by decide)
  obtain rfl : monitor = ⟨true, ⟨4, 1⟩⟩ := of_decide_eq_true hmonitor
  obtain ⟨next, metrics, sampled, hsample, -, hsampled⟩ :=
    (sample_arithmetic hreach).2 (exampleSample [3, 1, 1, 2])
  have hreported : (SystemMonitor.sample ⟨true, ⟨4, 1⟩⟩ (exampleSample [3, 1, 1, 2])).map
      (fun result => (result.2.2, result.2.1.cpuUsageAvailable)) = some (true, true) := by
    decide
  rw [hsample] at hreported
  obtain ⟨rfl, havailable⟩ := Prod.mk.inj (Option.some.inj hreported)
  exact ⟨_, next, metrics, hsample, havailable, ((hsampled rfl).1 havailable).2.1⟩

end EdgeLink
