import Mathlib.Algebra.Field.Rat
import EdgeLink.ForStd.CheckedUInt64
import EdgeLink.ForStd.TextInput
import EdgeLink.ForStd.TransitionSystem
import EdgeLink.Native.Message

/-! # System monitor

`system_monitor.cpp`: what `sample` makes of the texts of `/proc/stat` and `/proc/meminfo`, and
the baseline that it keeps for the next call. The texts come with the call, `none` where the
file cannot be opened, and so do the temperatures and the time.

The operations on `std::uint64_t` are checked ones: a function that gives `none` would have
wrapped. A percentage is an exact rational number. -/

namespace EdgeLink

open CText

structure ThermalReading where
  zone : Bytes
  type : Bytes
  celsius : ℚ
deriving DecidableEq

structure SystemMetrics where
  timestamp : Int := 0
  cpuUsageAvailable : Bool := false
  cpuUsagePercent : ℚ := 0
  memoryTotalBytes : UInt64 := 0
  memoryAvailableBytes : UInt64 := 0
  memoryUsedBytes : UInt64 := 0
  memoryUsagePercent : ℚ := 0
  temperatures : List ThermalReading := []
deriving DecidableEq

structure CpuTimes where
  total : UInt64 := 0
  idle : UInt64 := 0
deriving DecidableEq

structure SystemMonitor where
  hasPreviousCpuTimes : Bool := false
  previousCpuTimes : CpuTimes := {}
deriving DecidableEq

/-! ## CPU -/

/-- The counters on the first line of `/proc/stat`; `none` where there is no line with the
    label of the sums. -/
def cpuCounters (procStat : Option Bytes) : Option (List UInt64) :=
  match procStat.map lines with
  | none | some [] => none
  | some (line :: _) =>
    match extractWord line with
    | none => none
    | some (label, parser) => if label = ascii "cpu" then some (extractCounters parser) else none

/-- The loop that adds the counters up; inside, `none` where the code returns `false`. -/
def addCounters (total : UInt64) : List UInt64 → Option (Option UInt64)
  | [] => some (some total)
  | counter :: counters => do
    let room ← UInt64.maximum.checkedSub counter
    if total > room then return none
    else
      let total ← total.checkedAdd counter
      addCounters total counters

/-- The idle time: the fourth counter, and the fifth if there is one. -/
def addIdle (counters : List UInt64) : Option (Option UInt64) :=
  let idle := counters.getD 3 0
  if counters.length > 4 then do
    let room ← UInt64.maximum.checkedSub (counters.getD 4 0)
    if idle > room then return none
    else
      let idle ← idle.checkedAdd (counters.getD 4 0)
      return some idle
  else some (some idle)

/-- `currentTimes`; inside, `none` where the code returns `false`. -/
def currentTimes (counters : List UInt64) : Option (Option CpuTimes) :=
  if counters.length < 4 then some none
  else do
    -- the counters after the eighth are contained in the first two
    let counterCount := min 8 counters.length
    match ← addCounters 0 (counters.take counterCount) with
    | none => return none
    | some total =>
      match ← addIdle counters with
      | none => return none
      | some idle => return some { total, idle }

namespace SystemMonitor

/-- `usageAvailable` and `usagePercent` for the times of this sample. -/
def cpuUsage (monitor : SystemMonitor) (current : CpuTimes) : Option (Bool × ℚ) :=
  let previous := monitor.previousCpuTimes
  if monitor.hasPreviousCpuTimes ∧ current.total ≥ previous.total ∧
      current.idle ≥ previous.idle then do
    let totalDelta ← current.total.checkedSub previous.total
    let idleDelta ← current.idle.checkedSub previous.idle
    if totalDelta > 0 ∧ idleDelta ≤ totalDelta then
      let busy ← totalDelta.checkedSub idleDelta
      return (true, (busy.toNat : ℚ) * 100 / totalDelta.toNat)
    else return (false, 0)
  else some (false, 0)

/-- `SystemMonitor::sampleCpu`: the monitor, the two outputs and the result. -/
def sampleCpu (monitor : SystemMonitor) (procStat : Option Bytes) (usage : Bool × ℚ) :
    Option (SystemMonitor × (Bool × ℚ) × Bool) :=
  match cpuCounters procStat with
  | none => some (monitor, usage, false)
  | some counters => do
    match ← currentTimes counters with
    | none => return (monitor, usage, false)
    | some current =>
      let usage ← monitor.cpuUsage current
      return ({ hasPreviousCpuTimes := true, previousCpuTimes := current }, usage, true)

end SystemMonitor

/-! ## Memory -/

/-- `kibibytesToBytes`; inside, `none` where it returns `false`. -/
def kibibytesToBytes (kibibytes : UInt64) : Option (Option UInt64) :=
  if kibibytes > UInt64.maximum / 1024 then some none
  else do
    let bytes ← kibibytes.checkedMul 1024
    return some bytes

/-- The variables of the loop over `/proc/meminfo`. -/
structure MemoryFields where
  totalKib : UInt64 := 0
  availableKib : UInt64 := 0
  freeKib : UInt64 := 0
  buffersKib : UInt64 := 0
  cachedKib : UInt64 := 0
  hasAvailable : Bool := false
deriving DecidableEq

/-- `parser >> key >> value >> unit`. -/
def extractField (line : Bytes) : Option (Bytes × UInt64 × Bytes) := do
  let (key, parser) ← extractWord line
  let (value, parser) ← extractUInt64 parser
  let (unit, _) ← extractWord parser
  return (key, value, unit)

namespace MemoryFields

/-- One line. -/
def readLine (fields : MemoryFields) (line : Bytes) : MemoryFields :=
  match extractField line with
  | none => fields
  | some (key, value, unit) =>
    if unit ≠ ascii "kB" then fields
    else if key = ascii "MemTotal:" then { fields with totalKib := value }
    else if key = ascii "MemAvailable:" then
      { fields with availableKib := value, hasAvailable := true }
    else if key = ascii "MemFree:" then { fields with freeKib := value }
    else if key = ascii "Buffers:" then { fields with buffersKib := value }
    else if key = ascii "Cached:" then { fields with cachedKib := value }
    else fields

/-- `availableKib` after the loop, or an estimate of it; inside, `none` where the code returns
    `false`. -/
def estimateAvailable (fields : MemoryFields) : Option (Option UInt64) :=
  if fields.hasAvailable then some (some fields.availableKib)
  else do
    let room ← UInt64.maximum.checkedSub fields.buffersKib
    if fields.freeKib > room then return none
    else
      let sum ← fields.freeKib.checkedAdd fields.buffersKib
      let room ← UInt64.maximum.checkedSub fields.cachedKib
      if sum > room then return none
      else
        let sum ← fields.freeKib.checkedAdd fields.buffersKib
        let availableKib ← sum.checkedAdd fields.cachedKib
        return some availableKib

end MemoryFields

/-- The fields of `metrics` that `sampleMemory` fills in. -/
def fillMemory (metrics : SystemMetrics) (totalKib availableKib : UInt64) :
    Option (SystemMetrics × Bool) := do
  match ← kibibytesToBytes totalKib with
  | none => return (metrics, false)
  | some total =>
    let metrics := { metrics with memoryTotalBytes := total }
    match ← kibibytesToBytes availableKib with
    | none => return (metrics, false)
    | some available =>
      let used ← total.checkedSub available
      return ({ metrics with
        memoryAvailableBytes := available
        memoryUsedBytes := used
        memoryUsagePercent := (used.toNat : ℚ) * 100 / total.toNat }, true)

/-- `SystemMonitor::sampleMemory`. -/
def sampleMemory (procMeminfo : Option Bytes) (metrics : SystemMetrics) :
    Option (SystemMetrics × Bool) :=
  match procMeminfo with
  | none => some (metrics, false)
  | some text =>
    let fields := (lines text).foldl MemoryFields.readLine {}
    if fields.totalKib = 0 then some (metrics, false)
    else do
      match ← fields.estimateAvailable with
      | none => return (metrics, false)
      | some availableKib => fillMemory metrics fields.totalKib (min availableKib fields.totalKib)

/-! ## Samples -/

/-- What a call of `sample` finds, and the caller's `metrics`. -/
structure SampleCall where
  procStat : Option Bytes
  procMeminfo : Option Bytes
  temperatures : List ThermalReading
  timestamp : Int
  metrics : SystemMetrics

/-- `SystemMonitor::sample`: the monitor, the caller's `metrics` and the result. -/
def SystemMonitor.sample (monitor : SystemMonitor) (call : SampleCall) :
    Option (SystemMonitor × SystemMetrics × Bool) := do
  let currentMetrics : SystemMetrics := {}
  let (monitor, usage, sampled) ← monitor.sampleCpu call.procStat
    (currentMetrics.cpuUsageAvailable, currentMetrics.cpuUsagePercent)
  let currentMetrics := { currentMetrics with
    cpuUsageAvailable := usage.1, cpuUsagePercent := usage.2 }
  if !sampled then return (monitor, call.metrics, false)
  else
    let (currentMetrics, sampled) ← sampleMemory call.procMeminfo currentMetrics
    if !sampled then return (monitor, call.metrics, false)
    else
      return (monitor, { currentMetrics with
        temperatures := call.temperatures, timestamp := call.timestamp }, true)

/-- A monitor under any sequence of samples. -/
def samplingSystem : TransitionSystem SystemMonitor SampleCall where
  init monitor := monitor = {}
  step monitor call := (monitor.sample call).map Prod.fst

end EdgeLink
