import Mathlib.Algebra.Ring.Int.Defs
import EdgeLink.ForStd.CheckedUInt64
import EdgeLink.Native.DeviceScheduler

/-! # The device scheduler keeps its timers

A task's timer is armed exactly while the scheduler runs, at the task's own interval
(`TimersMatch`). Adding a task and starting the scheduler both arm timers, and both can fail
half way; what they have done by then is undone.

## Key results

* `periodicSpec_armedEvery`: the setting of `startPeriodic` is the interval.
* `addTask_cases`, `start_cases`: what the two calls can do.
* `scheduler_invariant`: timers, ids and failed calls over all runs.
* `failed_addTask_registers`: what the wrap of the id counter does. -/

namespace EdgeLink

/-! ## Settings -/

/-- A `timespec` in nanoseconds. -/
def Timespec.nanoseconds (time : Timespec) : Int := time.tv_sec.toInt * 10 ^ 9 + time.tv_nsec.toInt

/-- The setting is one of a timer that goes off every `intervalMs` milliseconds. -/
structure Itimerspec.ArmedEvery (setting : Itimerspec) (intervalMs : UInt64) : Prop where
  armed : setting.it_value ≠ {}
  /-- `timerfd_settime` accepts no other nanoseconds. -/
  accepted : 0 ≤ setting.it_value.tv_nsec.toInt ∧ setting.it_value.tv_nsec.toInt < 10 ^ 9
  first : setting.it_value.nanoseconds = intervalMs.toNat * 10 ^ 6
  again : setting.it_interval = setting.it_value

/-- The setting of a timer that does not go off. -/
def Itimerspec.Disarmed (setting : Itimerspec) : Prop := setting.it_value = {}

/-- `startPeriodic` asks for the interval, whatever it is. -/
theorem periodicSpec_armedEvery {intervalMs : UInt64} (h : intervalMs ≠ 0) :
    (Timer.periodicSpec intervalMs).ArmedEvery intervalMs := by
  have hinterval := intervalMs.toNat_lt
  have hpositive := UInt64.toNat_pos_of_ne_zero h
  have hquotient : (intervalMs / 1000).toNat = intervalMs.toNat / 1000 :=
    UInt64.toNat_div intervalMs 1000
  have hremainder : (intervalMs % 1000 * 1000000).toNat = intervalMs.toNat % 1000 * 1000000 := by
    rw [UInt64.toNat_mul, UInt64.toNat_mod]
    show intervalMs.toNat % 1000 * 1000000 % 2 ^ 64 = _
    omega
  have hsec : (Timer.periodicSpec intervalMs).it_value.tv_sec.toInt =
      (intervalMs.toNat / 1000 : Nat) := by
    show (intervalMs / 1000).toInt64.toInt = _
    rw [UInt64.toInt_toInt64 (by omega), hquotient]
  have hnsec : (Timer.periodicSpec intervalMs).it_value.tv_nsec.toInt =
      (intervalMs.toNat % 1000 * 1000000 : Nat) := by
    show (intervalMs % 1000 * 1000000).toInt64.toInt = _
    rw [UInt64.toInt_toInt64 (by omega), hremainder]
  have hfirst : (Timer.periodicSpec intervalMs).it_value.nanoseconds =
      intervalMs.toNat * 10 ^ 6 := by
    rw [Timespec.nanoseconds, hsec, hnsec]
    omega
  refine ⟨?_, by omega, hfirst, rfl⟩
  intro hzero
  rw [hzero] at hfirst
  have hnone : Timespec.nanoseconds {} = 0 := by decide
  omega

/-! ## The timers -/

namespace DeviceScheduler

variable {Callback : Type} {scheduler : DeviceScheduler Callback}

/-- The timer of a task while the scheduler runs, or does not run. -/
def TaskMatches (running : Bool) (task : Task Callback) : Prop :=
  if running then task.timer.setting.ArmedEvery task.intervalMs
  else task.timer.setting.Disarmed

/-- Every task has its timer armed at its interval while the scheduler runs, and disarmed
    otherwise. -/
def TimersMatch (scheduler : DeviceScheduler Callback) : Prop :=
  ∀ entry ∈ scheduler.tasks.entries, TaskMatches scheduler.running entry.2

/-- The timers, with what is needed to arm them. -/
def WellTimed (scheduler : DeviceScheduler Callback) : Prop :=
  ∀ entry ∈ scheduler.tasks.entries,
    entry.2.intervalMs ≠ 0 ∧ TaskMatches scheduler.running entry.2

/-- The tasks as they were registered. -/
def taskSet (scheduler : DeviceScheduler Callback) : List (UInt64 × UInt64 × Callback) :=
  scheduler.tasks.entries.map fun entry => (entry.1, entry.2.intervalMs, entry.2.callback)

/-- A task whose timer was started. -/
theorem startTask_matches {task : Task Callback} (h : task.intervalMs ≠ 0) :
    TaskMatches true (task.startTask true).1 :=
  periodicSpec_armedEvery h

/-- `startTask` reports what `timerfd_settime` says. -/
theorem startTask_granted {task : Task Callback} {granted : Bool}
    (h : (task.startTask granted).2 = true) : granted = true := by
  cases granted with
  | true => rfl
  | false => exact nomatch h

/-- A task whose timer was stopped. -/
theorem stopTimer_matches (task : Task Callback) : TaskMatches false task.stopTimer := rfl

/-- The map with the task that `addTask` makes. -/
def withTask (scheduler : DeviceScheduler Callback) (intervalMs : UInt64)
    (callback : Callback) : UnorderedMap UInt64 (Task Callback) :=
  scheduler.tasks.emplace scheduler.nextTaskId { intervalMs, callback, timer := {} }

/-- The call gets as far as a timer of its own. -/
def CreatesTimer (intervalMs : UInt64) (callback : Option Callback) (created : Bool) : Prop :=
  intervalMs ≠ 0 ∧ callback.isSome ∧ created = true

instance (intervalMs : UInt64) (callback : Option Callback) (created : Bool) :
    Decidable (CreatesTimer intervalMs callback created) :=
  inferInstanceAs (Decidable (_ ∧ _ ∧ _))

/-- A call without a timer changes nothing. -/
theorem addTask_rejected {intervalMs : UInt64} {callback : Option Callback} {created : Bool}
    (h : ¬ CreatesTimer intervalMs callback created) (granted : Bool) :
    scheduler.addTask intervalMs callback created granted = (scheduler, 0) := by
  unfold addTask
  split
  · rfl
  · rename_i hinterval
    cases callback with
    | none => rfl
    | some callback =>
      cases created with
      | false => rfl
      | true => exact absurd ⟨hinterval, rfl, rfl⟩ h

/-- The scheduler is idle: the task is left as it is. -/
theorem addTask_idle {intervalMs : UInt64} (hinterval : intervalMs ≠ 0) (callback : Callback)
    (hidle : scheduler.running = false) (granted : Bool) :
    scheduler.addTask intervalMs (some callback) true granted =
      ({ scheduler with
          tasks := scheduler.withTask intervalMs callback
          nextTaskId := scheduler.nextTaskId + 1 }, scheduler.nextTaskId) := by
  simp [addTask, hinterval, hidle, withTask]

/-- The scheduler runs: the timer of the entry is started at once. -/
theorem addTask_running {intervalMs : UInt64} (hinterval : intervalMs ≠ 0) (callback : Callback)
    (hrunning : scheduler.running = true) (granted : Bool) :
    scheduler.addTask intervalMs (some callback) true granted =
      if granted then
        ({ scheduler with
            tasks := (scheduler.withTask intervalMs callback).modify scheduler.nextTaskId
              fun task => (task.startTask true).1
            nextTaskId := scheduler.nextTaskId + 1 }, scheduler.nextTaskId)
      else
        ({ scheduler with
            tasks := (scheduler.withTask intervalMs callback).erase scheduler.nextTaskId
            nextTaskId := scheduler.nextTaskId + 1 }, 0) := by
  obtain ⟨task, hmem⟩ := UnorderedMap.exists_mem_emplace scheduler.tasks scheduler.nextTaskId
    { intervalMs, callback, timer := {} }
  have hfind := (UnorderedMap.find_eq_some_iff _ _ _).mpr hmem
  have hmodify := UnorderedMap.modify_const hmem fun task => (task.startTask true).1
  cases granted with
  | false =>
    simp only [addTask, if_neg hinterval, hrunning, hfind]
    rfl
  | true =>
    simp only [addTask, if_neg hinterval, hrunning, hfind]
    rw [withTask, ← hmodify]
    rfl

/-- Stopping all timers leaves them stopped. -/
theorem wellTimed_stopped {tasks : UnorderedMap UInt64 (Task Callback)}
    (h : ∀ entry ∈ tasks.entries, entry.2.intervalMs ≠ 0) (nextTaskId : UInt64) :
    WellTimed ⟨tasks.mapValues Task.stopTimer, nextTaskId, false⟩ := by
  intro entry hmem
  obtain ⟨⟨taskId, task⟩, hold, rfl⟩ := List.mem_map.mp hmem
  exact ⟨h (taskId, task) hold, stopTimer_matches task⟩

/-- `addTask` with a new timer. -/
theorem WellTimed.addTask (h : scheduler.WellTimed) (intervalMs : UInt64)
    (callback : Option Callback) (created granted : Bool) :
    (scheduler.addTask intervalMs callback created granted).1.WellTimed := by
  by_cases hcreates : CreatesTimer intervalMs callback created
  · obtain ⟨hinterval, hcallback, rfl⟩ := hcreates
    obtain ⟨callback, rfl⟩ := Option.isSome_iff_exists.mp hcallback
    have hpositive : ∀ entry ∈ (scheduler.withTask intervalMs callback).entries,
        entry.2.intervalMs ≠ 0 := by
      intro entry hmem
      obtain hold | rfl := UnorderedMap.mem_entries_emplace hmem
      · exact (h entry hold).1
      · exact hinterval
    cases hrunning : scheduler.running with
    | false =>
      rw [addTask_idle hinterval callback hrunning]
      intro entry hmem
      refine ⟨hpositive entry hmem, ?_⟩
      obtain hold | rfl := UnorderedMap.mem_entries_emplace hmem
      · exact (h entry hold).2
      · show TaskMatches scheduler.running _
        rw [hrunning]
        rfl
    | true =>
      -- the timers of the other tasks are armed already
      have hother : ∀ entry ∈ (scheduler.withTask intervalMs callback).entries,
          entry.1 ≠ scheduler.nextTaskId →
            entry.2.intervalMs ≠ 0 ∧ TaskMatches scheduler.running entry.2 := by
        intro entry hmem hne
        obtain hold | rfl := UnorderedMap.mem_entries_emplace hmem
        · exact h entry hold
        · exact absurd rfl hne
      rw [addTask_running hinterval callback hrunning]
      split
      · rintro ⟨taskId, task⟩ hmem
        obtain ⟨hne, hold⟩ | ⟨rfl, task, hold, rfl⟩ :=
          (UnorderedMap.mem_entries_modify _ _ _ _ _).mp hmem
        · exact hother _ hold hne
        · have htask := hpositive (_, task) hold
          refine ⟨htask, ?_⟩
          show TaskMatches scheduler.running _
          rw [hrunning]
          exact startTask_matches htask
      · intro entry hmem
        obtain ⟨hold, hne⟩ := (UnorderedMap.mem_entries_erase _ _ _).mp hmem
        exact hother entry hold hne
  · rw [addTask_rejected hcreates]
    exact h

/-- `removeTask` takes an entry away, or nothing. -/
theorem removeTask_cases (scheduler : DeviceScheduler Callback) (taskId : UInt64) :
    scheduler.removeTask taskId = (scheduler, false) ∨
      scheduler.removeTask taskId =
        ({ scheduler with tasks := scheduler.tasks.erase taskId }, true) := by
  unfold removeTask
  split
  · exact .inl rfl
  · exact .inr rfl

/-- The ways out of `start`. -/
theorem start_cases (scheduler : DeviceScheduler Callback) (granted : UInt64 → Bool) :
    (scheduler.running = true ∧ scheduler.start granted = (scheduler, true)) ∨
      (scheduler.running = false ∧ ∃ tasks : UnorderedMap UInt64 (Task Callback),
        tasks.entries.map (fun entry => (entry.1, entry.2.intervalMs, entry.2.callback)) =
            scheduler.taskSet ∧
          scheduler.start granted =
            ({ scheduler with tasks := tasks.mapValues Task.stopTimer }, false)) ∨
      (scheduler.running = false ∧ ∃ tasks : UnorderedMap UInt64 (Task Callback),
        tasks.entries =
            scheduler.tasks.entries.map (fun entry => (entry.1, (entry.2.startTask true).1)) ∧
          scheduler.start granted = ({ scheduler with tasks, running := true }, true)) := by
  cases hrunning : scheduler.running with
  | true => exact .inl ⟨rfl, by simp [start, hrunning]⟩
  | false =>
    right
    cases hvisit : scheduler.tasks.visit fun taskId task => task.startTask (granted taskId) with
    | mk tasks started =>
      have hentries : tasks.entries = _ := congrArg (fun result => result.1.entries) hvisit.symm
      cases started with
      | false =>
        refine .inl ⟨rfl, tasks, ?_, by simp [start, hrunning, hvisit]⟩
        rw [hentries]
        exact UnorderedMap.map_visitEntries _ (fun _ _ => rfl) _
      | true =>
        refine .inr ⟨rfl, tasks, ?_, by simp [start, hrunning, hvisit]⟩
        obtain ⟨hall, hgranted⟩ :=
          UnorderedMap.visitEntries_complete (congrArg Prod.snd hvisit)
        rw [hentries]
        refine hall.trans (List.map_congr_left fun entry hmem => ?_)
        rw [startTask_granted (hgranted entry hmem)]

/-- Stopping all timers leaves the tasks. -/
theorem taskSet_stop (scheduler : DeviceScheduler Callback) :
    scheduler.stop.taskSet = scheduler.taskSet :=
  List.map_map

/-- `start` leaves the tasks, also where it has to stop half way. -/
theorem taskSet_start (scheduler : DeviceScheduler Callback) (granted : UInt64 → Bool) :
    (scheduler.start granted).1.taskSet = scheduler.taskSet := by
  rcases start_cases scheduler granted with
    ⟨-, hstart⟩ | ⟨-, tasks, htasks, hstart⟩ | ⟨-, tasks, htasks, hstart⟩
  · rw [hstart]
  · rw [hstart, ← htasks]
    exact List.map_map
  · rw [hstart, taskSet, htasks]
    exact List.map_map

/-- The keys are those of the tasks. -/
theorem keys_eq_taskSet (scheduler : DeviceScheduler Callback) :
    scheduler.tasks.keys = scheduler.taskSet.map Prod.fst := by
  rw [taskSet, List.map_map]
  rfl

/-- `start` arms all timers or none. -/
theorem WellTimed.start (h : scheduler.WellTimed) (granted : UInt64 → Bool) :
    (scheduler.start granted).1.WellTimed := by
  rcases start_cases scheduler granted with
    ⟨-, hstart⟩ | ⟨hidle, tasks, htasks, hstart⟩ | ⟨-, tasks, htasks, hstart⟩
  · rw [hstart]
    exact h
  · rw [hstart, hidle]
    apply wellTimed_stopped
    intro entry hmem
    -- the loop has left ids and intervals as they were
    have hset := List.mem_map_of_mem hmem
      (f := fun entry => (entry.1, entry.2.intervalMs, entry.2.callback))
    rw [htasks] at hset
    obtain ⟨entry', hold, heq⟩ := List.mem_map.mp hset
    have hinterval : entry'.2.intervalMs = entry.2.intervalMs :=
      (Prod.mk.inj (Prod.mk.inj heq).2).1
    exact hinterval ▸ (h entry' hold).1
  · rw [hstart]
    intro entry hmem
    rw [htasks] at hmem
    obtain ⟨⟨taskId, task⟩, hold, rfl⟩ := List.mem_map.mp hmem
    have htask := (h _ hold).1
    exact ⟨htask, startTask_matches htask⟩

/-- Every call keeps the timers right. -/
theorem WellTimed.step [DecidableEq Callback] (h : scheduler.WellTimed)
    {call : SchedulerCall Callback} {after : DeviceScheduler Callback}
    (hstep : (schedulerSystem Callback).step scheduler call = some after) :
    after.WellTimed := by
  cases call with
  | addTask intervalMs callback created granted =>
    obtain rfl := Option.some.inj hstep
    exact h.addTask intervalMs callback created granted
  | removeTask taskId =>
    obtain rfl := Option.some.inj hstep
    obtain hsame | herased := removeTask_cases scheduler taskId
    · rw [hsame]
      exact h
    · rw [herased]
      intro entry hmem
      exact h entry ((UnorderedMap.mem_entries_erase _ _ _).mp hmem).1
  | start granted =>
    obtain rfl := Option.some.inj hstep
    exact h.start granted
  | stop =>
    obtain rfl := Option.some.inj hstep
    exact wellTimed_stopped (fun entry hmem => (h entry hmem).1) _
  | rehash entries =>
    simp only [schedulerSystem] at hstep
    split at hstep
    · rename_i hperm
      obtain rfl := Option.some.inj hstep
      intro entry hmem
      exact h entry (hperm.mem_iff.mp hmem)
    · exact nomatch hstep

/-! ## The ids -/

/-- A call of `addTask` that has made a timer: what it returned, and whether it kept the
    task. -/
structure AddRecord where
  returned : UInt64
  registered : Bool

/-- What is noted of a call. -/
def addRecord (scheduler : DeviceScheduler Callback) :
    SchedulerCall Callback → Option AddRecord
  | .addTask intervalMs callback created granted =>
    if CreatesTimer intervalMs callback created then
      some ⟨(scheduler.addTask intervalMs callback created granted).2,
        !scheduler.running || granted⟩
    else none
  | _ => none

/-- The ids that were returned for the tasks that were kept. -/
def returnedIds (records : List AddRecord) : List UInt64 :=
  (records.filter (·.registered)).map (·.returned)

/-- One record more. -/
theorem returnedIds_append (records : List AddRecord) (record : AddRecord) :
    returnedIds (records ++ [record]) =
      returnedIds records ++ if record.registered then [record.returned] else [] := by
  rw [returnedIds, List.filter_append, List.map_append]
  cases hregistered : record.registered <;> simp [returnedIds, hregistered]

/-- The scheduler with the record of its calls. -/
abbrev recorded (Callback : Type) [DecidableEq Callback] :=
  (schedulerSystem Callback).observed addRecord

/-- The counter, the ids and the keys after a number of timers. -/
structure IdsInv (scheduler : DeviceScheduler Callback) (records : List AddRecord) : Prop where
  counter : scheduler.nextTaskId.toNat = (1 + records.length) % 2 ^ 64
  ids : records.length < 2 ^ 64 →
    ∀ id ∈ returnedIds records, id ≠ 0 ∧ id.toNat ≤ records.length
  distinct : records.length < 2 ^ 64 → (returnedIds records).Nodup
  keys : records.length < 2 ^ 64 → ∀ key ∈ scheduler.tasks.keys, key.toNat ≤ records.length

/-- What `addTask` does to the counter and the keys, and the id it returns for a task that it
    keeps. -/
theorem addTask_ids (scheduler : DeviceScheduler Callback) {intervalMs : UInt64}
    {callback : Option Callback} {created : Bool}
    (h : CreatesTimer intervalMs callback created) (granted : Bool) :
    (scheduler.addTask intervalMs callback created granted).1.nextTaskId =
        scheduler.nextTaskId + 1 ∧
      (∀ key ∈ (scheduler.addTask intervalMs callback created granted).1.tasks.keys,
        key ∈ scheduler.tasks.keys ∨ key = scheduler.nextTaskId) ∧
      ((!scheduler.running || granted) = true →
        (scheduler.addTask intervalMs callback created granted).2 = scheduler.nextTaskId) := by
  obtain ⟨hinterval, hcallback, rfl⟩ := h
  obtain ⟨callback, rfl⟩ := Option.isSome_iff_exists.mp hcallback
  have hkeys : ∀ key ∈ (scheduler.withTask intervalMs callback).keys,
      key ∈ scheduler.tasks.keys ∨ key = scheduler.nextTaskId := by
    intro key hkey
    obtain ⟨entry, hmem, rfl⟩ := List.mem_map.mp hkey
    obtain hold | rfl := UnorderedMap.mem_entries_emplace hmem
    · exact .inl (List.mem_map_of_mem hold)
    · exact .inr rfl
  cases hrunning : scheduler.running with
  | false =>
    rw [addTask_idle hinterval callback hrunning]
    exact ⟨rfl, hkeys, fun _ => rfl⟩
  | true =>
    rw [addTask_running hinterval callback hrunning]
    cases granted with
    | true =>
      refine ⟨rfl, ?_, fun _ => rfl⟩
      intro key hkey
      apply hkeys
      rwa [if_pos rfl, UnorderedMap.keys_modify] at hkey
    | false =>
      refine ⟨rfl, ?_, nofun⟩
      intro key hkey
      obtain ⟨entry, hmem, rfl⟩ := List.mem_map.mp hkey
      exact hkeys _ (List.mem_map_of_mem ((UnorderedMap.mem_entries_erase _ _ _).mp hmem).1)

/-- The other calls leave the counter, and register nothing. -/
theorem other_ids [DecidableEq Callback] {call : SchedulerCall Callback}
    {after : DeviceScheduler Callback}
    (hstep : (schedulerSystem Callback).step scheduler call = some after)
    (hcall : addRecord scheduler call = none) :
    after.nextTaskId = scheduler.nextTaskId ∧
      ∀ key ∈ after.tasks.keys, key ∈ scheduler.tasks.keys := by
  cases call with
  | addTask intervalMs callback created granted =>
    obtain rfl := Option.some.inj hstep
    have hrejected : ¬ CreatesTimer intervalMs callback created := by
      intro hcreates
      rw [addRecord, if_pos hcreates] at hcall
      exact nomatch hcall
    rw [addTask_rejected hrejected]
    exact ⟨rfl, fun _ => id⟩
  | removeTask taskId =>
    obtain rfl := Option.some.inj hstep
    obtain hsame | herased := removeTask_cases scheduler taskId
    · rw [hsame]
      exact ⟨rfl, fun _ => id⟩
    · rw [herased]
      exact ⟨rfl, fun key hkey => (List.filter_sublist.map Prod.fst).subset hkey⟩
  | start granted =>
    obtain rfl := Option.some.inj hstep
    constructor
    · rcases start_cases scheduler granted with
        ⟨-, hstart⟩ | ⟨-, tasks, -, hstart⟩ | ⟨-, tasks, -, hstart⟩ <;> rw [hstart]
    · intro key hkey
      rwa [keys_eq_taskSet, taskSet_start, ← keys_eq_taskSet] at hkey
  | stop =>
    obtain rfl := Option.some.inj hstep
    refine ⟨rfl, fun key hkey => ?_⟩
    rwa [keys_eq_taskSet, taskSet_stop, ← keys_eq_taskSet] at hkey
  | rehash entries =>
    simp only [schedulerSystem] at hstep
    split at hstep
    · rename_i hperm
      obtain rfl := Option.some.inj hstep
      exact ⟨rfl, fun key hkey => (hperm.map Prod.fst).mem_iff.mp hkey⟩
    · exact nomatch hstep

/-- A record more: its id is a new one, if the counter has not come round. -/
theorem IdsInv.append {records : List AddRecord} (inv : IdsInv scheduler records)
    {after : DeviceScheduler Callback} (hcounter : after.nextTaskId = scheduler.nextTaskId + 1)
    (hkeys : ∀ key ∈ after.tasks.keys, key ∈ scheduler.tasks.keys ∨ key = scheduler.nextTaskId)
    {record : AddRecord}
    (hreturned : record.registered = true → record.returned = scheduler.nextTaskId) :
    IdsInv after (records ++ [record]) := by
  have hlength : (records ++ [record]).length = records.length + 1 := by simp
  have hnext := inv.counter
  have hids : ∀ id ∈ (if record.registered then [record.returned] else []),
      id = scheduler.nextTaskId := by
    intro id hid
    split at hid
    · rename_i hregistered
      rw [List.mem_singleton.mp hid, hreturned hregistered]
    · exact nomatch hid
  -- before the counter comes round, the new id is larger than all others
  have hfresh : (records ++ [record]).length < 2 ^ 64 →
      scheduler.nextTaskId.toNat = records.length + 1 := by
    intro hlt
    omega
  constructor
  · rw [hcounter, hlength, UInt64.toNat_add, hnext]
    show ((1 + records.length) % 2 ^ 64 + 1) % 2 ^ 64 = _
    omega
  · intro hlt id hid
    have hnew := hfresh hlt
    rw [returnedIds_append, List.mem_append] at hid
    obtain hold | hid := hid
    · obtain ⟨hzero, hle⟩ := inv.ids (by omega) id hold
      exact ⟨hzero, by omega⟩
    · rw [hids id hid]
      refine ⟨fun hzero => ?_, by omega⟩
      rw [hzero] at hnew
      exact absurd hnew (by simp)
  · intro hlt
    have hnew := hfresh hlt
    rw [returnedIds_append]
    refine (inv.distinct (by omega)).append (by split <;> simp) ?_
    intro id hold hid
    obtain ⟨-, hle⟩ := inv.ids (by omega) id hold
    rw [hids id hid] at hle
    omega
  · intro hlt key hkey
    have hnew := hfresh hlt
    obtain hold | rfl := hkeys key hkey
    · have hle := inv.keys (by omega) key hold
      omega
    · omega

/-- A call that is not recorded. -/
theorem IdsInv.other {records : List AddRecord} (inv : IdsInv scheduler records)
    {after : DeviceScheduler Callback} (hcounter : after.nextTaskId = scheduler.nextTaskId)
    (hkeys : ∀ key ∈ after.tasks.keys, key ∈ scheduler.tasks.keys) :
    IdsInv after records where
  counter := hcounter ▸ inv.counter
  ids := inv.ids
  distinct := inv.distinct
  keys hlt key hkey := inv.keys hlt key (hkeys key hkey)

/-- A failed `addTask` leaves the tasks, as long as the counter gives a new id. -/
theorem addTask_fails {intervalMs : UInt64} {callback : Option Callback} {created granted : Bool}
    (hfresh : scheduler.nextTaskId ∉ scheduler.tasks.keys) (hnonzero : scheduler.nextTaskId ≠ 0)
    (h : (scheduler.addTask intervalMs callback created granted).2 = 0) :
    (scheduler.addTask intervalMs callback created granted).1.taskSet = scheduler.taskSet ∧
      (scheduler.addTask intervalMs callback created granted).1.running = scheduler.running := by
  by_cases hcreates : CreatesTimer intervalMs callback created
  · obtain ⟨hinterval, hcallback, rfl⟩ := hcreates
    obtain ⟨callback, rfl⟩ := Option.isSome_iff_exists.mp hcallback
    cases hrunning : scheduler.running with
    | false =>
      rw [addTask_idle hinterval callback hrunning] at h
      exact absurd h hnonzero
    | true =>
      rw [addTask_running hinterval callback hrunning] at h ⊢
      cases granted with
      | true => exact absurd h hnonzero
      | false =>
        have htasks : (scheduler.withTask intervalMs callback).erase scheduler.nextTaskId =
            scheduler.tasks := UnorderedMap.erase_emplace hfresh _
        exact ⟨congrArg (fun tasks => taskSet { scheduler with tasks }) htasks, hrunning⟩
  · rw [addTask_rejected hcreates]
    exact ⟨rfl, rfl⟩

/-- A failed `start` leaves the tasks, and the scheduler idle. -/
theorem start_fails {granted : UInt64 → Bool} (h : (scheduler.start granted).2 = false) :
    (scheduler.start granted).1.taskSet = scheduler.taskSet ∧
      (scheduler.start granted).1.running = scheduler.running := by
  refine ⟨taskSet_start scheduler granted, ?_⟩
  rcases start_cases scheduler granted with
    ⟨-, hstart⟩ | ⟨-, tasks, -, hstart⟩ | ⟨-, tasks, -, hstart⟩ <;> rw [hstart] at h ⊢
  exact nomatch h

/-- A failed `removeTask` changes nothing. -/
theorem removeTask_fails {taskId : UInt64} (h : (scheduler.removeTask taskId).2 = false) :
    (scheduler.removeTask taskId).1 = scheduler := by
  obtain hsame | herased := removeTask_cases scheduler taskId
  · rw [hsame]
  · rw [herased] at h
    exact nomatch h

/-! ## Runs -/

/-- What holds along every run. -/
structure SchedulerInv (state : DeviceScheduler Callback × List AddRecord) : Prop where
  timed : state.1.WellTimed
  ids : IdsInv state.1 state.2

/-- The invariant holds at first. -/
theorem schedulerInv_init : SchedulerInv (({} : DeviceScheduler Callback), []) where
  timed := List.forall_mem_nil _
  ids :=
    { counter := rfl
      ids := fun _ => List.forall_mem_nil _
      distinct := fun _ => List.nodup_nil
      keys := fun _ => List.forall_mem_nil _ }

section Runs

variable [DecidableEq Callback]

/-- Every call keeps the invariant. -/
theorem SchedulerInv.step {state after : DeviceScheduler Callback × List AddRecord}
    (inv : SchedulerInv state) {call : SchedulerCall Callback}
    (hstep : (recorded Callback).step state call = some after) : SchedulerInv after := by
  obtain ⟨scheduler, records⟩ := state
  obtain ⟨next, hnext, rfl⟩ := Option.map_eq_some_iff.mp hstep
  refine ⟨inv.timed.step hnext, ?_⟩
  cases hrecord : addRecord scheduler call with
  | none =>
    obtain ⟨hcounter, hkeys⟩ := other_ids hnext hrecord
    simpa [hrecord] using inv.ids.other hcounter hkeys
  | some record =>
    cases call with
    | addTask intervalMs callback created granted =>
      obtain rfl := Option.some.inj hnext
      rw [addRecord] at hrecord
      split at hrecord
      · rename_i hcreates
        obtain rfl := Option.some.inj hrecord
        obtain ⟨hcounter, hkeys, hreturned⟩ := addTask_ids scheduler hcreates granted
        simpa [hrecord] using inv.ids.append hcounter hkeys hreturned
      · exact nomatch hrecord
    | removeTask taskId => exact nomatch hrecord
    | start granted => exact nomatch hrecord
    | stop => exact nomatch hrecord
    | rehash entries => exact nomatch hrecord

/-- In every run the timers match the scheduler, failed calls leave the tasks and the flag, and
    ids are not zero and distinct; for ids and for `addTask` this holds until the counter has
    come round. -/
theorem scheduler_invariant {records : List AddRecord}
    (h : (recorded Callback).Reachable TransitionSystem.anyStep (scheduler, records)) :
    scheduler.TimersMatch ∧
      (records.length < 2 ^ 64 →
        (∀ id ∈ returnedIds records, id ≠ 0) ∧ (returnedIds records).Nodup) ∧
      (records.length < 2 ^ 64 - 1 → ∀ intervalMs callback created granted,
        (scheduler.addTask intervalMs callback created granted).2 = 0 →
          (scheduler.addTask intervalMs callback created granted).1.taskSet =
              scheduler.taskSet ∧
            (scheduler.addTask intervalMs callback created granted).1.running =
              scheduler.running) ∧
      (∀ granted, (scheduler.start granted).2 = false →
        (scheduler.start granted).1.taskSet = scheduler.taskSet ∧
          (scheduler.start granted).1.running = scheduler.running) ∧
      ∀ taskId, (scheduler.removeTask taskId).2 = false →
        (scheduler.removeTask taskId).1 = scheduler := by
  have inv : SchedulerInv (scheduler, records) := by
    refine h.invariant SchedulerInv ?_ fun _ _ _ _ inv _ hstep => inv.step hstep
    rintro ⟨initial, none⟩ ⟨rfl, rfl⟩
    exact schedulerInv_init
  refine ⟨fun entry hmem => (inv.timed entry hmem).2, ?_, ?_, fun granted => start_fails,
    fun taskId => removeTask_fails⟩
  · intro hlt
    exact ⟨fun id hid => (inv.ids.ids hlt id hid).1, inv.ids.distinct hlt⟩
  · intro hlt intervalMs callback created granted hfails
    have ids : IdsInv scheduler records := inv.ids
    have hcounter := ids.counter
    refine addTask_fails (fun hmem => ?_) (fun hzero => ?_) hfails
    · have hle := ids.keys (by omega) _ hmem
      omega
    · rw [hzero] at hcounter
      have hnone : (0 : UInt64).toNat = 0 := rfl
      omega

end Runs

/-- A task is added and started; a second one cannot be armed. -/
theorem scheduler_invariant_started :
    ∃ (scheduler : DeviceScheduler Unit) (records : List AddRecord),
      scheduler.running = true ∧ scheduler.taskSet = [(1, 1500, ())] ∧
        records.map (·.returned) = [1, 0] ∧ scheduler.TimersMatch := by
  obtain ⟨⟨scheduler, records⟩, -, hreach, hstate⟩ :=
    TransitionSystem.exists_of_run (recorded Unit) TransitionSystem.anyStep
      [.addTask 1500 (some ()) true false, .start fun _ => true,
        .addTask 20 (some ()) true false]
      (fun state => state.1.running && state.1.taskSet = [(1, 1500, ())] &&
        state.2.map (·.returned) = [1, 0]) (s := ({}, [])) ⟨rfl, rfl⟩ (by decide)
  simp only [Bool.and_eq_true, decide_eq_true_eq] at hstate
  exact ⟨scheduler, records, hstate.1.1, hstate.1.2, hstate.2, (scheduler_invariant hreach).1⟩

/-! ## The counter comes round -/

/-- A task that is registered can be removed. -/
theorem removeTask_of_mem {taskId : UInt64} {task : Task Callback}
    (h : (taskId, task) ∈ scheduler.tasks.entries) :
    scheduler.removeTask taskId =
      ({ scheduler with tasks := scheduler.tasks.erase taskId }, true) := by
  rw [removeTask, (UnorderedMap.find_eq_some_iff _ _ _).mpr h]

/-- Any number of tasks can be added and removed. -/
theorem reachable_rounds (n : Nat) :
    (schedulerSystem Unit).Reachable TransitionSystem.anyStep
      { nextTaskId := UInt64.ofNat (n + 1) } := by
  induction n with
  | zero => exact .init rfl
  | succ n ih =>
    let idle : DeviceScheduler Unit := { nextTaskId := UInt64.ofNat (n + 1) }
    let busy : DeviceScheduler Unit :=
      { tasks := idle.withTask 1 (), nextTaskId := UInt64.ofNat (n + 1) + 1 }
    have hadd : (schedulerSystem Unit).step idle (.addTask 1 (some ()) true true) = some busy := by
      show some (idle.addTask 1 (some ()) true true).1 = _
      rw [addTask_idle (by decide) () rfl]
    have hremove : (schedulerSystem Unit).step busy (.removeTask idle.nextTaskId) =
        some { nextTaskId := UInt64.ofNat (n + 2) } := by
      obtain ⟨task, hmem⟩ : ∃ task, (idle.nextTaskId, task) ∈ busy.tasks.entries :=
        UnorderedMap.exists_mem_emplace _ _ _
      show some (busy.removeTask idle.nextTaskId).1 = _
      rw [removeTask_of_mem hmem, show busy.tasks.erase idle.nextTaskId = .empty from
        UnorderedMap.erase_emplace (List.not_mem_nil : _ ∉ []) _, UInt64.ofNat_add _ 1]
      rfl
    exact .step (.step ih trivial hadd) trivial hremove

/-- After 2^64 - 1 timers the counter is zero: the call reports a failure, and the task is
    registered all the same. -/
theorem failed_addTask_registers :
    ∃ scheduler after : DeviceScheduler Unit,
      (schedulerSystem Unit).Reachable TransitionSystem.anyStep scheduler ∧
        scheduler.addTask 1 (some ()) true true = (after, 0) ∧
        after.taskSet ≠ scheduler.taskSet := by
  have hreach := reachable_rounds (2 ^ 64 - 1)
  rw [show UInt64.ofNat (2 ^ 64 - 1 + 1) = 0 by decide] at hreach
  refine ⟨{ nextTaskId := 0 }, _, hreach, addTask_idle (by decide) () rfl true, ?_⟩
  decide

end DeviceScheduler

end EdgeLink
