import EdgeLink.ForStd.TransitionSystem
import EdgeLink.ForStd.UnorderedMap

/-! # Device scheduler

`device_scheduler.cpp` on top of `timer.cpp`: the map `tasks_`, the counter of the task ids,
and for each timer what the kernel keeps for its timerfd. Whether a timer can be created and
whether `timerfd_settime` accepts a setting comes with each call.

`Callback` stands for the functions that a `PollCallback` can hold. -/

namespace EdgeLink

/-! ## Timers -/

/-- `timespec`. -/
structure Timespec where
  tv_sec : Int64 := 0
  tv_nsec : Int64 := 0
deriving DecidableEq

/-- `itimerspec`; `{}` is the setting of a timerfd that was just made. -/
structure Itimerspec where
  it_interval : Timespec := {}
  it_value : Timespec := {}
deriving DecidableEq

/-- A `Timer`: its callback, the setting that `timerfd_settime` took last, and how many it has
    taken so far. -/
structure Timer (Callback : Type) where
  callback : Option Callback := none
  setting : Itimerspec := {}
  settings : Nat := 0
deriving DecidableEq

namespace Timer

variable {Callback : Type}

/-- `timerfd_settime`, where the kernel accepts the setting. -/
def settime (timer : Timer Callback) (setting : Itimerspec) : Timer Callback :=
  { timer with setting, settings := timer.settings + 1 }

/-- The setting that `startPeriodic` asks for. -/
def periodicSpec (intervalMs : UInt64) : Itimerspec :=
  let value : Timespec :=
    { tv_sec := (intervalMs / 1000).toInt64
      tv_nsec := (intervalMs % 1000 * 1000000).toInt64 }
  { it_interval := value, it_value := value }

/-- `Timer::startPeriodic`. -/
def startPeriodic (timer : Timer Callback) (intervalMs : UInt64) (callback : Callback)
    (granted : Bool) : Timer Callback × Bool :=
  let timer := { timer with callback := some callback }
  if granted then (timer.settime (periodicSpec intervalMs), true) else (timer, false)

/-- `Timer::stop`. -/
def stop (timer : Timer Callback) : Timer Callback := timer.settime {}

end Timer

/-! ## The scheduler -/

/-- `DeviceScheduler::Task`. -/
structure Task (Callback : Type) where
  intervalMs : UInt64
  callback : Callback
  timer : Timer Callback
deriving DecidableEq

/-- `DeviceScheduler::startTask`. -/
def Task.startTask {Callback : Type} (task : Task Callback) (granted : Bool) :
    Task Callback × Bool :=
  let started := task.timer.startPeriodic task.intervalMs task.callback granted
  ({ task with timer := started.1 }, started.2)

/-- `task.timer->stop()`. -/
def Task.stopTimer {Callback : Type} (task : Task Callback) : Task Callback :=
  { task with timer := task.timer.stop }

structure DeviceScheduler (Callback : Type) where
  tasks : UnorderedMap UInt64 (Task Callback) := .empty
  nextTaskId : UInt64 := 1
  running : Bool := false

namespace DeviceScheduler

variable {Callback : Type}

/-- `DeviceScheduler::addTask`; `callback` is `none` for an empty function, `created` is
    whether the constructor of `Timer` succeeds. -/
def addTask (scheduler : DeviceScheduler Callback) (intervalMs : UInt64)
    (callback : Option Callback) (created granted : Bool) :
    DeviceScheduler Callback × UInt64 :=
  if intervalMs = 0 then (scheduler, 0)
  else
    match callback with
    | none => (scheduler, 0)
    | some callback =>
      if !created then (scheduler, 0)
      else
        let taskId := scheduler.nextTaskId
        let tasks := scheduler.tasks.emplace taskId { intervalMs, callback, timer := {} }
        let scheduler := { scheduler with tasks, nextTaskId := taskId + 1 }
        if !scheduler.running then (scheduler, taskId)
        else
          -- `result.first` is the entry of the id, whether or not it is the new one
          match tasks.find taskId with
          | none => (scheduler, taskId)
          | some task =>
            match task.startTask granted with
            | (task, true) =>
              ({ scheduler with tasks := tasks.modify taskId fun _ => task }, taskId)
            | (_, false) => ({ scheduler with tasks := tasks.erase taskId }, 0)

/-- `DeviceScheduler::removeTask`. -/
def removeTask (scheduler : DeviceScheduler Callback) (taskId : UInt64) :
    DeviceScheduler Callback × Bool :=
  match scheduler.tasks.find taskId with
  | none => (scheduler, false)
  | some _ => ({ scheduler with tasks := scheduler.tasks.erase taskId }, true)

/-- `DeviceScheduler::start`; `granted` is what `timerfd_settime` says to the timer of each
    task. -/
def start (scheduler : DeviceScheduler Callback) (granted : UInt64 → Bool) :
    DeviceScheduler Callback × Bool :=
  if scheduler.running then (scheduler, true)
  else
    match scheduler.tasks.visit fun taskId task => task.startTask (granted taskId) with
    | (tasks, false) => ({ scheduler with tasks := tasks.mapValues Task.stopTimer }, false)
    | (tasks, true) => ({ scheduler with tasks, running := true }, true)

/-- `DeviceScheduler::stop`. -/
def stop (scheduler : DeviceScheduler Callback) : DeviceScheduler Callback :=
  { scheduler with tasks := scheduler.tasks.mapValues Task.stopTimer, running := false }

end DeviceScheduler

/-! ## Runs -/

/-- A call, or another iteration order of `tasks_`. -/
inductive SchedulerCall (Callback : Type) where
  | addTask (intervalMs : UInt64) (callback : Option Callback) (created granted : Bool)
  | removeTask (taskId : UInt64)
  | start (granted : UInt64 → Bool)
  | stop
  | rehash (entries : List (UInt64 × Task Callback))

/-- The scheduler under any sequence of calls. -/
def schedulerSystem (Callback : Type) [DecidableEq Callback] :
    TransitionSystem (DeviceScheduler Callback) (SchedulerCall Callback) where
  init scheduler := scheduler = {}
  step scheduler
    | .addTask intervalMs callback created granted =>
      some (scheduler.addTask intervalMs callback created granted).1
    | .removeTask taskId => some (scheduler.removeTask taskId).1
    | .start granted => some (scheduler.start granted).1
    | .stop => some scheduler.stop
    | .rehash entries =>
      if h : entries.Perm scheduler.tasks.entries then
        some { scheduler with tasks := scheduler.tasks.rehash entries h }
      else none

end EdgeLink
