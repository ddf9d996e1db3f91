import EdgeLink.ForStd.TimerFd
import EdgeLink.Native.DeviceScheduler

/-! # Timers against the clock

`timer.cpp` and `device_scheduler.cpp` together with their timer descriptors, as time goes on
between the calls. The event loop calls `handleRead` when a descriptor is readable; an event
that it took from `epoll_wait` before another callback set the timer anew is late, so
`handleRead` may be called at any time.

Times are nanoseconds of the monotonic clock. -/

namespace EdgeLink

/-- A `timespec` as the kernel reads it. -/
def Timespec.toTime (time : Timespec) : Nat :=
  (time.tv_sec.toInt * 1000000000 + time.tv_nsec.toInt).toNat

/-- A setting that the kernel takes at a time. -/
def Itimerspec.setTime (setting : Itimerspec) (now : Nat) : TimerRecord :=
  .setTime now setting.it_value.toTime setting.it_interval.toTime

namespace Timer

variable {Callback : Type}

/-- The setting that `startOnce` asks for. -/
def onceSpec (delayMs : UInt64) : Itimerspec :=
  { it_value :=
      { tv_sec := (delayMs / 1000).toInt64
        tv_nsec := (delayMs % 1000 * 1000000).toInt64 } }

/-- `Timer::startOnce`. -/
def startOnce (timer : Timer Callback) (delayMs : UInt64) (callback : Callback)
    (granted : Bool) : Timer Callback × Bool :=
  -- the callback is the new one also where the old setting stays
  let timer := { timer with callback := some callback }
  if granted then (timer.settime (onceSpec delayMs), true) else (timer, false)

/-- The descriptor of a timer that a call has changed from `before` to `after`: it is set anew
    where `timerfd_settime` has taken a setting. -/
def recordAfter (before after : Timer Callback) (record : TimerRecord) (now : Nat) :
    TimerRecord :=
  if after.settings = before.settings then record else after.setting.setTime now

theorem recordAfter_of_eq {before after : Timer Callback}
    (h : after.settings = before.settings) (record : TimerRecord) (now : Nat) :
    before.recordAfter after record now = record :=
  if_pos h

theorem recordAfter_of_lt {before after : Timer Callback}
    (h : before.settings < after.settings) (record : TimerRecord) (now : Nat) :
    before.recordAfter after record now = after.setting.setTime now :=
  if_neg (Nat.ne_of_gt h)

end Timer

/-! ## One timer -/

/-- A `Timer`, its descriptor, and the time. -/
structure TimerRun (Callback : Type) where
  timer : Timer Callback := {}
  record : TimerRecord := {}
  now : Nat := 0
deriving DecidableEq

namespace TimerRun

variable {Callback : Type}

/-- The timer after a call, with its descriptor. -/
def changeTo (run : TimerRun Callback) (timer : Timer Callback) : TimerRun Callback :=
  { run with timer, record := run.timer.recordAfter timer run.record run.now }

/-- The timer after `startOnce`. -/
def startOnce (run : TimerRun Callback) (delayMs : UInt64) (callback : Callback)
    (granted : Bool) : TimerRun Callback :=
  run.changeTo (run.timer.startOnce delayMs callback granted).1

/-- The timer after `startPeriodic`. -/
def startPeriodic (run : TimerRun Callback) (intervalMs : UInt64) (callback : Callback)
    (granted : Bool) : TimerRun Callback :=
  run.changeTo (run.timer.startPeriodic intervalMs callback granted).1

/-- The timer after `stop`. -/
def stop (run : TimerRun Callback) : TimerRun Callback := run.changeTo run.timer.stop

/-- `Timer::handleRead`: the callback that is run. -/
def handleRead (run : TimerRun Callback) : TimerRun Callback × Option Callback :=
  match run.record.read run.now with
  | (record, none) => ({ run with record }, none)
  | (record, some _) => ({ run with record }, run.timer.callback)

end TimerRun

/-- A call, or time that passes. -/
inductive TimerCall (Callback : Type) where
  | startOnce (delayMs : UInt64) (callback : Callback) (granted : Bool)
  | startPeriodic (intervalMs : UInt64) (callback : Callback) (granted : Bool)
  | stop
  | handleRead
  | elapse (nanoseconds : Nat)

/-- One timer under any sequence of calls. -/
def timerSystem (Callback : Type) : TransitionSystem (TimerRun Callback) (TimerCall Callback) where
  init run := run.timer = {} ∧ run.record = {}
  step run
    | .startOnce delayMs callback granted =>
      some (run.startOnce delayMs callback granted)
    | .startPeriodic intervalMs callback granted =>
      some (run.startPeriodic intervalMs callback granted)
    | .stop => some run.stop
    | .handleRead => some run.handleRead.1
    | .elapse nanoseconds => some { run with now := run.now + nanoseconds }

/-! ## The timers of the scheduler -/

/-- The scheduler, the descriptors of its tasks by their ids, and the time. -/
structure SchedulerRun (Callback : Type) where
  scheduler : DeviceScheduler Callback := {}
  records : UInt64 → TimerRecord := fun _ => {}
  now : Nat := 0

namespace SchedulerRun

variable {Callback : Type}

/-- The timer of a task and its descriptor; both are new for a task that is not registered. -/
def timerOf (run : SchedulerRun Callback) (taskId : UInt64) : Timer Callback × TimerRecord :=
  match run.scheduler.tasks.find taskId with
  | none => ({}, {})
  | some task => (task.timer, run.records taskId)

/-- The descriptors once a call has left the scheduler as `after`: that of a removed task is
    closed. -/
def recordsAfter (run : SchedulerRun Callback) (after : DeviceScheduler Callback)
    (taskId : UInt64) : TimerRecord :=
  match after.tasks.find taskId with
  | none => {}
  | some task =>
    let (timer, record) := run.timerOf taskId
    timer.recordAfter task.timer record run.now

/-- `Timer::handleRead` of a task's timer: the callback that is run. The descriptor of a task
    that was removed is closed. -/
def handleRead (run : SchedulerRun Callback) (taskId : UInt64) :
    SchedulerRun Callback × Option Callback :=
  match run.scheduler.tasks.find taskId with
  | none => (run, none)
  | some task =>
    match (run.records taskId).read run.now with
    | (_, none) => (run, none)
    | (record, some _) =>
      ({ run with records := Function.update run.records taskId record }, task.timer.callback)

end SchedulerRun

/-- A call of the scheduler, an event of a task's timer, or time that passes. -/
inductive ScheduleStep (Callback : Type) where
  | call (call : SchedulerCall Callback)
  | handleRead (taskId : UInt64)
  | elapse (nanoseconds : Nat)

/-- The scheduler and its timers under any sequence of calls and events. -/
def scheduleSystem (Callback : Type) [DecidableEq Callback] :
    TransitionSystem (SchedulerRun Callback) (ScheduleStep Callback) where
  init run := run.scheduler = {}
  step run
    | .call call =>
      ((schedulerSystem Callback).step run.scheduler call).map fun scheduler =>
        { run with scheduler, records := run.recordsAfter scheduler }
    | .handleRead taskId => some (run.handleRead taskId).1
    | .elapse nanoseconds => some { run with now := run.now + nanoseconds }

end EdgeLink
