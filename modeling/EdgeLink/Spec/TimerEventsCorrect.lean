import EdgeLink.Native.TimerEvents
import EdgeLink.Spec.DeviceSchedulerCorrect

/-! # Timers run their callbacks on time

However late the event loop gets to a timer, and whatever is called in between, a callback is
run at most once for each expiration of the setting that is in force, never before it, and not
at all once the timer was stopped.

## Key results

* `setTime_periodicSpec`, `setTime_onceSpec`: the settings in nanoseconds.
* `ServesSetting.step`: what every call keeps until the next setting.
* `timer_runs_once_an_expiration`: the settings of a `Timer`.
* `taskChange_of_call`: what a call of the scheduler does to a task's timer.
* `ScheduleInv.step`, `scheduled_callbacks`: the same for all tasks of the scheduler. -/

namespace EdgeLink

/-! ## Settings in nanoseconds -/

/-- Milliseconds in nanoseconds. -/
def millisecondsToNanoseconds (milliseconds : UInt64) : Nat := milliseconds.toNat * 1000000

theorem millisecondsToNanoseconds_pos {milliseconds : UInt64} (h : milliseconds ≠ 0) :
    0 < millisecondsToNanoseconds milliseconds := by
  have hpositive := UInt64.toNat_pos_of_ne_zero h
  rw [millisecondsToNanoseconds]
  omega

theorem toTime_zero : Timespec.toTime {} = 0 := by decide

/-- The first expiration is as far away as was asked for. -/
theorem periodicSpec_toTime (intervalMs : UInt64) :
    (Timer.periodicSpec intervalMs).it_value.toTime = millisecondsToNanoseconds intervalMs := by
  by_cases hzero : intervalMs = 0
  · subst hzero
    decide
  · have hfirst := (periodicSpec_armedEvery hzero).first
    have htime : (Timer.periodicSpec intervalMs).it_value.toTime =
        (Timer.periodicSpec intervalMs).it_value.nanoseconds.toNat := rfl
    rw [htime, hfirst, millisecondsToNanoseconds]
    omega

theorem setTime_periodicSpec (intervalMs : UInt64) (now : Nat) :
    (Timer.periodicSpec intervalMs).setTime now =
      .setTime now (millisecondsToNanoseconds intervalMs)
        (millisecondsToNanoseconds intervalMs) := by
  have hagain : (Timer.periodicSpec intervalMs).it_interval =
      (Timer.periodicSpec intervalMs).it_value := rfl
  rw [Itimerspec.setTime, hagain, periodicSpec_toTime]

theorem setTime_onceSpec (delayMs : UInt64) (now : Nat) :
    (Timer.onceSpec delayMs).setTime now =
      .setTime now (millisecondsToNanoseconds delayMs) 0 := by
  have hvalue : (Timer.onceSpec delayMs).it_value = (Timer.periodicSpec delayMs).it_value := rfl
  have honce : (Timer.onceSpec delayMs).it_interval.toTime = 0 := toTime_zero
  rw [Itimerspec.setTime, hvalue, periodicSpec_toTime, honce]

theorem setTime_disarmed (now : Nat) : Itimerspec.setTime {} now = .setTime now 0 0 := by
  rw [Itimerspec.setTime, toTime_zero]

/-! ## One timer -/

section Timer

variable {Callback : Type}

/-- The call leaves the setting that is in force: a start that `timerfd_settime` refuses only
    replaces the callback. -/
def KeepsSetting : TimerCall Callback → Prop
  | .startOnce _ _ granted | .startPeriodic _ _ granted => granted = false
  | .stop => False
  | .handleRead | .elapse _ => True

instance (call : TimerCall Callback) : Decidable (KeepsSetting call) := by
  unfold KeepsSetting
  cases call <;> infer_instance

/-- A callback that is run, with the time. -/
def callbackRun (run : TimerRun Callback) : TimerCall Callback → Option (Nat × Callback)
  | .handleRead => run.handleRead.2.map fun callback => (run.now, callback)
  | _ => none

/-- The callbacks that are run from a given state on, while the setting stays. -/
abbrev RunsSince (start : TimerRun Callback) (after : TimerRun Callback)
    (runs : List (Nat × Callback)) : Prop :=
  (((timerSystem Callback).startedIn start).observed callbackRun).Reachable
    (fun _ call => KeepsSetting call) (after, runs)

/-- The setting is still in force, and the callback was run for some of its expirations. -/
structure ServesSetting (start value interval : Nat) (run : TimerRun Callback)
    (runs : List (Nat × Callback)) : Prop where
  expirations :
    run.record.timerFd.expirations = (TimerFd.setTime start value interval).expirations
  served : run.record.Served run.now
  reads : run.record.reads = (runs.map Prod.fst).reverse
  callback : value = 0 ∨ run.timer.callback.isSome
  started : start ≤ run.now

variable {start value interval : Nat} {run : TimerRun Callback} {runs : List (Nat × Callback)}

/-- A setting that the kernel has just taken. -/
theorem servesSetting_changeTo {timer : Timer Callback}
    (hnew : run.timer.settings < timer.settings)
    (hsetting : timer.setting.setTime run.now = .setTime run.now value interval)
    (hcallback : value = 0 ∨ timer.callback.isSome) :
    ServesSetting run.now value interval (run.changeTo timer) [] := by
  rw [TimerRun.changeTo, Timer.recordAfter_of_lt hnew, hsetting]
  exact ⟨rfl, TimerRecord.served_setTime run.now value interval run.now, rfl, hcallback,
    Nat.le_refl run.now⟩

/-- The descriptor can be read exactly when the setting has gone off since the last run. -/
theorem ServesSetting.read_iff (h : ServesSetting start value interval run runs) :
    (run.record.read run.now).2.isSome ↔
      0 < (TimerFd.setTime start value interval).expirations run.now ∧
        ∀ earlier ∈ runs, (TimerFd.setTime start value interval).expirations earlier.1 <
          (TimerFd.setTime start value interval).expirations run.now := by
  rw [h.served.read_iff, h.expirations, h.reads]
  simp

/-- A descriptor that can be read has a callback. -/
theorem ServesSetting.callback_of_read (h : ServesSetting start value interval run runs)
    (hread : (run.record.read run.now).2.isSome) : run.timer.callback.isSome := by
  obtain hzero | hcallback := h.callback
  · have hpos := (h.read_iff.mp hread).1
    rw [hzero, TimerFd.expirations_zero] at hpos
    exact absurd hpos (Nat.lt_irrefl 0)
  · exact hcallback

/-- `handleRead` runs a callback exactly where the read succeeds. -/
theorem handleRead_isSome (run : TimerRun Callback) :
    run.handleRead.2.isSome ↔
      (run.record.read run.now).2.isSome ∧ run.timer.callback.isSome := by
  unfold TimerRun.handleRead
  split <;> rename_i hread <;> simp [hread]

/-- A `handleRead` is a run of the callback, or changes nothing. -/
theorem ServesSetting.handleRead (h : ServesSetting start value interval run runs) :
    ServesSetting start value interval run.handleRead.1
      (runs ++ (callbackRun run .handleRead).toList) := by
  have hserved := h.served.read
  unfold callbackRun TimerRun.handleRead
  cases hread : (run.record.read run.now).2 with
  | none =>
    have hpair : run.record.read run.now = (run.record, none) :=
      Prod.ext (TimerRecord.read_of_none hread) hread
    rw [hpair]
    simpa using h
  | some count =>
    obtain ⟨callback, hcallback⟩ :=
      Option.isSome_iff_exists.mp (h.callback_of_read (by rw [hread]; rfl))
    have heq := (TimerRecord.read_of_some hread).2
    have hpair : run.record.read run.now = (_, some count) := Prod.ext heq hread
    rw [heq] at hserved
    rw [hpair]
    refine ⟨?_, hserved, ?_, .inr ?_, h.started⟩
    · exact (funext fun time => TimerFd.expirations_taken _ _ time).trans h.expirations
    · simp [hcallback, h.reads]
    · rw [hcallback]
      rfl

/-- A call that sets nothing but the callback. -/
theorem ServesSetting.changeTo (h : ServesSetting start value interval run runs)
    {timer : Timer Callback} (hsettings : timer.settings = run.timer.settings)
    (hcallback : timer.callback.isSome = true) :
    ServesSetting start value interval (run.changeTo timer) runs := by
  rw [TimerRun.changeTo, Timer.recordAfter_of_eq hsettings]
  exact ⟨h.expirations, h.served, h.reads, .inr hcallback, h.started⟩

/-- Every call that leaves the setting keeps the record of its runs right. -/
theorem ServesSetting.step (h : ServesSetting start value interval run runs)
    {call : TimerCall Callback} (hkeeps : KeepsSetting call) {after : TimerRun Callback}
    (hstep : (timerSystem Callback).step run call = some after) :
    ServesSetting start value interval after (runs ++ (callbackRun run call).toList) := by
  cases call with
  | startOnce delayMs callback granted =>
    obtain rfl : granted = false := hkeeps
    obtain rfl := Option.some.inj hstep
    show ServesSetting _ _ _ _ (runs ++ [])
    rw [List.append_nil]
    exact h.changeTo rfl rfl
  | startPeriodic intervalMs callback granted =>
    obtain rfl : granted = false := hkeeps
    obtain rfl := Option.some.inj hstep
    show ServesSetting _ _ _ _ (runs ++ [])
    rw [List.append_nil]
    exact h.changeTo rfl rfl
  | stop => exact hkeeps.elim
  | handleRead =>
    obtain rfl := Option.some.inj hstep
    exact h.handleRead
  | elapse nanoseconds =>
    obtain rfl := Option.some.inj hstep
    show ServesSetting _ _ _ _ (runs ++ [])
    rw [List.append_nil]
    have hlater : run.now ≤ run.now + nanoseconds := Nat.le_add_right _ _
    exact ⟨h.expirations, h.served.later hlater, h.reads, h.callback,
      Nat.le_trans h.started hlater⟩

/-- Over every run until the next setting. -/
theorem servesSetting_of_runsSince {before after : TimerRun Callback}
    (hbefore : ServesSetting start value interval before [])
    (h : RunsSince before after runs) : ServesSetting start value interval after runs := by
  refine h.invariant (fun observed => ServesSetting start value interval observed.1 observed.2)
    ?_ ?_
  · rintro ⟨run, runs⟩ ⟨hinit, hruns⟩
    obtain rfl : run = before := hinit
    obtain rfl : runs = [] := hruns
    exact hbefore
  · rintro ⟨run, runs⟩ call ⟨run', runs'⟩ - hserves hkeeps hstep
    obtain ⟨next, hnext, heq⟩ := Option.map_eq_some_iff.mp hstep
    obtain ⟨rfl, rfl⟩ := Prod.mk.inj heq
    exact hserves.step hkeeps hnext

/-- The runs have seen more and more expirations, the first at least one. -/
theorem ServesSetting.runs_fresh (h : ServesSetting start value interval run runs) :
    (runs.map fun earlier => (TimerFd.setTime start value interval).expirations earlier.1).Pairwise
        (· < ·) ∧
      ∀ earlier ∈ runs,
        0 < (TimerFd.setTime start value interval).expirations earlier.1 ∧
          earlier.1 ≤ run.now := by
  have hcounts : run.record.counts =
      (runs.map fun earlier =>
        (TimerFd.setTime start value interval).expirations earlier.1).reverse := by
    rw [TimerRecord.counts, h.reads, h.expirations, List.map_reverse, List.map_map]
    rfl
  obtain ⟨hpairwise, -, hpositive⟩ := List.pairwise_append.mp h.served.fresh
  constructor
  · rw [hcounts, List.pairwise_reverse] at hpairwise
    exact hpairwise
  · intro earlier hmem
    constructor
    · refine hpositive _ ?_ 0 List.mem_cons_self
      rw [hcounts, List.mem_reverse]
      exact List.mem_map_of_mem hmem
    · refine h.served.past _ ?_
      rw [h.reads, List.mem_reverse]
      exact List.mem_map_of_mem hmem

/-- `handleRead` runs the callback exactly when the setting has gone off since the last run. -/
theorem ServesSetting.handleRead_iff (h : ServesSetting start value interval run runs) :
    run.handleRead.2.isSome ↔
      0 < (TimerFd.setTime start value interval).expirations run.now ∧
        ∀ earlier ∈ runs, (TimerFd.setTime start value interval).expirations earlier.1 <
          (TimerFd.setTime start value interval).expirations run.now := by
  rw [← h.read_iff, handleRead_isSome]
  exact and_iff_left_of_imp h.callback_of_read

/-- From a setting of zero on the callback is never run. -/
theorem ServesSetting.never (h : ServesSetting start 0 interval run runs) :
    runs = [] ∧ run.handleRead.2 = none := by
  constructor
  · refine List.eq_nil_iff_forall_not_mem.mpr fun earlier hmem => ?_
    exact absurd (h.runs_fresh.2 earlier hmem).1 (Nat.lt_irrefl 0)
  · rw [← Option.not_isSome_iff_eq_none, h.handleRead_iff]
    exact fun hread => absurd hread.1 (Nat.lt_irrefl 0)

/-- `startPeriodic`, where the kernel takes the setting. -/
theorem servesSetting_startPeriodic (run : TimerRun Callback) (intervalMs : UInt64)
    (callback : Callback) :
    ServesSetting run.now (millisecondsToNanoseconds intervalMs)
      (millisecondsToNanoseconds intervalMs) (run.startPeriodic intervalMs callback true) [] :=
  servesSetting_changeTo (Nat.lt_succ_self _) (setTime_periodicSpec intervalMs run.now) (.inr rfl)

/-- `startOnce`, where the kernel takes the setting. -/
theorem servesSetting_startOnce (run : TimerRun Callback) (delayMs : UInt64)
    (callback : Callback) :
    ServesSetting run.now (millisecondsToNanoseconds delayMs) 0
      (run.startOnce delayMs callback true) [] :=
  servesSetting_changeTo (Nat.lt_succ_self _) (setTime_onceSpec delayMs run.now) (.inr rfl)

/-- `stop` is a setting of zero. -/
theorem servesSetting_stop (run : TimerRun Callback) :
    ServesSetting run.now 0 0 run.stop [] :=
  servesSetting_changeTo (Nat.lt_succ_self _) (setTime_disarmed run.now) (.inl rfl)

/-- From the last setting on a periodic timer runs its callback at most once in each interval,
    a one-shot timer once and not before its delay is over, and a timer that was stopped, or
    started with a time of zero, never; and the next `handleRead` runs it exactly when there is
    such an expiration that was not served. -/
theorem timer_runs_once_an_expiration (before : TimerRun Callback) :
    (∀ intervalMs callback after runs, intervalMs ≠ 0 →
      RunsSince (before.startPeriodic intervalMs callback true) after runs →
      let window time := (time - before.now) / millisecondsToNanoseconds intervalMs
      (runs.map fun run => window run.1).Pairwise (· < ·) ∧
        (∀ run ∈ runs, 0 < window run.1 ∧ run.1 ≤ after.now) ∧
        (after.handleRead.2.isSome ↔
          0 < window after.now ∧ ∀ run ∈ runs, window run.1 < window after.now)) ∧
    (∀ delayMs callback after runs, delayMs ≠ 0 →
      RunsSince (before.startOnce delayMs callback true) after runs →
      let due := before.now + millisecondsToNanoseconds delayMs
      runs.length ≤ 1 ∧ (∀ run ∈ runs, due ≤ run.1 ∧ run.1 ≤ after.now) ∧
        (after.handleRead.2.isSome ↔ runs = [] ∧ due ≤ after.now)) ∧
    (∀ after runs, RunsSince before.stop after runs →
      runs = [] ∧ after.handleRead.2 = none) ∧
    (∀ callback after runs,
      RunsSince (before.startPeriodic 0 callback true) after runs ∨
        RunsSince (before.startOnce 0 callback true) after runs →
      runs = [] ∧ after.handleRead.2 = none) := by
  refine ⟨?_, ?_, ?_, ?_⟩
  · intro intervalMs callback after runs hne h window
    have hpos := millisecondsToNanoseconds_pos hne
    have hstart := servesSetting_startPeriodic before intervalMs callback
    have hserves := servesSetting_of_runsSince hstart h
    have hwindow : (TimerFd.setTime before.now (millisecondsToNanoseconds intervalMs)
        (millisecondsToNanoseconds intervalMs)).expirations = window := by
      funext time
      exact TimerFd.expirations_periodic hpos before.now time
    have hruns := hserves.runs_fresh
    have hread := hserves.handleRead_iff
    simp only [hwindow] at hruns hread
    exact ⟨hruns.1, hruns.2, hread⟩
  · intro delayMs callback after runs hne h due
    have hpos := millisecondsToNanoseconds_pos hne
    have hstart := servesSetting_startOnce before delayMs callback
    have hserves := servesSetting_of_runsSince hstart h
    have honce := TimerFd.expirations_once hpos before.now
    obtain ⟨hpairwise, hruns⟩ := hserves.runs_fresh
    have hdue : ∀ run ∈ runs, due ≤ run.1 ∧ run.1 ≤ after.now := by
      intro run hmem
      obtain ⟨hcount, hpast⟩ := hruns run hmem
      rw [honce] at hcount
      split at hcount
      · rename_i hle
        exact ⟨hle, hpast⟩
      · exact absurd hcount (Nat.lt_irrefl 0)
    -- all runs have seen the one expiration there is
    have hcount : ∀ run ∈ runs, (TimerFd.setTime before.now (millisecondsToNanoseconds delayMs)
        0).expirations run.1 = 1 := by
      intro run hmem
      rw [honce, if_pos (hdue run hmem).1]
    refine ⟨?_, hdue, ?_⟩
    · match runs, hpairwise, hcount with
      | [], _, _ => exact Nat.zero_le 1
      | [_], _, _ => exact Nat.le_refl 1
      | first :: second :: _, hpairwise, hcount =>
        have hlt := (List.pairwise_cons.mp hpairwise).1 _ List.mem_cons_self
        beta_reduce at hlt
        rw [hcount first (by simp), hcount second (by simp)] at hlt
        exact absurd hlt (Nat.lt_irrefl 1)
    · rw [hserves.handleRead_iff, honce]
      constructor
      · rintro ⟨hnow, hall⟩
        split at hnow
        · rename_i hle
          refine ⟨List.eq_nil_iff_forall_not_mem.mpr fun run hmem => ?_, hle⟩
          have hlt := hall run hmem
          rw [if_pos hle, hcount run hmem] at hlt
          exact absurd hlt (Nat.lt_irrefl 1)
        · exact absurd hnow (Nat.lt_irrefl 0)
      · rintro ⟨rfl, hle⟩
        rw [if_pos hle]
        exact ⟨Nat.one_pos, List.forall_mem_nil _⟩
  · intro after runs h
    exact (servesSetting_of_runsSince (servesSetting_stop before) h).never
  · -- a time of zero disarms the timer
    rintro callback after runs (h | h)
    · exact (servesSetting_of_runsSince (servesSetting_startPeriodic before 0 callback) h).never
    · exact (servesSetting_of_runsSince (servesSetting_startOnce before 0 callback) h).never

/-- Two intervals and a half have passed when the loop gets to the timer: one run. -/
theorem timer_runs_once_late :
    ∃ (after : TimerRun Bool) (runs : List (Nat × Bool)), runs = [(5000000, true)] ∧
      ∀ run ∈ runs, 0 < (run.1 - 0) / millisecondsToNanoseconds 2 ∧ run.1 ≤ after.now := by
  let start : TimerRun Bool := TimerRun.startPeriodic {} 2 true true
  have hinit : (((timerSystem Bool).startedIn start).observed callbackRun).init (start, []) :=
    ⟨rfl, rfl⟩
  obtain ⟨⟨after, runs⟩, -, hreach, hruns⟩ := TransitionSystem.exists_of_run
    (((timerSystem Bool).startedIn start).observed callbackRun)
    (fun _ call => KeepsSetting call)
    [.elapse 5000000, .handleRead, .handleRead, .startOnce 7 false false]
    (fun observed => decide (observed.2 = [(5000000, true)]))
    hinit (by decide +kernel)
  exact ⟨after, runs, of_decide_eq_true hruns,
    ((timer_runs_once_an_expiration {}).1 2 true after runs (by decide) hreach).2.1⟩

end Timer

/-! ## The tasks of the scheduler -/

section Scheduler

variable {Callback : Type} {run : SchedulerRun Callback}

/-- A callback that an event has run: whose it is, and when. -/
structure ScheduledRun (Callback : Type) where
  taskId : UInt64
  time : Nat
  callback : Callback
deriving DecidableEq

/-- The callback that is run. -/
def scheduledRun (run : SchedulerRun Callback) : ScheduleStep Callback →
    Option (ScheduledRun Callback)
  | .handleRead taskId =>
    (run.handleRead taskId).2.map fun callback => ⟨taskId, run.now, callback⟩
  | _ => none

/-- The runs of a task after the time `setAt`. -/
def runsAfter (runs : List (ScheduledRun Callback)) (taskId : UInt64) (setAt : Nat) :
    List (ScheduledRun Callback) :=
  runs.filter fun earlier => earlier.taskId = taskId ∧ setAt < earlier.time

variable {runs : List (ScheduledRun Callback)}

theorem mem_runsAfter {taskId : UInt64} {setAt : Nat} {earlier : ScheduledRun Callback} :
    earlier ∈ runsAfter runs taskId setAt ↔
      earlier ∈ runs ∧ earlier.taskId = taskId ∧ setAt < earlier.time := by
  simp [runsAfter]

/-- There are none after a time that all runs were before. -/
theorem runsAfter_of_past {now : Nat} (h : ∀ earlier ∈ runs, earlier.time ≤ now)
    (taskId : UInt64) : runsAfter runs taskId now = [] := by
  refine List.eq_nil_iff_forall_not_mem.mpr fun earlier hmem => ?_
  obtain ⟨hmem, -, hlt⟩ := mem_runsAfter.mp hmem
  exact absurd (h earlier hmem) (Nat.not_le_of_lt hlt)

/-- A task's descriptor: set at the task's interval while the scheduler runs, with the task's
    callback to run and all runs since noted, and not set otherwise. -/
structure TaskServed (running : Bool) (now : Nat) (task : Task Callback)
    (record : TimerRecord) (runs : List (ScheduledRun Callback)) : Prop where
  served : record.Served now
  started : record.setAt ≤ now
  armed : running = true →
    task.timer.callback = some task.callback ∧
      record.timerFd.expirations =
        (TimerFd.setTime record.setAt (millisecondsToNanoseconds task.intervalMs)
          (millisecondsToNanoseconds task.intervalMs)).expirations
  reads : running = true → record.reads = (runs.map ScheduledRun.time).reverse
  callbacks : running = true → ∀ earlier ∈ runs, earlier.callback = task.callback
  idle : running = false → record.timerFd.expirations = fun _ => 0

/-- A task that was just started. -/
theorem taskServed_started {task : Task Callback} (now : Nat)
    (hcallback : task.timer.callback = some task.callback) :
    TaskServed true now task ((Timer.periodicSpec task.intervalMs).setTime now) [] := by
  rw [setTime_periodicSpec]
  exact ⟨TimerRecord.served_setTime _ _ _ _, Nat.le_refl now, fun _ => ⟨hcallback, rfl⟩,
    fun _ => rfl, fun _ => List.forall_mem_nil _,
    fun hidle => absurd hidle.symm Bool.false_ne_true⟩

/-- A task whose timer was just stopped. -/
theorem taskServed_stopped (task : Task Callback) (now : Nat)
    (runs : List (ScheduledRun Callback)) :
    TaskServed false now task (Itimerspec.setTime {} now) runs := by
  rw [setTime_disarmed]
  exact ⟨TimerRecord.served_setTime _ _ _ _, Nat.le_refl now,
    fun hrunning => absurd hrunning Bool.false_ne_true,
    fun hrunning => absurd hrunning Bool.false_ne_true,
    fun hrunning => absurd hrunning Bool.false_ne_true, fun _ => rfl⟩

/-- A task with a descriptor that was just made. -/
theorem taskServed_new (task : Task Callback) (now : Nat) (runs : List (ScheduledRun Callback)) :
    TaskServed false now task {} runs :=
  ⟨⟨rfl, List.pairwise_singleton _ _, List.forall_mem_nil _⟩, Nat.zero_le now,
    fun hrunning => absurd hrunning Bool.false_ne_true,
    fun hrunning => absurd hrunning Bool.false_ne_true,
    fun hrunning => absurd hrunning Bool.false_ne_true, fun _ => rfl⟩

/-- Time goes on. -/
theorem TaskServed.later {running : Bool} {now later : Nat} {task : Task Callback}
    {record : TimerRecord} (h : TaskServed running now task record runs) (hle : now ≤ later) :
    TaskServed running later task record runs :=
  ⟨h.served.later hle, Nat.le_trans h.started hle, h.armed, h.reads, h.callbacks, h.idle⟩

/-- The descriptor of a task is only read with success while the scheduler runs, and after the
    timer was started. -/
theorem TaskServed.of_read {running : Bool} {now : Nat} {task : Task Callback}
    {record : TimerRecord} (h : TaskServed running now task record runs) {count : Nat}
    (hread : (record.read now).2 = some count) : running = true ∧ record.setAt < now := by
  have hexpired : 0 < record.timerFd.expirations now :=
    (h.served.read_iff.mp (by rw [hread]; rfl)).1
  cases running with
  | false =>
    rw [h.idle rfl] at hexpired
    exact absurd hexpired (Nat.lt_irrefl 0)
  | true =>
    refine ⟨rfl, Nat.lt_of_le_of_ne h.started ?_⟩
    -- nothing has gone off at the time of the setting itself
    rintro rfl
    obtain ⟨-, hexpirations⟩ := h.armed rfl
    by_cases hzero : millisecondsToNanoseconds task.intervalMs = 0
    · rw [hexpirations, hzero, TimerFd.expirations_zero] at hexpired
      exact absurd hexpired (Nat.lt_irrefl 0)
    · rw [hexpirations, TimerFd.expirations_periodic (Nat.pos_of_ne_zero hzero), Nat.sub_self,
        Nat.zero_div] at hexpired
      exact absurd hexpired (Nat.lt_irrefl 0)

/-- The descriptor is read with success, and the callback is run. -/
theorem TaskServed.ran {running : Bool} {now : Nat} {task : Task Callback}
    {record : TimerRecord} (h : TaskServed running now task record runs) {count : Nat}
    (hread : (record.read now).2 = some count) (taskId : UInt64) :
    TaskServed running now task (record.read now).1
      (runs ++ [⟨taskId, now, task.callback⟩]) := by
  have hserved := h.served.read
  rw [(TimerRecord.read_of_some hread).2] at hserved ⊢
  refine ⟨hserved, h.started, ?_, ?_, ?_, ?_⟩
  · intro hrunning
    obtain ⟨hcallback, hexpirations⟩ := h.armed hrunning
    exact ⟨hcallback, (funext fun time => TimerFd.expirations_taken _ _ time).trans hexpirations⟩
  · intro hrunning
    rw [List.map_append, List.reverse_append, ← h.reads hrunning]
    rfl
  · intro hrunning
    rw [List.forall_mem_append, List.forall_mem_singleton]
    exact ⟨h.callbacks hrunning, rfl⟩
  · intro hidle
    exact (funext fun time => TimerFd.expirations_taken _ _ time).trans (h.idle hidle)

/-- The timers of all tasks are as they should be, and all runs are over. -/
structure ScheduleInv (run : SchedulerRun Callback) (runs : List (ScheduledRun Callback)) :
    Prop where
  wellTimed : run.scheduler.WellTimed
  past : ∀ earlier ∈ runs, earlier.time ≤ run.now
  tasks : ∀ taskId task, (taskId, task) ∈ run.scheduler.tasks.entries →
    TaskServed run.scheduler.running run.now task (run.records taskId)
      (runsAfter runs taskId (run.records taskId).setAt)

/-! ### Calls -/

/-- The timer of a registered task. -/
theorem timerOf_of_mem {taskId : UInt64} {task : Task Callback}
    (h : (taskId, task) ∈ run.scheduler.tasks.entries) :
    run.timerOf taskId = (task.timer, run.records taskId) := by
  rw [SchedulerRun.timerOf, (UnorderedMap.find_eq_some_iff _ _ _).mpr h]

/-- What a call does to a task that is registered afterwards: nothing, or the task is new and
    its timer was not set, or its timer was started, or stopped. -/
inductive TaskChange (run : SchedulerRun Callback) (after : DeviceScheduler Callback)
    (taskId : UInt64) (task : Task Callback) : Prop
  | kept (hold : (taskId, task) ∈ run.scheduler.tasks.entries)
    (hrunning : after.running = run.scheduler.running)
  | added (hnone : run.scheduler.tasks.find taskId = none) (htimer : task.timer = {})
    (hidle : after.running = false)
  | started (hnew : (run.timerOf taskId).1.settings < task.timer.settings)
    (hsetting : task.timer.setting = Timer.periodicSpec task.intervalMs)
    (hcallback : task.timer.callback = some task.callback) (hrunning : after.running = true)
  | stopped (hnew : (run.timerOf taskId).1.settings < task.timer.settings)
    (hsetting : task.timer.setting = {}) (hidle : after.running = false)

/-- `startTask` starts the timer of the task. -/
theorem taskChange_startTask {after : DeviceScheduler Callback} {taskId : UInt64}
    {task : Task Callback} (htimer : (run.timerOf taskId).1 = task.timer)
    (hrunning : after.running = true) :
    TaskChange run after taskId (task.startTask true).1 := by
  refine .started ?_ rfl rfl hrunning
  rw [htimer]
  exact Nat.lt_succ_self _

/-- `addTask`. -/
theorem taskChange_addTask (run : SchedulerRun Callback) (intervalMs : UInt64)
    (callback : Option Callback) (created granted : Bool) {taskId : UInt64}
    {task : Task Callback} (hmem : (taskId, task) ∈
      (run.scheduler.addTask intervalMs callback created granted).1.tasks.entries) :
    TaskChange run (run.scheduler.addTask intervalMs callback created granted).1 taskId
      task := by
  by_cases hcreates : DeviceScheduler.CreatesTimer intervalMs callback created
  · obtain ⟨hinterval, hcallback, rfl⟩ := hcreates
    obtain ⟨callback, rfl⟩ := Option.isSome_iff_exists.mp hcallback
    cases hrunning : run.scheduler.running with
    | false =>
      rw [DeviceScheduler.addTask_idle hinterval callback hrunning] at hmem ⊢
      obtain hold | heq := UnorderedMap.mem_entries_emplace hmem
      · exact .kept hold rfl
      · obtain ⟨rfl, rfl⟩ := Prod.mk.inj heq
        obtain ⟨hnone, -⟩ | hsome := UnorderedMap.find_of_mem_emplace hmem
        · exact .added hnone rfl hrunning
        · exact .kept ((UnorderedMap.find_eq_some_iff _ _ _).mp hsome) rfl
    | true =>
      rw [DeviceScheduler.addTask_running hinterval callback hrunning] at hmem ⊢
      cases granted with
      | true =>
        simp only [if_true] at hmem ⊢
        obtain ⟨hne, hold⟩ | ⟨rfl, old, hold, rfl⟩ :=
          (UnorderedMap.mem_entries_modify _ _ _ _ _).mp hmem
        · obtain hold | heq := UnorderedMap.mem_entries_emplace hold
          · exact .kept hold rfl
          · exact absurd (Prod.mk.inj heq).1 hne
        · -- the entry of the id is the new one, or the one that was there
          refine taskChange_startTask ?_ hrunning
          obtain ⟨hnone, rfl⟩ | hsome := UnorderedMap.find_of_mem_emplace hold
          · rw [SchedulerRun.timerOf, hnone]
          · rw [SchedulerRun.timerOf, hsome]
      | false =>
        simp only [Bool.false_eq_true, if_false] at hmem ⊢
        obtain ⟨hold, hne⟩ := (UnorderedMap.mem_entries_erase _ _ _).mp hmem
        obtain hold | heq := UnorderedMap.mem_entries_emplace hold
        · exact .kept hold rfl
        · exact absurd (Prod.mk.inj heq).1 hne
  · rw [DeviceScheduler.addTask_rejected hcreates] at hmem ⊢
    exact .kept hmem rfl

/-- `Timer::stop` on all tasks. -/
theorem taskChange_stopped {after : DeviceScheduler Callback} {taskId : UInt64}
    {old task : Task Callback} (hold : (taskId, old) ∈ run.scheduler.tasks.entries)
    (hsettings : old.timer.settings ≤ task.timer.settings) (hidle : after.running = false) :
    TaskChange run after taskId task.stopTimer := by
  refine .stopped ?_ rfl hidle
  rw [timerOf_of_mem hold]
  exact Nat.lt_succ_of_le hsettings

/-- `start`, where it starts all timers, and where it stops them again. -/
theorem taskChange_start (run : SchedulerRun Callback) (granted : UInt64 → Bool)
    {taskId : UInt64} {task : Task Callback}
    (hmem : (taskId, task) ∈ (run.scheduler.start granted).1.tasks.entries) :
    TaskChange run (run.scheduler.start granted).1 taskId task := by
  cases hrunning : run.scheduler.running with
  | true =>
    simp only [DeviceScheduler.start, hrunning, if_true] at hmem ⊢
    exact .kept hmem rfl
  | false =>
    simp only [DeviceScheduler.start, hrunning, Bool.false_eq_true, if_false] at hmem ⊢
    cases hvisit : run.scheduler.tasks.visit
      fun taskId task => task.startTask (granted taskId) with
    | mk tasks complete =>
      rw [hvisit] at hmem
      have hentries : tasks.entries = _ :=
        congrArg (fun result => result.1.entries) hvisit.symm
      cases complete with
      | false =>
        -- the loop has started this timer or not, and then it was stopped
        obtain ⟨⟨taskId', visited⟩, hvisited, heq⟩ := List.mem_map.mp hmem
        obtain ⟨rfl, rfl⟩ := Prod.mk.inj heq
        rw [hentries] at hvisited
        obtain ⟨old, hold, rfl | rfl⟩ := UnorderedMap.mem_visitEntries hvisited
        · exact taskChange_stopped hold (Nat.le_refl _) rfl
        · refine taskChange_stopped hold ?_ rfl
          cases granted taskId' with
          | true => exact Nat.le_succ _
          | false => exact Nat.le_refl _
      | true =>
        obtain ⟨hall, hgranted⟩ :=
          UnorderedMap.visitEntries_complete (congrArg Prod.snd hvisit)
        rw [hentries.trans hall] at hmem
        obtain ⟨⟨taskId', old⟩, hold, heq⟩ := List.mem_map.mp hmem
        obtain ⟨rfl, rfl⟩ := Prod.mk.inj heq
        rw [DeviceScheduler.startTask_granted (hgranted _ hold)]
        exact taskChange_startTask (congrArg Prod.fst (timerOf_of_mem hold)) rfl

/-- Every call. -/
theorem taskChange_of_call [DecidableEq Callback] {call : SchedulerCall Callback}
    {after : DeviceScheduler Callback}
    (hstep : (schedulerSystem Callback).step run.scheduler call = some after) {taskId : UInt64}
    {task : Task Callback} (hmem : (taskId, task) ∈ after.tasks.entries) :
    TaskChange run after taskId task := by
  cases call with
  | addTask intervalMs callback created granted =>
    obtain rfl := Option.some.inj hstep
    exact taskChange_addTask run intervalMs callback created granted hmem
  | removeTask removed =>
    obtain rfl := Option.some.inj hstep
    obtain hsame | herased := DeviceScheduler.removeTask_cases run.scheduler removed
    · rw [hsame] at hmem ⊢
      exact .kept hmem rfl
    · rw [herased] at hmem ⊢
      exact .kept ((UnorderedMap.mem_entries_erase _ _ _).mp hmem).1 rfl
  | start granted =>
    obtain rfl := Option.some.inj hstep
    exact taskChange_start run granted hmem
  | stop =>
    obtain rfl := Option.some.inj hstep
    obtain ⟨⟨taskId', old⟩, hold, heq⟩ := List.mem_map.mp hmem
    obtain ⟨rfl, rfl⟩ := Prod.mk.inj heq
    exact taskChange_stopped hold (Nat.le_refl _) rfl
  | rehash entries =>
    simp only [schedulerSystem] at hstep
    split at hstep
    · rename_i hperm
      obtain rfl := Option.some.inj hstep
      exact .kept (hperm.mem_iff.mp hmem) rfl
    · cases hstep

/-- A call keeps the timers right. -/
theorem ScheduleInv.call [DecidableEq Callback] (h : ScheduleInv run runs)
    {call : SchedulerCall Callback} {after : DeviceScheduler Callback}
    (hstep : (schedulerSystem Callback).step run.scheduler call = some after) :
    ScheduleInv { run with scheduler := after, records := run.recordsAfter after } runs := by
  refine ⟨h.wellTimed.step hstep, h.past, fun taskId task hmem => ?_⟩
  have hrecord : run.recordsAfter after taskId =
      (run.timerOf taskId).1.recordAfter task.timer (run.timerOf taskId).2 run.now := by
    rw [SchedulerRun.recordsAfter, (UnorderedMap.find_eq_some_iff _ _ _).mpr hmem]
  dsimp only
  rw [hrecord]
  cases taskChange_of_call hstep hmem with
  | kept hold hrunning =>
    rw [timerOf_of_mem hold, Timer.recordAfter_of_eq rfl, hrunning]
    exact h.tasks taskId task hold
  | added hnone htimer hidle =>
    have htimerOf : run.timerOf taskId = ({}, {}) := by rw [SchedulerRun.timerOf, hnone]
    rw [htimerOf, Timer.recordAfter_of_eq (by rw [htimer]), hidle]
    exact taskServed_new task run.now _
  | started hnew hsetting hcallback hrunning =>
    -- there is no run yet after the setting
    have hnone := runsAfter_of_past h.past taskId
    rw [Timer.recordAfter_of_lt hnew, hsetting, hrunning, Itimerspec.setTime]
    have hstarted := taskServed_started run.now hcallback
    rw [← hnone] at hstarted
    exact hstarted
  | stopped hnew hsetting hidle =>
    rw [Timer.recordAfter_of_lt hnew, hsetting, hidle]
    exact taskServed_stopped task run.now _

/-! ### Events -/

/-- An event of a task's timer is a run of its callback, or changes nothing. -/
theorem ScheduleInv.handleRead (h : ScheduleInv run runs) (taskId : UInt64) :
    ScheduleInv (run.handleRead taskId).1
      (runs ++ (scheduledRun run (.handleRead taskId)).toList) := by
  simp only [scheduledRun, SchedulerRun.handleRead]
  cases hfind : run.scheduler.tasks.find taskId with
  | none =>
    show ScheduleInv run (runs ++ [])
    rw [List.append_nil]
    exact h
  | some task =>
    have hmem := (UnorderedMap.find_eq_some_iff _ _ _).mp hfind
    have hserved := h.tasks taskId task hmem
    cases hread : (run.records taskId).read run.now with
    | mk record count =>
      cases count with
      | none =>
        show ScheduleInv run (runs ++ [])
        rw [List.append_nil]
        exact h
      | some count =>
        have hcount := congrArg Prod.snd hread
        obtain ⟨hrunning, hlt⟩ := hserved.of_read hcount
        have hran := hserved.ran hcount taskId
        obtain rfl : ((run.records taskId).read run.now).1 = record := congrArg Prod.fst hread
        obtain ⟨-, -, hset⟩ := (run.records taskId).read_timerFd run.now
        simp only [(hserved.armed hrunning).1, Option.map_some, Option.toList_some]
        constructor
        case wellTimed => exact h.wellTimed
        case past =>
          rw [List.forall_mem_append, List.forall_mem_singleton]
          exact ⟨h.past, Nat.le_refl _⟩
        case tasks =>
          intro other task' hother
          by_cases heq : other = taskId
          · subst heq
            obtain rfl : task' = task := run.scheduler.tasks.value_unique hother hmem
            have hruns : runsAfter (runs ++ [⟨other, run.now, task'.callback⟩]) other
                (run.records other).setAt =
                runsAfter runs other (run.records other).setAt ++
                  [⟨other, run.now, task'.callback⟩] := by
              simp [runsAfter, hlt]
            dsimp only
            rw [Function.update_self, hset, hruns]
            exact hran
          · have hruns (setAt : Nat) :
                runsAfter (runs ++ [⟨taskId, run.now, task.callback⟩]) other setAt =
                  runsAfter runs other setAt := by
              simp [runsAfter, Ne.symm heq]
            dsimp only
            rw [Function.update_of_ne heq, hruns]
            exact h.tasks other task' hother

/-- Every call and every event keeps the timers right. -/
theorem ScheduleInv.step [DecidableEq Callback] (h : ScheduleInv run runs)
    {action : ScheduleStep Callback} {after : SchedulerRun Callback}
    (hstep : (scheduleSystem Callback).step run action = some after) :
    ScheduleInv after (runs ++ (scheduledRun run action).toList) := by
  cases action with
  | call call =>
    obtain ⟨scheduler, hcall, rfl⟩ := Option.map_eq_some_iff.mp hstep
    show ScheduleInv _ (runs ++ [])
    rw [List.append_nil]
    exact h.call hcall
  | handleRead taskId =>
    obtain rfl := Option.some.inj hstep
    exact h.handleRead taskId
  | elapse nanoseconds =>
    obtain rfl := Option.some.inj hstep
    have hlater : run.now ≤ run.now + nanoseconds := Nat.le_add_right _ _
    show ScheduleInv _ (runs ++ [])
    rw [List.append_nil]
    exact ⟨h.wellTimed, fun earlier hmem => Nat.le_trans (h.past earlier hmem) hlater,
      fun taskId task hmem => (h.tasks taskId task hmem).later hlater⟩

/-- Over every run. -/
theorem scheduleInv_of_observed [DecidableEq Callback]
    (h : ((scheduleSystem Callback).observed scheduledRun).Reachable TransitionSystem.anyStep
      (run, runs)) : ScheduleInv run runs := by
  refine h.invariant (fun observed => ScheduleInv observed.1 observed.2) ?_ ?_
  · rintro ⟨run, runs⟩ ⟨hinit, hruns⟩
    obtain hinit : run.scheduler = {} := hinit
    obtain rfl : runs = [] := hruns
    refine ⟨?_, List.forall_mem_nil _, ?_⟩
    · rw [hinit]
      exact List.forall_mem_nil _
    · rw [hinit]
      exact fun _ _ hmem => absurd hmem List.not_mem_nil
  · rintro ⟨run, runs⟩ action ⟨run', runs'⟩ - hinv - hstep
    obtain ⟨next, hnext, heq⟩ := Option.map_eq_some_iff.mp hstep
    obtain ⟨rfl, rfl⟩ := Prod.mk.inj heq
    exact hinv.step hnext

/-- In every run of the scheduler, of the callbacks that were run so far: a running task's own
    callback was run at most once in each of the intervals since the task's timer was set, so
    not more often than intervals have passed; the next event runs the callback of the task
    exactly when the current interval is one in which it was not run; and no event runs
    anything for a task that was removed or while the scheduler is stopped. -/
theorem scheduled_callbacks [DecidableEq Callback] {run : SchedulerRun Callback}
    {runs : List (ScheduledRun Callback)}
    (h : ((scheduleSystem Callback).observed scheduledRun).Reachable TransitionSystem.anyStep
      (run, runs)) (taskId : UInt64) :
    (∀ task, run.scheduler.tasks.find taskId = some task → run.scheduler.running = true →
      let record := run.records taskId
      let runsSince := runsAfter runs taskId record.setAt
      let window time := (time - record.setAt) / millisecondsToNanoseconds task.intervalMs
      record.setAt ≤ run.now ∧ record.reads = (runsSince.map ScheduledRun.time).reverse ∧
        (runsSince.map fun earlier => window earlier.time).Pairwise (· < ·) ∧
        (∀ earlier ∈ runsSince, 0 < window earlier.time ∧ earlier.time ≤ run.now ∧
          earlier.callback = task.callback) ∧
        runsSince.length ≤ window run.now ∧
        (run.handleRead taskId).2 =
          if 0 < window run.now ∧ ∀ earlier ∈ runsSince, window earlier.time < window run.now
          then some task.callback else none) ∧
    (run.scheduler.tasks.find taskId = none ∨ run.scheduler.running = false →
      (run.handleRead taskId).2 = none) := by
  have hinv := scheduleInv_of_observed h
  constructor
  · intro task hfind hrunning record runsSince window
    have hmem := (UnorderedMap.find_eq_some_iff _ _ _).mp hfind
    have hserved := hinv.tasks taskId task hmem
    obtain ⟨hcallback, hexpirations⟩ := hserved.armed hrunning
    have hreads : record.reads = (runsSince.map ScheduledRun.time).reverse :=
      hserved.reads hrunning
    have hpos := millisecondsToNanoseconds_pos (hinv.wellTimed _ hmem).1
    have hwindow : record.timerFd.expirations = window := by
      funext time
      rw [hexpirations]
      exact TimerFd.expirations_periodic hpos record.setAt time
    have hcounts : record.counts =
        (runsSince.map fun earlier => window earlier.time).reverse := by
      rw [TimerRecord.counts, hreads, hwindow, List.map_reverse, List.map_map]
      rfl
    obtain ⟨hpairwise, -, hpositive⟩ := List.pairwise_append.mp hserved.served.fresh
    replace hpairwise : record.counts.Pairwise (· > ·) := hpairwise
    replace hpositive : ∀ count ∈ record.counts, ∀ bound ∈ [0], count > bound := hpositive
    refine ⟨hserved.started, hreads, ?_, ?_, ?_, ?_⟩
    · rw [hcounts, List.pairwise_reverse] at hpairwise
      exact hpairwise
    · intro earlier hearlier
      refine ⟨?_, ?_, hserved.callbacks hrunning earlier hearlier⟩
      · refine hpositive _ ?_ 0 List.mem_cons_self
        rw [hcounts, List.mem_reverse]
        exact List.mem_map_of_mem hearlier
      · exact hinv.past earlier (mem_runsAfter.mp hearlier).1
    · have hlength := hserved.served.length_reads_le
      replace hlength : record.reads.length ≤ record.timerFd.expirations run.now := hlength
      rwa [hreads, hwindow, List.length_reverse, List.length_map] at hlength
    · have hread : (0 < window run.now ∧
          ∀ earlier ∈ runsSince, window earlier.time < window run.now) ↔
          (record.read run.now).2.isSome := by
        rw [hserved.served.read_iff]
        show _ ↔ 0 < record.timerFd.expirations run.now ∧ ∀ time ∈ record.reads,
          record.timerFd.expirations time < record.timerFd.expirations run.now
        rw [hwindow, hreads]
        simp
      simp only [hread, SchedulerRun.handleRead, hfind]
      cases hresult : record.read run.now with
      | mk next count =>
        cases count with
        | none => rfl
        | some count => exact hcallback
  · unfold SchedulerRun.handleRead
    rintro (hnone | hidle)
    · rw [hnone]
    · cases hfind : run.scheduler.tasks.find taskId with
      | none => rfl
      | some task =>
        have hserved := hinv.tasks taskId task ((UnorderedMap.find_eq_some_iff _ _ _).mp hfind)
        cases hresult : (run.records taskId).read run.now with
        | mk next count =>
          cases count with
          | none => rfl
          | some count =>
            have hrunning := (hserved.of_read (congrArg Prod.snd hresult)).1
            rw [hidle] at hrunning
            exact absurd hrunning Bool.false_ne_true

/-- A task that was started and run once, with a second event of the same interval. -/
theorem scheduled_callbacks_once :
    ∃ (run : SchedulerRun Bool) (runs : List (ScheduledRun Bool)) (task : Task Bool),
      runs = [⟨1, 5000000, true⟩] ∧ run.scheduler.tasks.find 1 = some task ∧
        run.scheduler.running = true ∧
        (runsAfter runs 1 (run.records 1).setAt).length ≤
          (run.now - (run.records 1).setAt) / millisecondsToNanoseconds task.intervalMs ∧
        ∀ earlier ∈ runsAfter runs 1 (run.records 1).setAt,
          earlier.callback = task.callback := by
  have hinit : ((scheduleSystem Bool).observed scheduledRun).init ({}, []) := ⟨rfl, rfl⟩
  obtain ⟨⟨run, runs⟩, -, hreach, hstate⟩ := TransitionSystem.exists_of_run
    ((scheduleSystem Bool).observed scheduledRun) TransitionSystem.anyStep
    [.call (.addTask 2 (some true) true true), .call (.start fun _ => true), .elapse 5000000,
      .handleRead 1, .handleRead 1]
    (fun observed => decide (observed.2 = [⟨1, 5000000, true⟩] ∧
      (observed.1.scheduler.tasks.find 1).isSome = true ∧ observed.1.scheduler.running = true))
    hinit (by decide +kernel)
  obtain ⟨hruns, hfind, hrunning⟩ := of_decide_eq_true hstate
  obtain ⟨task, hfind⟩ := Option.isSome_iff_exists.mp hfind
  obtain ⟨-, -, -, hcallbacks, hlength, -⟩ := (scheduled_callbacks hreach 1).1 task hfind hrunning
  exact ⟨run, runs, task, hruns, hfind, hrunning, hlength,
    fun earlier hmem => (hcallbacks earlier hmem).2.2⟩

end Scheduler

end EdgeLink
