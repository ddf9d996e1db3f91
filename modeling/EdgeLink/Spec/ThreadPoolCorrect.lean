import Mathlib.Data.List.Count
import Mathlib.Data.List.Perm.Basic
import EdgeLink.ForStd.History
import EdgeLink.Native.ThreadPool

/-!
# Thread pool correctness

What every interleaving of submitters, workers and the controller keeps.

* `PoolInv`: no task is lost, doubled or overtaken, and what the flags say while the
  controller is in `start` and `stop`.
* `WakeInv`: while a worker is blocked, every queued task has somebody on the way to it.
* `work`: what is left to do, in steps of the pool's own threads.
-/

namespace EdgeLink

open TransitionSystem

namespace ThreadPool

variable {Task : Type}

/-! ## Histories -/

/-- The tasks that `submit` accepted, in order. -/
def accepted (history : List (PoolEvent Task)) : List Task :=
  history.filterMap fun
    | .accepted task => some task
    | _ => none

/-- The tasks that workers took, in order. -/
def dequeued (history : List (PoolEvent Task)) : List Task :=
  history.filterMap fun
    | .dequeued task => some task
    | _ => none

/-- The tasks that have returned, in order. -/
def finished (history : List (PoolEvent Task)) : List Task :=
  history.filterMap fun
    | .finished task => some task
    | _ => none

/-- The pool has been started and `stop` has not set `stopping_` since. -/
def isOpen (history : List (PoolEvent Task)) : Bool :=
  history.flag (· matches .started) (· matches .stopRequested)

/-- `stop` has called `notify_all` and the pool has not been started since. -/
def isNotified (history : List (PoolEvent Task)) : Bool :=
  history.flag (· matches .notifiedAll) (· matches .started)

@[simp] theorem accepted_append (history : List (PoolEvent Task)) (event : PoolEvent Task) :
    accepted (history ++ [event]) =
      accepted history ++ (match event with | .accepted task => [task] | _ => []) := by
  cases event <;> simp [accepted]

@[simp] theorem dequeued_append (history : List (PoolEvent Task)) (event : PoolEvent Task) :
    dequeued (history ++ [event]) =
      dequeued history ++ (match event with | .dequeued task => [task] | _ => []) := by
  cases event <;> simp [dequeued]

@[simp] theorem finished_append (history : List (PoolEvent Task)) (event : PoolEvent Task) :
    finished (history ++ [event]) =
      finished history ++ (match event with | .finished task => [task] | _ => []) := by
  cases event <;> simp [finished]

@[simp] theorem isOpen_append (history : List (PoolEvent Task)) (event : PoolEvent Task) :
    isOpen (history ++ [event]) =
      (match event with | .started => true | .stopRequested => false | _ => isOpen history) := by
  cases event <;> simp [isOpen]

@[simp] theorem isNotified_append (history : List (PoolEvent Task)) (event : PoolEvent Task) :
    isNotified (history ++ [event]) =
      (match event with
        | .notifiedAll => true | .started => false | _ => isNotified history) := by
  cases event <;> simp [isNotified]

/-! ## The workers -/

/-- One worker moves on: how many workers satisfy `p` then. -/
theorem countP_setWorker {pool : ThreadPool Task} {index : Nat} {pc : WorkerPc Task}
    (h : pool.workers[index]? = some pc) (pc' : WorkerPc Task) (p : WorkerPc Task → Bool) :
    (pool.setWorker index pc').workers.countP p + (p pc).toNat =
      pool.workers.countP p + (p pc').toNat := by
  obtain ⟨hlt, hget⟩ := List.getElem?_eq_some_iff.mp h
  show (pool.workers.set index pc').countP p + _ = _
  rw [List.countP_set hlt, hget]
  have hpos : p pc = true → 0 < pool.workers.countP p := fun hp =>
    List.countP_pos_iff.mpr ⟨pc, hget ▸ List.getElem_mem hlt, hp⟩
  cases hp : p pc with
  | true =>
    have := hpos hp
    cases p pc' <;> simp <;> omega
  | false => cases p pc' <;> simp

/-- Who is there after one worker has moved on. -/
theorem mem_setWorker {pool : ThreadPool Task} {index : Nat} {pc pc' : WorkerPc Task}
    (h : pc ∈ (pool.setWorker index pc').workers) : pc ∈ pool.workers ∨ pc = pc' :=
  List.mem_or_eq_of_mem_set h

/-- The workers that are awake and not executing a task. -/
def awake (pool : ThreadPool Task) : Nat := pool.workers.countP WorkerPc.isAwake

/-- One worker moves on: how many are awake then. -/
theorem awake_setWorker {pool : ThreadPool Task} {index : Nat} {pc : WorkerPc Task}
    (h : pool.workers[index]? = some pc) (pc' : WorkerPc Task) :
    (pool.setWorker index pc').awake + pc.isAwake.toNat = pool.awake + pc'.isAwake.toNat :=
  countP_setWorker h pc' WorkerPc.isAwake

/-- A worker moves to another point than `wait`: if somebody sleeps now, somebody slept
    before. -/
theorem blocked_of_setWorker {pool : ThreadPool Task} {index : Nat} {pc' : WorkerPc Task}
    (h : .blocked ∈ (pool.setWorker index pc').workers) (hpc' : pc' ≠ .blocked) :
    .blocked ∈ pool.workers :=
  (mem_setWorker h).resolve_right (Ne.symm hpc')

/-- Nobody is blocked where `any` finds nobody. -/
theorem any_isBlocked (workers : List (WorkerPc Task)) :
    workers.any WorkerPc.isBlocked = false ↔ WorkerPc.blocked ∉ workers := by
  rw [List.any_eq_false]
  constructor
  · intro h hmem
    exact h _ hmem rfl
  · intro h pc hmem
    cases pc with
    | blocked => exact absurd hmem h
    | awake => simp [WorkerPc.isBlocked]
    | executing task => simp [WorkerPc.isBlocked]
    | exited => simp [WorkerPc.isBlocked]

/-- A worker is woken only out of `wait`. -/
theorem wake_cases {pool pool' : ThreadPool Task} {index : Nat}
    (h : pool.wake index = some pool') :
    pool.workers[index]? = some .blocked ∧ pool' = pool.setWorker index .awake := by
  simp only [wake] at h
  split at h
  · rename_i hworker
    exact ⟨hworker, (Option.some.inj h).symm⟩
  · cases h

variable {threadCount : Nat}

/-- What the controller knows of flags, workers and queue at each point. -/
def ControllerInv (threadCount : Nat) (pool : ThreadPool Task) : Prop :=
  match pool.controller with
  | .idle =>
    pool.stopping = false ∧ (pool.running = true → pool.workers.length = threadCount) ∧
      (pool.running = false → pool.workers = [] ∧ pool.tasks = [])
  | .clearStopping =>
    pool.running = true ∧ pool.stopping = false ∧ pool.workers = [] ∧
      isNotified pool.history = false
  | .spawning =>
    pool.running = true ∧ pool.stopping = false ∧ pool.workers.length ≤ threadCount ∧
      isNotified pool.history = false
  | .notifyAll =>
    pool.running = true ∧ pool.stopping = true ∧ pool.workers.length = threadCount
  | .joining index =>
    pool.running = true ∧ pool.stopping = true ∧ pool.workers.length = threadCount ∧
      isNotified pool.history = true ∧ index ≤ pool.workers.length ∧
      ∀ pc ∈ pool.workers.take index, pc = .exited
  | .resetting =>
    pool.running = true ∧ pool.stopping = true ∧ pool.workers = [] ∧ pool.tasks = []

/-- Behind the last `join` all workers have left. -/
theorem ControllerInv.all_exited {pool : ThreadPool Task} {index : Nat}
    (h : ControllerInv threadCount pool)
    (hpc : pool.controller = .joining index) (hge : pool.workers.length ≤ index) :
    ∀ pc ∈ pool.workers, pc = .exited := by
  rw [ControllerInv, hpc] at h
  obtain ⟨-, -, -, -, -, hexited⟩ := h
  rwa [List.take_of_length_le hge] at hexited

/-- The controller's part is about running workers only: one of them moves on. -/
theorem ControllerInv.setWorker {pool : ThreadPool Task} {index : Nat}
    {pc pc' : WorkerPc Task} {tasks notifying : List Task} {history : List (PoolEvent Task)}
    (h : ControllerInv threadCount pool) (hworker : pool.workers[index]? = some pc)
    (hpc : pc ≠ .exited) (hhistory : isNotified history = isNotified pool.history) :
    ControllerInv threadCount
      { pool with workers := pool.workers.set index pc', tasks, notifying, history } := by
  have hne : pool.workers ≠ [] := by
    intro hnil
    simp [hnil] at hworker
  simp only [ControllerInv, List.length_set, hhistory] at h ⊢
  revert h
  cases pool.controller with
  | idle =>
    intro ⟨hstopping, hlength, hnil⟩
    exact ⟨hstopping, hlength, fun hrunning => absurd (hnil hrunning).1 hne⟩
  | clearStopping => intro ⟨_, _, hnil, _⟩; exact absurd hnil hne
  | spawning => exact id
  | notifyAll => exact id
  | joining joined =>
    intro ⟨hrunning, hstopping, hlength, hnotified, hle, hexited⟩
    refine ⟨hrunning, hstopping, hlength, hnotified, hle, ?_⟩
    -- a joined worker has left, so it is not the one that moves
    have hjoined : joined ≤ index := by
      by_contra hlt
      have hmem : pc ∈ pool.workers.take joined := by
        apply List.mem_of_getElem? (i := index)
        rw [List.getElem?_take_of_lt (by omega)]
        exact hworker
      exact hpc (hexited pc hmem)
    rwa [List.take_set_of_le hjoined]
  | resetting => intro ⟨_, _, hnil, _⟩; exact absurd hnil hne

variable [DecidableEq Task]

/-- What the pool owes its users, event by event: tasks are taken in the order of their
    acceptance, each one once; what returns has been taken and not returned before; the
    pool accepts while it is open and refuses while it is not; `stop` returns when
    everything accepted has been taken and has returned. -/
def Explained (past : List (PoolEvent Task)) : PoolEvent Task → Prop
  | .accepted _ => isOpen past = true
  | .refused _ => isOpen past = false
  | .dequeued task => (accepted past)[(dequeued past).length]? = some task
  | .finished task => (finished past).count task < (dequeued past).count task
  | .stopped => dequeued past = accepted past ∧ (finished past).Perm (accepted past)
  | _ => True

/-- How many workers execute this task. -/
def executing (pool : ThreadPool Task) (task : Task) : Nat :=
  pool.workers.count (.executing task)

/-- One worker moves on: who executes the task then. -/
theorem executing_setWorker {pool : ThreadPool Task} {index : Nat} {pc : WorkerPc Task}
    (h : pool.workers[index]? = some pc) (pc' : WorkerPc Task) (task : Task) :
    (pool.setWorker index pc').executing task + (if pc = .executing task then 1 else 0) =
      pool.executing task + (if pc' = .executing task then 1 else 0) := by
  have htoNat : ∀ worker : WorkerPc Task,
      (worker == .executing task).toNat = if worker = .executing task then 1 else 0 := by
    intro worker
    by_cases hworker : worker = .executing task
    · simp [hworker]
    · simp [hworker]
  have hcount := countP_setWorker h pc' (· == .executing task)
  rw [htoNat, htoNat] at hcount
  exact hcount

/-- A worker that executes nothing before and after its move. -/
theorem executing_setWorker_of_ne {pool : ThreadPool Task} {index : Nat}
    {pc : WorkerPc Task} (h : pool.workers[index]? = some pc) (pc' : WorkerPc Task)
    {task : Task} (hpc : pc ≠ .executing task) (hpc' : pc' ≠ .executing task) :
    (pool.setWorker index pc').executing task = pool.executing task := by
  have hset := executing_setWorker h pc' task
  rwa [if_neg hpc, if_neg hpc'] at hset

/-- `notify_all` does not touch a worker that executes. -/
theorem count_executing_notified (workers : List (WorkerPc Task)) (task : Task) :
    (workers.map WorkerPc.notified).count (.executing task) =
      workers.count (.executing task) := by
  show (workers.map WorkerPc.notified).countP _ = workers.countP _
  rw [List.countP_map]
  apply List.countP_congr
  intro pc _
  cases pc <;> simp [WorkerPc.notified]

/-! ## What a step does -/

/-- The steps of the pool. -/
inductive StepCase (threadCount : Nat) (pool : ThreadPool Task) :
    PoolAction Task → ThreadPool Task → Prop
  | startIgnored (hidle : pool.controller = .idle) (hrunning : pool.running = true) :
    StepCase threadCount pool .start pool
  | started (hidle : pool.controller = .idle) (hrunning : pool.running = false) :
    StepCase threadCount pool .start
      { pool.record .started with running := true, controller := .clearStopping }
  | stopIgnored (hidle : pool.controller = .idle) (hrunning : pool.running = false) :
    StepCase threadCount pool .stop (pool.record .stopped)
  | stopRequested (hidle : pool.controller = .idle) (hrunning : pool.running = true) :
    StepCase threadCount pool .stop
      { pool.record .stopRequested with stopping := true, controller := .notifyAll }
  | cleared (hpc : pool.controller = .clearStopping) :
    StepCase threadCount pool .controller
      { pool with stopping := false, controller := .spawning }
  | spawned (hpc : pool.controller = .spawning) (hlt : pool.workers.length < threadCount) :
    StepCase threadCount pool .controller { pool with workers := pool.workers ++ [.awake] }
  | startReturned (hpc : pool.controller = .spawning)
      (hge : threadCount ≤ pool.workers.length) :
    StepCase threadCount pool .controller { pool with controller := .idle }
  | notifiedAll (hpc : pool.controller = .notifyAll) :
    StepCase threadCount pool .controller
      { pool.record .notifiedAll with
        workers := pool.workers.map WorkerPc.notified, controller := .joining 0 }
  | joined (index : Nat) (hpc : pool.controller = .joining index)
      (hworker : pool.workers[index]? = some .exited) :
    StepCase threadCount pool .controller { pool with controller := .joining (index + 1) }
  | workersCleared (index : Nat) (hpc : pool.controller = .joining index)
      (hge : pool.workers.length ≤ index) :
    StepCase threadCount pool .controller { pool with workers := [], controller := .resetting }
  | stopped (hpc : pool.controller = .resetting) :
    StepCase threadCount pool .controller
      { pool.record .stopped with running := false, stopping := false, controller := .idle }
  | refused (task : Task) (hclosed : (pool.running && !pool.stopping) = false) :
    StepCase threadCount pool (.submit task) (pool.record (.refused task))
  | accepted (task : Task) (hopen : (pool.running && !pool.stopping) = true) :
    StepCase threadCount pool (.submit task)
      { pool.record (.accepted task) with
        tasks := pool.tasks ++ [task], notifying := pool.notifying ++ [task] }
  | notified (task : Task) (index : Nat) (htask : task ∈ pool.notifying)
      (hworker : pool.workers[index]? = some .blocked) :
    StepCase threadCount pool (.notifyOne task (some index))
      { pool with
        notifying := pool.notifying.erase task
        workers := pool.workers.set index .awake }
  | unheard (task : Task) (htask : task ∈ pool.notifying)
      (hblocked : WorkerPc.blocked ∉ pool.workers) :
    StepCase threadCount pool (.notifyOne task none)
      { pool with notifying := pool.notifying.erase task }
  | exited (index : Nat) (hworker : pool.workers[index]? = some .awake)
      (htasks : pool.tasks = []) (hstopping : pool.stopping = true) :
    StepCase threadCount pool (.worker index) (pool.setWorker index .exited)
  | blocked (index : Nat) (hworker : pool.workers[index]? = some .awake)
      (htasks : pool.tasks = []) (hstopping : pool.stopping = false) :
    StepCase threadCount pool (.worker index) (pool.setWorker index .blocked)
  | dequeued (index : Nat) (task : Task) (rest : List Task)
      (hworker : pool.workers[index]? = some .awake) (htasks : pool.tasks = task :: rest) :
    StepCase threadCount pool (.worker index)
      { (pool.setWorker index (.executing task)).record (.dequeued task) with tasks := rest }
  | finished (index : Nat) (task : Task)
      (hworker : pool.workers[index]? = some (.executing task)) :
    StepCase threadCount pool (.worker index)
      ((pool.setWorker index .awake).record (.finished task))
  | woken (index : Nat) (hworker : pool.workers[index]? = some .blocked) :
    StepCase threadCount pool (.spuriousWakeup index) (pool.setWorker index .awake)

/-- A worker's step. -/
theorem worker_cases {pool pool' : ThreadPool Task} {index : Nat}
    (h : pool.worker index = some pool') :
    StepCase threadCount pool (.worker index) pool' := by
  simp only [worker] at h
  split at h
  · rename_i hworker
    -- the worker holds the mutex and looks at the queue, and at `stopping_` after it
    obtain rfl := Option.some.inj h
    cases htasks : pool.tasks with
    | nil =>
      cases hstopping : pool.stopping with
      | true =>
        have heq : pool.takeTask index = pool.setWorker index .exited := by
          simp [takeTask, htasks, hstopping]
        rw [heq]
        exact .exited index hworker htasks hstopping
      | false =>
        have heq : pool.takeTask index = pool.setWorker index .blocked := by
          simp [takeTask, htasks, hstopping]
        rw [heq]
        exact .blocked index hworker htasks hstopping
    | cons task rest =>
      have heq : pool.takeTask index = { (pool.setWorker index (.executing task)).record
          (.dequeued task) with tasks := rest } := by
        simp [takeTask, htasks]
      rw [heq]
      exact .dequeued index task rest hworker htasks
  · rename_i task hworker
    obtain rfl := Option.some.inj h
    exact .finished index task hworker
  · cases h

/-- A step of the controller inside `start` and `stop`. -/
theorem continueController_cases {pool pool' : ThreadPool Task}
    (h : pool.continueController threadCount = some pool') :
    StepCase threadCount pool .controller pool' := by
  simp only [continueController] at h
  split at h
  · cases h
  · obtain rfl := Option.some.inj h
    exact .cleared ‹_›
  · split at h
    · obtain rfl := Option.some.inj h
      exact .spawned ‹_› ‹_›
    · obtain rfl := Option.some.inj h
      exact .startReturned ‹_› (by omega)
  · obtain rfl := Option.some.inj h
    exact .notifiedAll ‹_›
  · rename_i index hpc
    split at h
    · obtain rfl := Option.some.inj h
      exact .joined index hpc ‹_›
    · cases h
    · obtain rfl := Option.some.inj h
      exact .workersCleared index hpc (List.getElem?_eq_none_iff.mp ‹_›)
  · obtain rfl := Option.some.inj h
    exact .stopped ‹_›

/-- Every step is one of the cases. -/
theorem step_cases {pool pool' : ThreadPool Task} {action : PoolAction Task}
    (h : step threadCount pool action = some pool') :
    StepCase threadCount pool action pool' := by
  cases action with
  | start =>
    simp only [step, start] at h
    split at h
    · obtain rfl := Option.some.inj h
      split
      · exact .startIgnored ‹_› ‹_›
      · exact .started ‹_› (Bool.eq_false_iff.mpr ‹_›)
    · cases h
  | stop =>
    simp only [step, stop] at h
    split at h
    · obtain rfl := Option.some.inj h
      split
      · rename_i hrunning
        exact .stopIgnored ‹_› (by simpa using hrunning)
      · rename_i hrunning
        exact .stopRequested ‹_› (by simpa using hrunning)
    · cases h
  | controller => exact continueController_cases h
  | submit task =>
    simp only [step, submit] at h
    obtain rfl := Option.some.inj h
    split
    · rename_i hclosed
      exact .refused task (by cases hr : pool.running <;> simp_all)
    · rename_i hopen
      exact .accepted task (by cases hr : pool.running <;> simp_all)
  | notifyOne task woken =>
    simp only [step] at h
    split at h
    · rename_i htask
      cases woken with
      | some index =>
        obtain ⟨hworker, rfl⟩ := wake_cases h
        exact .notified task index htask hworker
      | none =>
        simp only [notifyOne] at h
        split at h
        · cases h
        · rename_i hblocked
          obtain rfl := Option.some.inj h
          exact .unheard task htask ((any_isBlocked _).mp (Bool.eq_false_iff.mpr hblocked))
    · cases h
  | worker index => exact worker_cases h
  | spuriousWakeup index =>
    obtain ⟨hworker, rfl⟩ := wake_cases h
    exact .woken index hworker

/-! ## The invariant -/

/-- The invariant of the pool. -/
structure PoolInv (threadCount : Nat) (pool : ThreadPool Task) : Prop where
  explained : pool.history.Chronicle Explained
  queued : dequeued pool.history ++ pool.tasks = accepted pool.history
  executed : ∀ task, (finished pool.history).count task + pool.executing task =
    (dequeued pool.history).count task
  isOpen_eq : isOpen pool.history = (pool.running && !pool.stopping)
  drained : WorkerPc.exited ∈ pool.workers → pool.stopping = true ∧ pool.tasks = []
  controller : ControllerInv threadCount pool

variable {pool pool' : ThreadPool Task} {action : PoolAction Task}

/-- With an empty queue and nothing in execution, everything accepted has been taken and
    has returned. -/
theorem PoolInv.done (inv : PoolInv threadCount pool) (htasks : pool.tasks = [])
    (hexecuting : ∀ task, pool.executing task = 0) :
    dequeued pool.history = accepted pool.history ∧
      (finished pool.history).Perm (accepted pool.history) := by
  have hqueued := inv.queued
  rw [htasks, List.append_nil] at hqueued
  refine ⟨hqueued, List.perm_iff_count.mpr fun task => ?_⟩
  have hcount := inv.executed task
  rw [hexecuting task, hqueued] at hcount
  exact hcount

/-- Nothing is in execution where there are no workers. -/
theorem executing_of_nil (h : pool.workers = []) (task : Task) : pool.executing task = 0 := by
  simp [executing, h]

/-- Nothing is in execution where all workers have left. -/
theorem executing_of_exited (h : ∀ pc ∈ pool.workers, pc = .exited) (task : Task) :
    pool.executing task = 0 := by
  apply List.count_eq_zero_of_not_mem
  intro hmem
  exact nomatch h _ hmem

/-- Behind the last `join` the queue is empty: the pool has a worker, and a worker only
    leaves an empty queue. -/
theorem PoolInv.tasks_of_joined {index : Nat} (hthreads : 0 < threadCount)
    (inv : PoolInv threadCount pool) (hpc : pool.controller = .joining index)
    (hge : pool.workers.length ≤ index) : pool.tasks = [] := by
  have hall := inv.controller.all_exited hpc hge
  have hcontroller := inv.controller
  rw [ControllerInv, hpc] at hcontroller
  obtain ⟨-, -, hlength, -⟩ := hcontroller
  obtain ⟨pc, hmem⟩ := List.exists_mem_of_length_pos (hlength.symm ▸ hthreads)
  exact (inv.drained (hall pc hmem ▸ hmem)).2

/-- Every task is in the queue or has been taken, in the order of acceptance. -/
theorem PoolInv.queued_step (inv : PoolInv threadCount pool)
    (h : StepCase threadCount pool action pool') :
    dequeued pool'.history ++ pool'.tasks = accepted pool'.history := by
  have hqueued := inv.queued
  cases h with
  | accepted task hopen => simp [record, ← hqueued]
  | dequeued index task rest hworker htasks => simp [record, setWorker, ← hqueued, htasks]
  | _ => simpa [record, setWorker] using hqueued

/-- Every task that has been taken is in execution or has returned. -/
theorem PoolInv.executed_step (inv : PoolInv threadCount pool)
    (h : StepCase threadCount pool action pool') (task : Task) :
    (finished pool'.history).count task + pool'.executing task =
      (dequeued pool'.history).count task := by
  have hexecuted := inv.executed task
  cases h with
  | spawned hpc hlt => simpa [executing, List.count_append] using hexecuted
  | notifiedAll hpc =>
    simpa [record, executing, count_executing_notified] using hexecuted
  | workersCleared index hpc hge =>
    -- no worker is left that could execute
    rw [executing_of_exited (inv.controller.all_exited hpc hge)] at hexecuted
    rw [executing_of_nil rfl]
    exact hexecuted
  | notified task' index htask hworker =>
    rw [← hexecuted, ← executing_setWorker_of_ne hworker .awake (by simp) (by simp)]
    rfl
  | exited index hworker htasks hstopping =>
    rw [executing_setWorker_of_ne hworker _ (by simp) (by simp)]
    exact hexecuted
  | blocked index hworker htasks hstopping =>
    rw [executing_setWorker_of_ne hworker _ (by simp) (by simp)]
    exact hexecuted
  | dequeued index task' rest hworker htasks =>
    -- the task leaves the queue and is executed by this worker
    have hset := executing_setWorker hworker (.executing task') task
    simp only [reduceCtorEq, if_false, WorkerPc.executing.injEq] at hset
    show (finished (pool.history ++ [_])).count task +
      (pool.setWorker index (.executing task')).executing task =
      (dequeued (pool.history ++ [_])).count task
    simp only [finished_append, dequeued_append, List.append_nil, List.count_append,
      List.count_singleton, beq_iff_eq]
    omega
  | finished index task' hworker =>
    have hset := executing_setWorker hworker .awake task
    simp only [reduceCtorEq, if_false, WorkerPc.executing.injEq] at hset
    show (finished (pool.history ++ [_])).count task +
      (pool.setWorker index .awake).executing task =
      (dequeued (pool.history ++ [_])).count task
    simp only [finished_append, dequeued_append, List.append_nil, List.count_append,
      List.count_singleton, beq_iff_eq]
    omega
  | woken index hworker =>
    rw [executing_setWorker_of_ne hworker _ (by simp) (by simp)]
    exact hexecuted
  | _ => simpa [record, executing] using hexecuted

/-- A new event needs an explanation, the older ones keep theirs. -/
theorem PoolInv.explained_record (inv : PoolInv threadCount pool) {event : PoolEvent Task}
    (h : Explained pool.history event) :
    (pool.history ++ [event]).Chronicle Explained :=
  (List.chronicle_append_singleton _ _).mpr ⟨inv.explained, h⟩

/-- What happens is explained by what has happened before. -/
theorem PoolInv.explained_step (inv : PoolInv threadCount pool)
    (h : StepCase threadCount pool action pool') : pool'.history.Chronicle Explained := by
  have hcontroller := inv.controller
  cases h with
  | started hidle hrunning => exact inv.explained_record trivial
  | stopIgnored hidle hrunning =>
    rw [ControllerInv, hidle] at hcontroller
    obtain ⟨hworkers, htasks⟩ := hcontroller.2.2 hrunning
    exact inv.explained_record (inv.done htasks (executing_of_nil hworkers))
  | stopRequested hidle hrunning => exact inv.explained_record trivial
  | notifiedAll hpc => exact inv.explained_record trivial
  | stopped hpc =>
    rw [ControllerInv, hpc] at hcontroller
    obtain ⟨-, -, hworkers, htasks⟩ := hcontroller
    exact inv.explained_record (inv.done htasks (executing_of_nil hworkers))
  | refused task hclosed => exact inv.explained_record (inv.isOpen_eq.trans hclosed)
  | accepted task hopen => exact inv.explained_record (inv.isOpen_eq.trans hopen)
  | dequeued index task rest hworker htasks =>
    apply inv.explained_record
    show (accepted pool.history)[(dequeued pool.history).length]? = some task
    rw [← inv.queued, htasks]
    simp
  | finished index task hworker =>
    apply inv.explained_record
    show (finished pool.history).count task < (dequeued pool.history).count task
    -- the task that is finished was being executed
    have hexecuting : 0 < pool.executing task :=
      List.count_pos_iff.mpr (List.mem_of_getElem? hworker)
    have hexecuted := inv.executed task
    omega
  | _ => exact inv.explained

/-- The flags are what the history says about the pool being open. -/
theorem PoolInv.isOpen_step (inv : PoolInv threadCount pool)
    (h : StepCase threadCount pool action pool') :
    isOpen pool'.history = (pool'.running && !pool'.stopping) := by
  have hopen := inv.isOpen_eq
  have hcontroller := inv.controller
  cases h with
  | started hidle hrunning =>
    rw [ControllerInv, hidle] at hcontroller
    simp [record, hcontroller.1]
  | stopRequested hidle hrunning => simp [record]
  | cleared hpc =>
    rw [ControllerInv, hpc] at hcontroller
    rw [hopen, hcontroller.2.1]
  | stopped hpc =>
    rw [ControllerInv, hpc] at hcontroller
    simp [record, hopen, hcontroller.2.1]
  | _ => simpa [record, setWorker] using hopen

/-- A worker has left only while `stopping_` is set and the queue is empty. -/
theorem PoolInv.drained_step (inv : PoolInv threadCount pool)
    (h : StepCase threadCount pool action pool') (hexited : .exited ∈ pool'.workers) :
    pool'.stopping = true ∧ pool'.tasks = [] := by
  have hcontroller := inv.controller
  -- a worker that goes on is not one that has exited
  have hset : ∀ {index pc'}, .exited ∈ (pool.setWorker index pc').workers → pc' ≠ .exited →
      pool.stopping = true ∧ pool.tasks = [] := by
    intro index pc' hmem hne
    exact inv.drained ((mem_setWorker hmem).resolve_right (Ne.symm hne))
  cases h with
  | stopRequested hidle hrunning => exact ⟨rfl, (inv.drained hexited).2⟩
  | cleared hpc =>
    rw [ControllerInv, hpc] at hcontroller
    rw [hcontroller.2.2.1] at hexited
    simp at hexited
  | spawned hpc hlt =>
    rcases List.mem_append.mp hexited with hold | hnew
    · exact inv.drained hold
    · simp at hnew
  | notifiedAll hpc =>
    obtain ⟨pc, hmem, heq⟩ := List.mem_map.mp hexited
    cases pc with
    | exited => exact inv.drained hmem
    | awake => simp [WorkerPc.notified] at heq
    | blocked => simp [WorkerPc.notified] at heq
    | executing task => simp [WorkerPc.notified] at heq
  | workersCleared index hpc hge => simp at hexited
  | stopped hpc =>
    rw [ControllerInv, hpc] at hcontroller
    have hexited' : .exited ∈ pool.workers := hexited
    rw [hcontroller.2.2.1] at hexited'
    simp at hexited'
  | accepted task hopen =>
    -- nothing is accepted after `stop`
    have hstopping := (inv.drained hexited).1
    simp [hstopping] at hopen
  | notified task index htask hworker => exact hset hexited (by simp)
  | exited index hworker htasks hstopping => exact ⟨hstopping, htasks⟩
  | blocked index hworker htasks hstopping => exact hset hexited (by simp)
  | dequeued index task rest hworker htasks =>
    -- where a worker has exited, no task is left to take
    have hempty := (hset hexited (by simp)).2
    simp [htasks] at hempty
  | finished index task hworker => exact hset hexited (by simp)
  | woken index hworker => exact hset hexited (by simp)
  | _ => exact inv.drained hexited

/-- The controller finds the workers, the queue and the flags as it needs them. -/
theorem PoolInv.controller_step (hthreads : 0 < threadCount) (inv : PoolInv threadCount pool)
    (h : StepCase threadCount pool action pool') : ControllerInv threadCount pool' := by
  have hcontroller := inv.controller
  cases h with
  | startIgnored hidle hrunning => exact hcontroller
  | started hidle hrunning =>
    rw [ControllerInv, hidle] at hcontroller
    have hworkers := (hcontroller.2.2 hrunning).1
    simp [ControllerInv, record, hcontroller.1, hworkers]
  | stopIgnored hidle hrunning =>
    rw [ControllerInv, hidle] at hcontroller
    simpa [ControllerInv, record, hidle] using hcontroller
  | stopRequested hidle hrunning =>
    rw [ControllerInv, hidle] at hcontroller
    simp [ControllerInv, record, hrunning, hcontroller.2.1 hrunning]
  | cleared hpc =>
    rw [ControllerInv, hpc] at hcontroller
    obtain ⟨hrunning, -, hworkers, hnotified⟩ := hcontroller
    simp [ControllerInv, hrunning, hworkers, hnotified]
  | spawned hpc hlt =>
    rw [ControllerInv, hpc] at hcontroller
    obtain ⟨hrunning, hstopping, -, hnotified⟩ := hcontroller
    simp only [ControllerInv, hpc, List.length_append, List.length_singleton]
    exact ⟨hrunning, hstopping, hlt, hnotified⟩
  | startReturned hpc hge =>
    rw [ControllerInv, hpc] at hcontroller
    obtain ⟨hrunning, hstopping, hle, -⟩ := hcontroller
    simp only [ControllerInv, hrunning, hstopping]
    simp
    omega
  | notifiedAll hpc =>
    rw [ControllerInv, hpc] at hcontroller
    simpa [ControllerInv, record] using hcontroller
  | joined index hpc hworker =>
    rw [ControllerInv, hpc] at hcontroller
    obtain ⟨hrunning, hstopping, hlength, hnotified, -, hexited⟩ := hcontroller
    obtain ⟨hlt, hget⟩ := List.getElem?_eq_some_iff.mp hworker
    refine ⟨hrunning, hstopping, hlength, hnotified, hlt, ?_⟩
    intro pc hmem
    rw [List.take_add_one, hworker] at hmem
    rcases List.mem_append.mp hmem with hold | hnew
    · exact hexited pc hold
    · simpa using hnew
  | workersCleared index hpc hge =>
    -- the workers have emptied the queue before they exited
    have htasks := inv.tasks_of_joined hthreads hpc hge
    rw [ControllerInv, hpc] at hcontroller
    exact ⟨hcontroller.1, hcontroller.2.1, rfl, htasks⟩
  | stopped hpc =>
    rw [ControllerInv, hpc] at hcontroller
    obtain ⟨-, -, hworkers, htasks⟩ := hcontroller
    simp [ControllerInv, record, hworkers, htasks]
  | refused task hclosed => simpa [ControllerInv, record] using hcontroller
  | accepted task hopen =>
    simp only [Bool.and_eq_true, Bool.not_eq_true'] at hopen
    simp only [ControllerInv, record, isNotified_append] at hcontroller ⊢
    revert hcontroller
    cases pool.controller with
    | idle => simp [hopen.1]
    | resetting => simp [hopen.2]
    | _ => exact id
  | notified task index htask hworker => exact hcontroller.setWorker hworker (by simp) rfl
  | unheard task htask hblocked => exact hcontroller
  | exited index hworker htasks hstopping => exact hcontroller.setWorker hworker (by simp) rfl
  | blocked index hworker htasks hstopping => exact hcontroller.setWorker hworker (by simp) rfl
  | dequeued index task rest hworker htasks =>
    exact hcontroller.setWorker hworker (by simp) (isNotified_append _ _)
  | finished index task hworker =>
    exact hcontroller.setWorker hworker (by simp) (isNotified_append _ _)
  | woken index hworker => exact hcontroller.setWorker hworker (by simp) rfl

/-- Every step keeps the invariant. -/
theorem PoolInv.step (hthreads : 0 < threadCount) (inv : PoolInv threadCount pool)
    (h : step threadCount pool action = some pool') : PoolInv threadCount pool' where
  explained := inv.explained_step (step_cases h)
  queued := inv.queued_step (step_cases h)
  executed := inv.executed_step (step_cases h)
  isOpen_eq := inv.isOpen_step (step_cases h)
  drained := inv.drained_step (step_cases h)
  controller := inv.controller_step hthreads (step_cases h)

/-- A new pool satisfies the invariant. -/
theorem PoolInv.initial : PoolInv threadCount (initial : ThreadPool Task) where
  explained := List.chronicle_nil
  queued := rfl
  executed _ := rfl
  isOpen_eq := rfl
  drained h := by simp [ThreadPool.initial] at h
  controller := by simp [ControllerInv, ThreadPool.initial]

/-- Every reachable state satisfies the invariant. -/
theorem PoolInv.reachable (hthreads : 0 < threadCount)
    (h : (system Task threadCount).Reachable anyStep pool) : PoolInv threadCount pool := by
  apply h.invariant
  · intro pool hinit
    obtain rfl := hinit
    exact .initial
  · intro pool action pool' _ inv _ hstep
    exact inv.step hthreads hstep

/-! ## Wake-ups -/

/-- While somebody sleeps, there is somebody for every queued task: an awake worker or a
    submitter that has not called `notify_one` yet. After `notify_all` nobody sleeps. -/
structure WakeInv (pool : ThreadPool Task) : Prop where
  counted : .blocked ∈ pool.workers → pool.tasks.length ≤ pool.awake + pool.notifying.length
  notified : isNotified pool.history = true →
    .blocked ∉ pool.workers ∧ (pool.stopping = true ∨ pool.workers = [])

omit [DecidableEq Task] in
/-- A worker comes back to the queue: then there is one more for the tasks in it. -/
theorem WakeInv.counted_awake (inv : WakeInv pool) {index : Nat} {pc : WorkerPc Task}
    (hworker : pool.workers[index]? = some pc) (hpc : pc.isAwake = false)
    (hblocked : .blocked ∈ (pool.setWorker index .awake).workers) :
    pool.tasks.length + 1 ≤ (pool.setWorker index .awake).awake + pool.notifying.length := by
  have hcounted := inv.counted (blocked_of_setWorker hblocked (by simp))
  have hset := awake_setWorker hworker .awake
  rw [hpc] at hset
  simp only [WorkerPc.isAwake, Bool.toNat_false, Bool.toNat_true] at hset
  omega

/-- Whoever sleeps, an awake worker or a late submitter is there for every task. -/
theorem WakeInv.counted_step (inv : WakeInv pool) (h : StepCase threadCount pool action pool')
    (hblocked : .blocked ∈ pool'.workers) :
    pool'.tasks.length ≤ pool'.awake + pool'.notifying.length := by
  cases h with
  | spawned hpc hlt =>
    have hold : .blocked ∈ pool.workers := by simpa using hblocked
    have hcounted := inv.counted hold
    simp only [awake, List.countP_append] at hcounted ⊢
    omega
  | notifiedAll hpc =>
    obtain ⟨pc, -, heq⟩ := List.mem_map.mp hblocked
    cases pc <;> simp [WorkerPc.notified] at heq
  | workersCleared index hpc hge => simp at hblocked
  | accepted task hopen =>
    -- the new task has its submitter, which still has to call `notify_one`
    have hcounted := inv.counted hblocked
    show (pool.tasks ++ [task]).length ≤ pool.awake + (pool.notifying ++ [task]).length
    simp only [List.length_append, List.length_singleton]
    omega
  | notified task index htask hworker =>
    -- the submitter leaves, the worker it has woken takes its place
    have hcounted := inv.counted_awake hworker rfl hblocked
    have hpos := List.length_pos_of_mem htask
    have herase := List.length_erase_of_mem htask
    show pool.tasks.length ≤
      (pool.setWorker index .awake).awake + (pool.notifying.erase task).length
    omega
  | unheard task htask hnone => exact absurd hblocked hnone
  | exited index hworker htasks hstopping => simp [setWorker, htasks]
  | blocked index hworker htasks hstopping => simp [setWorker, htasks]
  | dequeued index task rest hworker htasks =>
    have hcounted := inv.counted (blocked_of_setWorker hblocked (by simp))
    have hset := awake_setWorker hworker (.executing task)
    simp only [WorkerPc.isAwake, Bool.toNat_false, Bool.toNat_true] at hset
    show rest.length ≤
      (pool.setWorker index (.executing task)).awake + pool.notifying.length
    simp only [htasks, List.length_cons] at hcounted
    omega
  | finished index task hworker =>
    have hcounted := inv.counted_awake hworker rfl hblocked
    show pool.tasks.length ≤ (pool.setWorker index .awake).awake + pool.notifying.length
    omega
  | woken index hworker =>
    have hcounted := inv.counted_awake hworker rfl hblocked
    show pool.tasks.length ≤ (pool.setWorker index .awake).awake + pool.notifying.length
    omega
  | _ => exact inv.counted hblocked

omit [DecidableEq Task] in
/-- After `notify_all` a worker moves to another point than `wait`. -/
theorem WakeInv.notified_setWorker (inv : WakeInv pool) {index : Nat} {pc' : WorkerPc Task}
    (hnotified : isNotified pool.history = true) (hpc' : pc' ≠ .blocked) :
    .blocked ∉ (pool.setWorker index pc').workers ∧
      (pool.stopping = true ∨ (pool.setWorker index pc').workers = []) := by
  obtain ⟨hnone, hstopping⟩ := inv.notified hnotified
  refine ⟨fun hmem => hnone (blocked_of_setWorker hmem hpc'), hstopping.imp_right ?_⟩
  intro hnil
  simp [setWorker, hnil]

/-- After `notify_all` nobody sleeps and nobody goes to sleep. -/
theorem WakeInv.notified_step (inv : WakeInv pool)
    (hcontroller : ControllerInv threadCount pool)
    (h : StepCase threadCount pool action pool')
    (hnotified : isNotified pool'.history = true) :
    .blocked ∉ pool'.workers ∧ (pool'.stopping = true ∨ pool'.workers = []) := by
  cases h with
  | started hidle hrunning => simp [record] at hnotified
  | stopRequested hidle hrunning =>
    exact ⟨(inv.notified (by simpa [record] using hnotified)).1, .inl rfl⟩
  | cleared hpc =>
    rw [ControllerInv, hpc] at hcontroller
    exact absurd hcontroller.2.2.2 (by simpa using hnotified)
  | spawned hpc hlt =>
    rw [ControllerInv, hpc] at hcontroller
    exact absurd hcontroller.2.2.2 (by simpa using hnotified)
  | notifiedAll hpc =>
    rw [ControllerInv, hpc] at hcontroller
    refine ⟨?_, .inl hcontroller.2.1⟩
    intro hblocked
    obtain ⟨pc, -, heq⟩ := List.mem_map.mp hblocked
    cases pc <;> simp [WorkerPc.notified] at heq
  | workersCleared index hpc hge => exact ⟨by simp, .inr rfl⟩
  | stopped hpc =>
    rw [ControllerInv, hpc] at hcontroller
    have hworkers := hcontroller.2.2.1
    exact ⟨by simp [record, hworkers], .inr hworkers⟩
  | notified task index htask hworker => exact inv.notified_setWorker hnotified (by simp)
  | exited index hworker htasks hstopping => exact inv.notified_setWorker hnotified (by simp)
  | blocked index hworker htasks hstopping =>
    -- it would have found `stopping_` set
    rcases (inv.notified hnotified).2 with hset | hnil
    · rw [hstopping] at hset
      cases hset
    · simp [hnil] at hworker
  | dequeued index task rest hworker htasks =>
    exact inv.notified_setWorker (by simpa [record, setWorker] using hnotified) (by simp)
  | finished index task hworker =>
    exact inv.notified_setWorker (by simpa [record, setWorker] using hnotified) (by simp)
  | woken index hworker => exact inv.notified_setWorker hnotified (by simp)
  | _ => exact inv.notified (by simpa [record] using hnotified)

/-- Every reachable state of a pool with threads satisfies it. -/
theorem WakeInv.reachable (hthreads : 0 < threadCount)
    (h : (system Task threadCount).Reachable anyStep pool) : WakeInv pool := by
  apply h.invariant
  · intro pool hinit
    obtain rfl := hinit
    exact ⟨by simp [initial], by simp [initial, isNotified]⟩
  · intro pool action pool' hreach inv _ hstep
    have hcontroller := (PoolInv.reachable hthreads hreach).controller
    exact ⟨inv.counted_step (step_cases hstep),
      inv.notified_step hcontroller (step_cases hstep)⟩

/-- Without threads there are no workers. -/
theorem workers_of_no_threads (h : (system Task 0).Reachable anyStep pool) :
    pool.workers = [] := by
  apply h.invariant (fun pool => pool.workers = [])
  · intro pool hinit
    obtain rfl := hinit
    rfl
  · intro pool action pool' _ hnil _ hstep
    cases step_cases hstep with
    | spawned hpc hlt => exact absurd hlt (Nat.not_lt_zero _)
    | _ => simp [record, setWorker, hnil]

/-- **No lost wake-up.** Whatever the interleaving, while a worker is in `wait` and not
    notified there are at most as many queued tasks as awake workers that execute nothing
    and submitters that still have to notify; so a task never waits beside a sleeping
    worker without somebody to take it or to wake that worker. From `notify_all` in `stop`
    to the next `start` no worker is in `wait`. -/
theorem no_lost_wakeup (h : (system Task threadCount).Reachable anyStep pool) :
    (.blocked ∈ pool.workers → pool.tasks.length ≤ pool.awake + pool.notifying.length) ∧
    (.blocked ∈ pool.workers → pool.tasks ≠ [] →
      .awake ∈ pool.workers ∨ pool.notifying ≠ []) ∧
    (isNotified pool.history = true → .blocked ∉ pool.workers) := by
  rcases Nat.eq_zero_or_pos threadCount with rfl | hthreads
  · rw [workers_of_no_threads h]
    simp
  · have inv := WakeInv.reachable hthreads h
    refine ⟨inv.counted, ?_, fun hnotified => (inv.notified hnotified).1⟩
    intro hblocked htasks
    have hcounted := inv.counted hblocked
    have hpos := List.length_pos_iff.mpr htasks
    by_contra hnobody
    rw [not_or, not_not] at hnobody
    obtain ⟨hawake, hnotifying⟩ := hnobody
    -- otherwise nobody would be on the way to the queued task
    have hzero : pool.awake = 0 := by
      apply List.countP_eq_zero.mpr
      intro pc hmem
      cases pc with
      | awake => exact absurd hmem hawake
      | blocked => simp [WorkerPc.isAwake]
      | executing task => simp [WorkerPc.isAwake]
      | exited => simp [WorkerPc.isAwake]
    rw [hzero, hnotifying] at hcounted
    simp only [List.length_nil] at hcounted
    omega

/-- Two workers sleep and one task has been pushed. -/
def sleepingRun : List (PoolAction Nat) :=
  [.start, .controller, .controller, .controller, .controller, .worker 0, .worker 1, .submit 7]

/-- The same, and then `stop` goes up to its `notify_all`. -/
def notifiedRun : List (PoolAction Nat) := sleepingRun ++ [.stop, .controller]

/-- The sleeping workers of `sleepingRun` do not sleep beside a task that nobody cares for,
    and those of `notifiedRun` are awake. -/
theorem no_lost_wakeup_sleeping :
    (∃ pool : ThreadPool Nat, (system Nat 2).Reachable anyStep pool ∧
      pool.tasks = [7] ∧ .blocked ∈ pool.workers ∧
      pool.tasks.length ≤ pool.awake + pool.notifying.length) ∧
    ∃ pool : ThreadPool Nat, (system Nat 2).Reachable anyStep pool ∧
      pool.workers.length = 2 ∧ isNotified pool.history = true ∧ .blocked ∉ pool.workers := by
  constructor
  · obtain ⟨pool, -, hreach, hpool⟩ := exists_of_run (system Nat 2) anyStep sleepingRun
      (fun pool => pool.tasks = [7] ∧ .blocked ∈ pool.workers) rfl (by decide)
    obtain ⟨htasks, hblocked⟩ := of_decide_eq_true hpool
    exact ⟨pool, hreach, htasks, hblocked, (no_lost_wakeup hreach).1 hblocked⟩
  · obtain ⟨pool, -, hreach, hpool⟩ := exists_of_run (system Nat 2) anyStep notifiedRun
      (fun pool => pool.workers.length = 2 ∧ isNotified pool.history = true) rfl (by decide)
    obtain ⟨hlength, hnotified⟩ := of_decide_eq_true hpool
    exact ⟨pool, hreach, hlength, hnotified, (no_lost_wakeup hreach).2.2 hnotified⟩

/-! ## Progress -/

/-- A step of a thread that is on its way already: no new call, no spurious wake-up. -/
def isInternal : PoolAction Task → Bool
  | .controller | .notifyOne _ _ | .worker _ => true
  | _ => false

/-- The worker is executing a task. -/
def isExecuting : WorkerPc Task → Bool
  | .executing _ => true
  | _ => false

/-- What the controller has left to do in its call. -/
def controllerWork (threadCount : Nat) (pool : ThreadPool Task) : Nat :=
  match pool.controller with
  | .idle => 0
  | .clearStopping => 2 * (threadCount - pool.workers.length) + 2
  | .spawning => 2 * (threadCount - pool.workers.length) + 1
  | .notifyAll => 2 * pool.workers.length + 3
  | .joining index => pool.workers.length - index + 2
  | .resetting => 1

/-- What the threads of the pool, its submitters and the controller have left to do. -/
def work (threadCount : Nat) (pool : ThreadPool Task) : Nat :=
  4 * pool.tasks.length + 2 * pool.notifying.length + pool.awake +
    2 * pool.workers.countP isExecuting + pool.controllerWork threadCount

omit [DecidableEq Task] in
/-- A worker that moves: what is left for the workers and the controller. -/
theorem work_setWorker (threadCount : Nat) {pool : ThreadPool Task} {index : Nat}
    {pc : WorkerPc Task} (h : pool.workers[index]? = some pc) (pc' : WorkerPc Task) :
    (pool.setWorker index pc').work threadCount + pc.isAwake.toNat +
        2 * (isExecuting pc).toNat =
      pool.work threadCount + pc'.isAwake.toNat + 2 * (isExecuting pc').toNat := by
  have hawake := awake_setWorker h pc'
  have hexecuting := countP_setWorker h pc' isExecuting
  have hcontroller : (pool.setWorker index pc').controllerWork threadCount =
      pool.controllerWork threadCount := by
    simp [controllerWork, setWorker]
  simp only [work, hcontroller]
  show 4 * pool.tasks.length + 2 * pool.notifying.length + _ + _ + _ + _ + _ = _
  omega

/-- Every step of a thread that is on its way leaves less to do. -/
theorem work_decreases (hinternal : isInternal action = true)
    (h : StepCase threadCount pool action pool') :
    pool'.work threadCount < pool.work threadCount := by
  cases h with
  | cleared hpc =>
    simp only [work, controllerWork, hpc, awake]
    omega
  | spawned hpc hlt =>
    simp only [work, controllerWork, hpc, awake, List.countP_append, List.length_append]
    simp [WorkerPc.isAwake, isExecuting]
    omega
  | startReturned hpc hge =>
    simp only [work, controllerWork, hpc, awake]
    omega
  | notifiedAll hpc =>
    -- at most all workers are awake then, which the controller has paid for
    have hawake : (pool.workers.map WorkerPc.notified).countP WorkerPc.isAwake ≤
        pool.workers.length := by
      rw [← List.length_map WorkerPc.notified]
      exact List.countP_le_length
    have hexecuting : (pool.workers.map WorkerPc.notified).countP isExecuting =
        pool.workers.countP isExecuting := by
      rw [List.countP_map]
      apply List.countP_congr
      intro pc _
      cases pc <;> simp [WorkerPc.notified, isExecuting]
    simp only [work, controllerWork, hpc, awake, record, hexecuting, List.length_map]
    omega
  | joined index hpc hworker =>
    have hlt := (List.getElem?_eq_some_iff.mp hworker).1
    simp only [work, controllerWork, hpc, awake]
    omega
  | workersCleared index hpc hge =>
    simp only [work, controllerWork, hpc, awake]
    simp
    omega
  | stopped hpc =>
    simp only [work, controllerWork, hpc, awake, record]
    omega
  | notified task index htask hworker =>
    have hpos := List.length_pos_of_mem htask
    have herase := List.length_erase_of_mem htask
    have hwork := work_setWorker threadCount hworker .awake
    simp [WorkerPc.isAwake, isExecuting] at hwork
    simp only [work, controllerWork, awake, setWorker] at hwork ⊢
    omega
  | unheard task htask hblocked =>
    have hpos := List.length_pos_of_mem htask
    have herase := List.length_erase_of_mem htask
    simp only [work, controllerWork, awake]
    omega
  | exited index hworker htasks hstopping =>
    have hwork := work_setWorker threadCount hworker .exited
    simp [WorkerPc.isAwake, isExecuting] at hwork
    omega
  | blocked index hworker htasks hstopping =>
    have hwork := work_setWorker threadCount hworker .blocked
    simp [WorkerPc.isAwake, isExecuting] at hwork
    omega
  | dequeued index task rest hworker htasks =>
    have hwork := work_setWorker threadCount hworker (.executing task)
    simp [WorkerPc.isAwake, isExecuting] at hwork
    simp only [work, controllerWork, awake, setWorker, record, htasks, List.length_cons]
      at hwork ⊢
    omega
  | finished index task hworker =>
    have hwork := work_setWorker threadCount hworker .awake
    simp [WorkerPc.isAwake, isExecuting] at hwork
    simp only [work, controllerWork, awake, setWorker, record] at hwork ⊢
    omega
  | _ => simp [isInternal] at hinternal

/-- A worker that takes no step is in `wait` or has left. -/
theorem worker_stuck {index : Nat} {pc : WorkerPc Task} (hworker : pool.workers[index]? = some pc)
    (h : ThreadPool.step threadCount pool (.worker index) = none) :
    pc = .blocked ∨ pc = .exited := by
  cases pc with
  | awake => simp [ThreadPool.step, worker, hworker] at h
  | blocked => exact .inl rfl
  | executing task => simp [ThreadPool.step, worker, hworker] at h
  | exited => exact .inr rfl

/-- A submitter that has pushed can always call `notify_one`. -/
theorem notifying_stuck
    (h : ∀ action, isInternal action = true → ThreadPool.step threadCount pool action = none) :
    pool.notifying = [] := by
  cases hnotifying : pool.notifying with
  | nil => rfl
  | cons task rest =>
    have hmem : task ∈ pool.notifying := by simp [hnotifying]
    cases hany : pool.workers.any WorkerPc.isBlocked with
    | false =>
      have hnone := h (.notifyOne task none) rfl
      simp [ThreadPool.step, hmem, notifyOne, hany] at hnone
    | true =>
      obtain ⟨pc, hpc, hblocked⟩ := List.any_eq_true.mp hany
      obtain ⟨index, hindex⟩ := List.getElem?_of_mem hpc
      have hwoken := h (.notifyOne task (some index)) rfl
      cases pc <;> simp [WorkerPc.isBlocked] at hblocked
      simp [ThreadPool.step, hmem, notifyOne, wake, hindex] at hwoken

/-- Where no thread that is on its way can take a step, everything accepted has returned
    and no call of the controller is under way. -/
theorem PoolInv.done_of_stuck (hthreads : 0 < threadCount) (inv : PoolInv threadCount pool)
    (wake : WakeInv pool)
    (h : ∀ action, isInternal action = true → ThreadPool.step threadCount pool action = none) :
    pool.controller = .idle ∧ pool.tasks = [] ∧ ∀ task, pool.executing task = 0 := by
  have hstuck : ∀ pc ∈ pool.workers, pc = .blocked ∨ pc = .exited := by
    intro pc hmem
    obtain ⟨index, hindex⟩ := List.getElem?_of_mem hmem
    exact worker_stuck hindex (h (.worker index) rfl)
  have hexecuting : ∀ task, pool.executing task = 0 := by
    intro task
    apply List.count_eq_zero_of_not_mem
    intro hmem
    rcases hstuck _ hmem with heq | heq <;> cases heq
  have hawake : pool.awake = 0 := by
    apply List.countP_eq_zero.mpr
    intro pc hmem
    rcases hstuck pc hmem with rfl | rfl <;> simp [WorkerPc.isAwake]
  have hcontroller := inv.controller
  have hnext : pool.continueController threadCount = none := h .controller rfl
  simp only [continueController] at hnext
  cases hpc : pool.controller with
  | idle =>
    refine ⟨rfl, ?_, hexecuting⟩
    rw [ControllerInv, hpc] at hcontroller
    obtain ⟨hstopping, hlength, hnil⟩ := hcontroller
    cases hrunning : pool.running with
    | false => exact (hnil hrunning).2
    | true =>
      obtain ⟨pc, hmem⟩ := List.exists_mem_of_length_pos ((hlength hrunning).symm ▸ hthreads)
      rcases hstuck pc hmem with rfl | rfl
      · have hcounted := wake.counted hmem
        rw [hawake, notifying_stuck h] at hcounted
        exact List.length_eq_zero_iff.mp (Nat.le_zero.mp hcounted)
      · exact (inv.drained hmem).2
  | clearStopping => simp [hpc] at hnext
  | spawning =>
    simp only [hpc] at hnext
    split at hnext <;> cases hnext
  | notifyAll => simp [hpc] at hnext
  | joining index =>
    simp only [hpc] at hnext
    rw [ControllerInv, hpc] at hcontroller
    obtain ⟨-, -, -, hnotified, -⟩ := hcontroller
    split at hnext
    · cases hnext
    · rename_i pc hne hworker
      -- the worker that is waited for is not blocked after `notify_all`
      have hmem := List.mem_of_getElem? hworker
      rcases hstuck _ hmem with rfl | rfl
      · exact absurd hmem (wake.notified hnotified).1
      · exact absurd rfl hne
    · cases hnext
  | resetting => simp [hpc] at hnext

/-! ## Delivery -/

/-- **Delivery.** In every interleaving of submitters, workers and a controller with a pool
    of at least one thread: every event is explained, so tasks are taken once each in the
    order of acceptance, return once each, and are accepted only between `start` and the
    moment `stop` sets `stopping_`; no accepted task is lost; behind a `stop` the queue is
    empty and all accepted tasks have returned. And the tasks do get done: the threads that
    are on their way have only finitely many steps left, and when there is none all
    accepted tasks have returned and `stop` has too. -/
theorem pool_delivers (hthreads : 0 < threadCount)
    (h : (system Task threadCount).Reachable anyStep pool) :
    pool.history.Chronicle Explained ∧
    dequeued pool.history ++ pool.tasks = accepted pool.history ∧
    (∀ task, (finished pool.history).count task + pool.executing task =
      (dequeued pool.history).count task) ∧
    (pool.history.getLast? = some .stopped →
      pool.tasks = [] ∧ (finished pool.history).Perm (accepted pool.history)) ∧
    (∀ action pool', isInternal action = true →
      ThreadPool.step threadCount pool action = some pool' →
      pool'.work threadCount < pool.work threadCount) ∧
    ((∀ action, isInternal action = true →
        ThreadPool.step threadCount pool action = none) →
      pool.controller = .idle ∧ dequeued pool.history = accepted pool.history ∧
        (finished pool.history).Perm (accepted pool.history)) := by
  have inv := PoolInv.reachable hthreads h
  refine ⟨inv.explained, inv.queued, inv.executed, ?_, ?_, ?_⟩
  · intro hlast
    -- `stopped` is explained by what is on record before it
    obtain ⟨past, hpast⟩ := List.getLast?_eq_some_iff.mp hlast
    obtain ⟨hdequeued, hfinished⟩ := inv.explained past .stopped [] hpast
    have hqueued := inv.queued
    rw [hpast] at hqueued ⊢
    simp only [dequeued_append, accepted_append, finished_append, List.append_nil]
      at hqueued ⊢
    rw [hdequeued] at hqueued
    exact ⟨by simpa using hqueued, hfinished⟩
  · intro action pool' hinternal hstep
    exact work_decreases hinternal (step_cases hstep)
  · intro hstuck
    obtain ⟨hidle, htasks, hexecuting⟩ :=
      inv.done_of_stuck hthreads (WakeInv.reachable hthreads h) hstuck
    exact ⟨hidle, inv.done htasks hexecuting⟩

/-- One worker: a task is submitted while it sleeps and another while it works, then the
    pool is stopped while a third one comes too late. -/
def sampleRun : List (PoolAction Nat) :=
  [.start, .controller, .controller, .controller, .worker 0, .submit 7, .notifyOne 7 (some 0),
   .submit 8, .worker 0, .notifyOne 8 none, .worker 0, .stop, .controller, .submit 9,
   .worker 0, .worker 0, .worker 0, .controller, .controller, .controller]

theorem pool_delivers_sample :
    ∃ pool : ThreadPool Nat, (system Nat 1).Reachable anyStep pool ∧
      accepted pool.history = [7, 8] ∧ pool.history.getLast? = some .stopped ∧
      pool.tasks = [] ∧ (finished pool.history).Perm [7, 8] := by
  obtain ⟨pool, -, hreach, hlast⟩ := exists_of_run (system Nat 1) anyStep sampleRun
    (fun pool => accepted pool.history = [7, 8] ∧ pool.history.getLast? = some .stopped)
    rfl (by decide)
  obtain ⟨haccepted, hlast⟩ := of_decide_eq_true hlast
  obtain ⟨htasks, hfinished⟩ := (pool_delivers (by decide) hreach).2.2.2.1 hlast
  exact ⟨pool, hreach, haccepted, hlast, htasks, haccepted ▸ hfinished⟩

end ThreadPool

end EdgeLink
