import EdgeLink.ForStd.TransitionSystem

/-! # Thread pool

`thread_pool.cpp` as a transition system: any number of submitters, the worker threads and
one controller that calls `start` and `stop`. A section under `mutex_` is one step, and so
is each of the controller's accesses outside it; `wait` gives the mutex back in the step
that blocks. Tasks are values of any type, `threadCount_` is a parameter. -/

namespace EdgeLink

/-- Where a worker is in `workerLoop`. -/
inductive WorkerPc (Task : Type) where
  /-- It will take the mutex: at the head of the loop, or on its way out of `wait`. -/
  | awake
  /-- In `condition_.wait`, not notified. -/
  | blocked
  | executing (task : Task)
  | exited
deriving DecidableEq

namespace WorkerPc

variable {Task : Type}

/-- The worker is in `wait`. -/
def isBlocked : WorkerPc Task → Bool
  | .blocked => true
  | _ => false

/-- The worker is awake and not executing a task. -/
def isAwake : WorkerPc Task → Bool
  | .awake => true
  | _ => false

/-- What `condition_.notify_all()` does to a worker. -/
def notified : WorkerPc Task → WorkerPc Task
  | .blocked => .awake
  | pc => pc

end WorkerPc

/-- Where the controller is between its calls and in `start` and `stop`. -/
inductive PoolControllerPc where
  | idle
  /-- `start`: at `stopping_ = false`. -/
  | clearStopping
  /-- `start`: in the loop that creates the threads. -/
  | spawning
  /-- `stop`: at `condition_.notify_all()`. -/
  | notifyAll
  /-- `stop`: at the `join` of this worker. -/
  | joining (index : Nat)
  /-- `stop`: at the section that resets the flags. -/
  | resetting
deriving DecidableEq

/-- What can be seen of the pool from outside. -/
inductive PoolEvent (Task : Type) where
  | started
  | accepted (task : Task)
  | refused (task : Task)
  | dequeued (task : Task)
  | finished (task : Task)
  /-- `stop` has set `stopping_`. -/
  | stopRequested
  | notifiedAll
  /-- `stop` returns. -/
  | stopped
deriving DecidableEq

/-- The pool, the submitters that have pushed and not yet called `notify_one`, and what has
    happened so far, oldest first. -/
structure ThreadPool (Task : Type) where
  running : Bool
  stopping : Bool
  tasks : List Task
  workers : List (WorkerPc Task)
  notifying : List Task
  controller : PoolControllerPc
  history : List (PoolEvent Task)

/-- A step: what a thread does next, or a choice of the condition variable. -/
inductive PoolAction (Task : Type) where
  | start
  | stop
  /-- The controller goes on inside `start` or `stop`. -/
  | controller
  | submit (task : Task)
  /-- A submitter calls `notify_one`, and this worker is woken by it. -/
  | notifyOne (task : Task) (woken : Option Nat)
  | worker (index : Nat)
  /-- A worker comes out of `wait` without a notification. -/
  | spuriousWakeup (index : Nat)
deriving DecidableEq

namespace ThreadPool

variable {Task : Type}

/-- Something can be seen of the pool. -/
def record (pool : ThreadPool Task) (event : PoolEvent Task) : ThreadPool Task :=
  { pool with history := pool.history ++ [event] }

/-- A worker moves on. -/
def setWorker (pool : ThreadPool Task) (index : Nat) (pc : WorkerPc Task) :
    ThreadPool Task :=
  { pool with workers := pool.workers.set index pc }

/-- `ThreadPool::ThreadPool`. -/
def initial : ThreadPool Task where
  running := false
  stopping := false
  tasks := []
  workers := []
  notifying := []
  controller := .idle
  history := []

/-- `ThreadPool::start`, to the write of `running_`. -/
def start (pool : ThreadPool Task) : ThreadPool Task :=
  if pool.running then pool
  else { pool.record .started with running := true, controller := .clearStopping }

/-- `ThreadPool::submit`, the section under the mutex. -/
def submit (pool : ThreadPool Task) (task : Task) : ThreadPool Task :=
  if !pool.running || pool.stopping then pool.record (.refused task)
  else
    { pool.record (.accepted task) with
      tasks := pool.tasks ++ [task]
      notifying := pool.notifying ++ [task] }

/-- `ThreadPool::stop`, its first section under the mutex. -/
def stop (pool : ThreadPool Task) : ThreadPool Task :=
  if !pool.running then pool.record .stopped
  else { pool.record .stopRequested with stopping := true, controller := .notifyAll }

/-- `ThreadPool::workerLoop`, a pass through the section under the mutex. -/
def takeTask (pool : ThreadPool Task) (index : Nat) : ThreadPool Task :=
  match pool.tasks with
  | [] =>
    if pool.stopping then pool.setWorker index .exited
    else pool.setWorker index .blocked
  | task :: rest =>
    { (pool.setWorker index (.executing task)).record (.dequeued task) with tasks := rest }

/-- A worker's next step: it takes the mutex, or its task returns. -/
def worker (pool : ThreadPool Task) (index : Nat) : Option (ThreadPool Task) :=
  match pool.workers[index]? with
  | some .awake => some (pool.takeTask index)
  | some (.executing task) => some ((pool.setWorker index .awake).record (.finished task))
  | _ => none

/-- The condition variable lets a blocked worker go on. -/
def wake (pool : ThreadPool Task) (index : Nat) : Option (ThreadPool Task) :=
  match pool.workers[index]? with
  | some .blocked => some (pool.setWorker index .awake)
  | _ => none

/-- `condition_.notify_one()`: it wakes one of the blocked workers if there is one. -/
def notifyOne (pool : ThreadPool Task) : Option Nat → Option (ThreadPool Task)
  | some index => pool.wake index
  | none => if pool.workers.any WorkerPc.isBlocked then none else some pool

/-- The controller's next step inside `start` and `stop`. -/
def continueController (threadCount : Nat) (pool : ThreadPool Task) :
    Option (ThreadPool Task) :=
  match pool.controller with
  | .idle => none
  | .clearStopping => some { pool with stopping := false, controller := .spawning }
  | .spawning =>
    if pool.workers.length < threadCount then
      some { pool with workers := pool.workers ++ [.awake] }
    else some { pool with controller := .idle }
  | .notifyAll =>
    some { pool.record .notifiedAll with
      workers := pool.workers.map WorkerPc.notified
      controller := .joining 0 }
  | .joining index =>
    match pool.workers[index]? with
    | some .exited => some { pool with controller := .joining (index + 1) }
    | some _ => none
    -- all threads are joined: `workers_.clear()`
    | none => some { pool with workers := [], controller := .resetting }
  | .resetting =>
    some { pool.record .stopped with
      running := false
      stopping := false
      controller := .idle }

variable [DecidableEq Task]

/-- One step. -/
def step (threadCount : Nat) (pool : ThreadPool Task) :
    PoolAction Task → Option (ThreadPool Task)
  | .start => if pool.controller = .idle then some pool.start else none
  | .stop => if pool.controller = .idle then some pool.stop else none
  | .controller => pool.continueController threadCount
  | .submit task => some (pool.submit task)
  | .notifyOne task woken =>
    if task ∈ pool.notifying then
      { pool with notifying := pool.notifying.erase task }.notifyOne woken
    else none
  | .worker index => pool.worker index
  | .spuriousWakeup index => pool.wake index

/-- The pool with `threadCount_` threads. -/
def system (Task : Type) [DecidableEq Task] (threadCount : Nat) :
    TransitionSystem (ThreadPool Task) (PoolAction Task) where
  init pool := pool = initial
  step := step threadCount

end ThreadPool

end EdgeLink
