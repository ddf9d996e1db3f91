import EdgeLink.ForStd.EventFd
import EdgeLink.ForStd.TransitionSystem

/-! # Stopping the event loop

`EventLoop::run`, `stop` and `wakeup` with `wakeup.cpp`: one thread runs the loop, any number
of threads and callbacks stop it or wake it up. Each access to `running_` is a step, and so is
each call on the eventfd; between the store and the write of one `stop` everything else can
happen.

The eventfd is open and the write is of eight bytes, so it fails only with `EAGAIN`. What
callbacks do apart from `stop` and `wakeup` does not matter here. -/

namespace EdgeLink

/-- An event that `epoll_wait` returns: the eventfd of the loop itself, or another one. -/
inductive LoopEvent where
  | wakeup
  | other
deriving DecidableEq

/-- Where the thread that runs the loop is. -/
inductive LoopPc where
  /-- Not in `run`. -/
  | outside
  /-- At `while (running_)`. -/
  | testing
  /-- In `epoll_wait`. -/
  | waiting
  /-- At the events that are left of a batch. -/
  | dispatching (events : List LoopEvent)
deriving DecidableEq

/-- `running_`, the eventfd, the thread of the loop, and the calls of `stop` that have stored
    to `running_` and not yet written. -/
structure StoppableLoop where
  running : Bool := false
  wakeup : EventFd := .empty
  pc : LoopPc := .outside
  stopping : Nat := 0
deriving DecidableEq

/-- A step of the thread that runs the loop, or of another one. -/
inductive LoopAction where
  | run
  | test
  | interrupted
  | failed
  | ready (events : List LoopEvent)
  | dispatch
  /-- `stop` stores `false`. -/
  | stop
  /-- `stop` goes on to `wakeup`. -/
  | stopWakeup
  /-- `wakeup` of anybody else. -/
  | wakeup
deriving DecidableEq

/-- `maxEvents` of `run`. -/
def maxEvents : Nat := 32

namespace StoppableLoop

/-- `Wakeup::wakeup`: a write that would overflow is only logged. -/
def writeWakeup (loop : StoppableLoop) : StoppableLoop :=
  { loop with wakeup := (loop.wakeup.write 1).getD loop.wakeup }

/-- `Wakeup::handleRead`. -/
def readWakeup (loop : StoppableLoop) : StoppableLoop :=
  match loop.wakeup.read with
  | some (wakeup, _) => { loop with wakeup }
  | none => loop

/-- The callback of the next event. -/
def handleEvent (loop : StoppableLoop) : LoopEvent → StoppableLoop
  | .wakeup => loop.readWakeup
  | .other => loop

/-- `epoll_wait` can return these events. -/
def CanReturn (loop : StoppableLoop) (events : List LoopEvent) : Prop :=
  events ≠ [] ∧ events.length ≤ maxEvents ∧ (.wakeup ∈ events → loop.wakeup.readable = true)

instance (loop : StoppableLoop) (events : List LoopEvent) : Decidable (loop.CanReturn events) :=
  inferInstanceAs (Decidable (_ ∧ _ ∧ _))

/-- One step; `none` where the thread is not at that point. -/
def step (loop : StoppableLoop) : LoopAction → Option StoppableLoop
  | .run =>
    if loop.pc = .outside then some { loop with running := true, pc := .testing } else none
  | .test =>
    if loop.pc = .testing then
      if loop.running then some { loop with pc := .waiting }
      else some { loop with running := false, pc := .outside }
    else none
  | .interrupted => if loop.pc = .waiting then some { loop with pc := .testing } else none
  | .failed =>
    if loop.pc = .waiting then some { loop with running := false, pc := .outside } else none
  | .ready events =>
    if loop.pc = .waiting ∧ loop.CanReturn events then
      some { loop with pc := .dispatching events }
    else none
  | .dispatch =>
    match loop.pc with
    | .dispatching [] => some { loop with pc := .testing }
    | .dispatching (event :: rest) =>
      some { loop.handleEvent event with pc := .dispatching rest }
    | _ => none
  | .stop => some { loop with running := false, stopping := loop.stopping + 1 }
  | .stopWakeup =>
    if loop.stopping = 0 then none
    else some { loop.writeWakeup with stopping := loop.stopping - 1 }
  | .wakeup => some loop.writeWakeup

end StoppableLoop

/-- The loop, and everybody who stops it or wakes it up. -/
def stoppableLoopSystem : TransitionSystem StoppableLoop LoopAction where
  init loop := loop = {}
  step := StoppableLoop.step

end EdgeLink
