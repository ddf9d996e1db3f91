import EdgeLink.ForStd.TransitionSystem
import EdgeLink.Native.EventLoop

/-! # Running the event loop

`EventLoop::run`: the events that one `epoll_wait` returns are dispatched one after the other,
each to the channel that `channels_` holds for its descriptor at that moment.

What a callback does comes with the event that it is run for: the calls it makes on the loop
and on descriptors, with their results. All descriptors are those of the component that is
looked at, so every channel is an `own` one. -/

namespace EdgeLink

/-- A call that a callback makes, with its result. -/
inductive LoopOperation where
  /-- `socket`, `accept4`, `timerfd_create`, `eventfd`. -/
  | opened (fd : Int)
  | closed (fd : Int)
  | addChannel (channel : Channel) (result : Bool)
  | removeChannel (channel : Channel) (result : Bool)
  /-- `EventLoop::stop`. -/
  | stop
deriving DecidableEq

/-- One `epoll_event` of a batch. -/
structure ReadyEvent where
  fd : Int
  revents : UInt32
deriving DecidableEq

/-- An event and the calls of the callback that is run for it. -/
structure BatchEntry where
  event : ReadyEvent
  operations : List LoopOperation
deriving DecidableEq

/-- The channel that an event was dispatched to; `none` where there was none. -/
structure Delivery where
  fd : Int
  channel : Option ChannelPointer
deriving DecidableEq

/-- The loop and its flag `running_`. -/
structure RunningLoop (Input : Type) where
  loop : EventLoop Input
  running : Bool

namespace RunningLoop

variable {Input : Type}

/-- One call: `none` where the kernel would not give this result. -/
def perform (state : RunningLoop Input) : LoopOperation → Option (RunningLoop Input)
  | .opened fd =>
    -- a number that was just closed may be given out again
    if state.loop.isFree fd then
      some { state with loop := state.loop.record (.opened fd) }
    else none
  | .closed fd =>
    if DescriptorTrace.isOpen fd state.loop.trace then
      some { state with loop := state.loop.close fd }
    else none
  | .addChannel channel result =>
    if result && !DescriptorTrace.isOpen channel.fd state.loop.trace then none
    else
      let (loop, added) := state.loop.addChannel channel result
      if added = result then some { state with loop } else none
  | .removeChannel channel result =>
    let (loop, removed) := state.loop.removeChannel channel
    if removed = result then some { state with loop } else none
  | .stop => some { state with running := false }

/-- The calls of a callback. -/
def performAll (state : RunningLoop Input) :
    List LoopOperation → Option (RunningLoop Input)
  | [] => some state
  | operation :: rest => (state.perform operation).bind fun state => state.performAll rest

/-- One iteration of the loop over the events. -/
def dispatch (state : RunningLoop Input) (entry : BatchEntry) :
    Option (RunningLoop Input × Delivery) :=
  match state.loop.channels entry.event.fd with
  | none =>
    -- the channel is gone: nothing is called
    if entry.operations = [] then some (state, ⟨entry.event.fd, none⟩) else none
  | some channel =>
    match Channel.handleEvent entry.event.revents with
    | none =>
      if entry.operations = [] then some (state, ⟨entry.event.fd, some channel⟩) else none
    | some _ =>
      (state.performAll entry.operations).map fun state =>
        (state, ⟨entry.event.fd, some channel⟩)

/-- The loop over the events that one `epoll_wait` has returned. -/
def dispatchBatch (state : RunningLoop Input) :
    List BatchEntry → Option (RunningLoop Input × List Delivery)
  | [] => some (state, [])
  | entry :: rest =>
    (state.dispatch entry).bind fun (state, delivery) =>
      (state.dispatchBatch rest).map fun (state, deliveries) =>
        (state, delivery :: deliveries)

end RunningLoop

/-- What `epoll_wait` returns. -/
inductive WaitResult where
  | interrupted
  | failed
  | ready (batch : List BatchEntry)

/-- One iteration of the outer loop of `run`. -/
def RunningLoop.wait {Input : Type} (state : RunningLoop Input) :
    WaitResult → Option (RunningLoop Input)
  | .interrupted => if state.running then some state else none
  | .failed => if state.running then some { state with running := false } else none
  | .ready batch =>
    if state.running then (state.dispatchBatch batch).map Prod.fst else none

/-- `EventLoop::run`. -/
def eventLoopSystem (Input : Type) : TransitionSystem (RunningLoop Input) WaitResult where
  init state := state.running = true
  step := RunningLoop.wait

end EdgeLink
