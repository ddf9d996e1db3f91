import EdgeLink.Native.DeviceConnectionStateMachine

/-! # Reconnect backoff

`reconnect_backoff.cpp`: exponentially growing waiting times between connection attempts.
Delays are milliseconds, time points are nanoseconds of `steady_clock`. -/

namespace EdgeLink

/-- The backoff timer. -/
structure ReconnectBackoff where
  initialDelay : Int64
  maximumDelay : Int64
  nextDelay : Int64
  retryAt : Int64
  failureCount : UInt64
deriving DecidableEq

namespace ReconnectBackoff

/-- The constructor: `none` where it throws. -/
def create (initialDelay maximumDelay : Int64) : Option ReconnectBackoff :=
  if initialDelay ≤ 0 ∨ maximumDelay < initialDelay then none
  else
    some
      { initialDelay, maximumDelay, nextDelay := initialDelay, retryAt := 0,
        failureCount := 0 }

/-- `ReconnectBackoff::recordFailure`, with the reading of the clock that it makes. -/
def recordFailure (backoff : ReconnectBackoff) (now : Int64) : ReconnectBackoff :=
  { backoff with
    retryAt := now + nanosecondsOfMilliseconds backoff.nextDelay
    failureCount := backoff.failureCount + 1
    nextDelay :=
      if backoff.maximumDelay ≤ backoff.nextDelay then backoff.maximumDelay
      else
        let doubledDelay := backoff.nextDelay * 2
        -- `std::min(doubledDelay, maximumDelay_)`
        if backoff.maximumDelay < doubledDelay then backoff.maximumDelay
        else doubledDelay }

/-- `ReconnectBackoff::reset`. -/
def reset (backoff : ReconnectBackoff) : ReconnectBackoff :=
  { backoff with failureCount := 0, nextDelay := backoff.initialDelay, retryAt := 0 }

/-- `ReconnectBackoff::canRetry`. The clock is only read after a failure. -/
def canRetry (backoff : ReconnectBackoff) (now : Int64) : Bool :=
  backoff.failureCount == 0 || decide (backoff.retryAt ≤ now)

/-- `ReconnectBackoff::remainingDelay`. `duration_cast` truncates. -/
def remainingDelay (backoff : ReconnectBackoff) (now : Int64) : Int64 :=
  if backoff.failureCount = 0 then 0
  else if backoff.retryAt ≤ now then 0
  else (backoff.retryAt - now) / 1000000

end ReconnectBackoff

end EdgeLink
