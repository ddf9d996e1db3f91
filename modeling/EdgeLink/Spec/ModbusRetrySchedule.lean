import EdgeLink.Spec.ModbusPluginCorrect
import EdgeLink.Spec.ReconnectBackoffCorrect

/-! # Retry schedule of the Modbus plugin

When a disconnected plugin calls `modbus_connect`, in every run of `start` and `pollOnce`.

* `Scheduled`: the invariant. The backoff is that of the failures since the last
  successful connect, and a connected plugin has none.
* `CallEvents`: which failures a call records: that of a refused connect, and that of a pass
  that ends in a timeout.
* `modbus_retry_schedule`: a call connects exactly when no failure was recorded or the
  delay of the latest one is over; nothing wraps.

The failures are at least a millisecond apart, since each needs a retry that the backoff
allowed; this bounds their number by the range of the clock, far below that of the
counter. -/

namespace EdgeLink

open ReconnectBackoff

/-- The clock is monotone, and the longest delay after any reading is still in its
    range. -/
structure SteadyClock (env : ModbusEnvironment) : Prop where
  monotone : ∀ m n, m ≤ n → (env.steadyNow m).toInt ≤ (env.steadyNow n).toInt
  far : ∀ n, (env.steadyNow n).toInt + (2 ^ 31 - 1) * nanosecondsPerMillisecond < 2 ^ 63

/-- The events that a call has added to the trace. -/
def newEvents (before after : List ModbusEvent) : List ModbusEvent :=
  after.take (after.length - before.length)

@[simp] theorem newEvents_append (events trace : List ModbusEvent) :
    newEvents trace (events ++ trace) = events := by
  simp [newEvents]

theorem newEvents_self (trace : List ModbusEvent) : newEvents trace trace = [] :=
  newEvents_append [] trace

/-- The connect that comes before a polling pass, where the plugin was not connected. -/
def connectsBeforePass (connected : Bool) : List ModbusEvent :=
  if connected then [] else [.connectCalled true]

/-- The state that a call leads to from `state`, and the events that it adds, newest first.
    A connect that is refused leads to `Error` and is recorded as a failure, and so is a pass
    that leads to `Timeout`; a pass that keeps the connection records none. A failure has a
    clock reading of the call. -/
inductive CallEvents (env : ModbusEnvironment) (tick : Nat) (connected : Bool)
    (state : ConnectionState) : ConnectionState → List ModbusEvent → Prop
  | nothing : CallEvents env tick connected state state []
  | refused (n : Nat) (hn : tick ≤ n) (hdown : connected = false) :
    CallEvents env tick connected state .error
      [.failureRecorded (env.steadyNow n), .connectCalled false]
  | polled (reads : List RegisterRead) :
    CallEvents env tick connected state .connected
      (.polled reads :: connectsBeforePass connected)
  | timedOut (reads : List RegisterRead) (n : Nat) (hn : tick ≤ n) :
    CallEvents env tick connected state .timeout
      (.failureRecorded (env.steadyNow n) :: .polled reads :: connectsBeforePass connected)

/-- The step from `before` to `after` has called `modbus_connect`. -/
def CallsConnect (before after : List ModbusEvent) : Prop :=
  ∃ accepted, .connectCalled accepted ∈ newEvents before after

/-- The delay of the latest failure is over at time `t`, or there is no failure. -/
def RetryIsDue (config : ModbusTcpConfig) (trace : List ModbusEvent) (t : Int64) : Prop :=
  failuresSinceConnect trace = [] ∨
    ∃ latest, (failuresSinceConnect trace).head? = some latest ∧
      latest.toInt +
        min (config.reconnectInitialDelayMs.toInt *
            2 ^ ((failuresSinceConnect trace).length - 1))
          config.reconnectMaximumDelayMs.toInt * nanosecondsPerMillisecond ≤ t.toInt

variable {env : ModbusEnvironment} {arithmetic : DoubleArithmetic} {config : ModbusTcpConfig}

/-! ## The invariant -/

/-- The backoff that the configuration and the failures call for. -/
def BackoffOf (config : ModbusTcpConfig) (backoff : ReconnectBackoff)
    (failures : List Int64) : Prop :=
  backoff.After config.reconnectInitialDelayMs.toInt config.reconnectMaximumDelayMs.toInt
    failures

namespace ModbusView

/-- The view of a plugin between two calls. -/
structure Scheduled (config : ModbusTcpConfig) (v : ModbusView) : Prop where
  settled : v.Settled
  backoff : BackoffOf config v.backoff (failuresSinceConnect v.trace)
  connected : v.connected = true → failuresSinceConnect v.trace = []
  spaced : ∀ latest earlier, failuresSinceConnect v.trace = latest :: earlier →
    (earlier.length : Int) * nanosecondsPerMillisecond ≤ latest.toInt + 2 ^ 63

/-- The clock bounds the number of failures. -/
theorem Scheduled.count {v : ModbusView} (h : v.Scheduled config) :
    (failuresSinceConnect v.trace).length + 1 < 2 ^ 64 := by
  cases hfailures : failuresSinceConnect v.trace with
  | nil => decide
  | cons latest earlier =>
    -- a millisecond for each failure has to fit in the range of the clock
    have hspaced := h.spaced latest earlier hfailures
    have hrange := latest.toInt_lt
    simp only [nanosecondsPerMillisecond] at hspaced
    rw [List.length_cons]
    omega

/-- A delay of the configuration can be added to any reading. -/
theorem farEnough (hclock : SteadyClock env) (n : Nat) :
    (env.steadyNow n).toInt +
      config.reconnectMaximumDelayMs.toInt * nanosecondsPerMillisecond < 2 ^ 63 := by
  have hfar := hclock.far n
  have hdelay := config.reconnectMaximumDelayMs.toInt_lt
  simp only [nanosecondsPerMillisecond] at hfar ⊢
  omega

/-- A retry is allowed exactly when it is due. -/
theorem Scheduled.canRetry_iff {v : ModbusView} (h : v.Scheduled config) (t : Int64) :
    v.backoff.canRetry t = true ↔ RetryIsDue config v.trace t := by
  have hbackoff := h.backoff
  unfold RetryIsDue
  cases hfailures : failuresSinceConnect v.trace with
  | nil =>
    rw [hfailures] at hbackoff
    exact iff_of_true (hbackoff.canRetry_nil t) (.inl rfl)
  | cons latest earlier =>
    rw [hfailures] at hbackoff
    rw [hbackoff.canRetry_cons t]
    constructor
    · intro hdue
      exact .inr ⟨latest, rfl, hdue⟩
    · intro hdue
      cases hdue with
      | inl hnil => exact nomatch hnil
      | inr hdue =>
        obtain ⟨latest', hhead, hdue⟩ := hdue
        obtain rfl := Option.some.inj hhead
        exact hdue

/-- A failure after an allowed retry is at least a millisecond after the one before. -/
theorem Scheduled.spaced_cons {v : ModbusView} (h : v.Scheduled config)
    (hclock : SteadyClock env) {tick n : Nat} (hn : tick ≤ n)
    (hretry : v.backoff.canRetry (env.steadyNow tick) = true) :
    ((failuresSinceConnect v.trace).length : Int) * nanosecondsPerMillisecond ≤
      (env.steadyNow n).toInt + 2 ^ 63 := by
  have hbackoff := h.backoff
  have hlow := (env.steadyNow n).le_toInt
  cases hfailures : failuresSinceConnect v.trace with
  | nil =>
    rw [List.length_nil]
    simp only [nanosecondsPerMillisecond]
    omega
  | cons latest earlier =>
    have hspaced := h.spaced latest earlier hfailures
    rw [hfailures] at hbackoff
    -- the retry came at least one positive delay after `latest`, and the failure after it
    have hdue := (hbackoff.canRetry_cons _).mp hretry
    have hdelay := cappedDoubling_pos hbackoff.positive hbackoff.ordered earlier.length
    have hmonotone := hclock.monotone tick n hn
    rw [List.length_cons]
    simp only [nanosecondsPerMillisecond] at hspaced hdue ⊢
    push_cast
    omega

/-! ## The calls keep it -/

theorem scheduled_of_attempt {v v' : ModbusView} {tick : Nat} {result : Bool}
    (h : v.Scheduled config) (hclock : SteadyClock env) (hconnected : v.connected = false)
    (hretry : v.backoff.canRetry (env.steadyNow tick) = true)
    (hattempt : v.Attempt env tick v' result) : v'.Scheduled config := by
  have hsettled := settled_of_attempt h.settled hconnected hattempt
  cases hattempt with
  | refused => exact h
  | failed n hn now =>
    constructor
    case settled => exact hsettled
    case backoff =>
      exact After.recordFailure h.backoff (farEnough hclock n) h.count
    case connected =>
      intro hup
      exact absurd (hup.symm.trans hconnected) (by decide)
    case spaced =>
      intro latest earlier heq
      obtain ⟨rfl, rfl⟩ := List.cons.inj heq
      exact h.spaced_cons hclock hn hretry
  | accepted =>
    constructor
    case settled => exact hsettled
    case backoff => exact h.backoff.toConfigured.reset
    case connected => exact fun _ => rfl
    case spaced => exact fun _ _ heq => nomatch heq

theorem scheduled_of_pass {v v' : ModbusView} {tick : Nat} (h : v.Scheduled config)
    (hclock : SteadyClock env) (hconnected : v.connected = true)
    (hpass : v.Pass env arithmetic config tick v') : v'.Scheduled config := by
  have hsettled := settled_of_pass h.settled hpass
  have hnone := h.connected hconnected
  cases hpass with
  | passed => exact ⟨hsettled, h.backoff, h.connected, h.spaced⟩
  | timedOut reads tags n =>
    constructor
    case settled => exact hsettled
    case backoff => exact After.recordFailure h.backoff (farEnough hclock n) h.count
    case connected => exact fun hup => nomatch hup
    case spaced =>
      -- the first failure of the connection
      intro latest earlier heq
      obtain ⟨rfl, rfl⟩ := List.cons.inj heq
      have hlow := (env.steadyNow n).le_toInt
      show ((failuresSinceConnect v.trace).length : Int) * _ ≤ _
      rw [hnone, List.length_nil]
      simp only [nanosecondsPerMillisecond]
      omega

theorem scheduled_of_call {v v' : ModbusView} {tick : Nat} {call : ModbusCall}
    (h : v.Scheduled config) (hclock : SteadyClock env) (hcall : call ≠ .stop)
    (hperformed : v.Call env arithmetic config tick call v') : v'.Scheduled config := by
  cases hperformed with
  | alreadyStarted | waiting => exact h
  | unreachable _ hconnected hretry hattempt =>
    exact scheduled_of_attempt h hclock hconnected hretry hattempt
  | reconnected _ hconnected hretry hattempt hpass =>
    have hscheduled := scheduled_of_attempt h hclock hconnected hretry hattempt
    cases hattempt
    exact scheduled_of_pass hscheduled hclock rfl hpass
  | polled hconnected hpass => exact scheduled_of_pass h hclock hconnected hpass
  | stopped => exact absurd rfl hcall

/-! ## When a call connects -/

/-- A call of a disconnected plugin connects exactly when the backoff allows it. -/
theorem callsConnect_iff {v v' : ModbusView} {tick : Nat} {call : ModbusCall}
    (h : v.Scheduled config) (hconnected : v.connected = false) (hcall : call ≠ .stop)
    (hperformed : v.Call env arithmetic config tick call v') :
    CallsConnect v.trace v'.trace ↔ v.backoff.canRetry (env.steadyNow tick) = true := by
  have hdown := (h.settled.down hconnected).ne_connected
  cases hperformed with
  | alreadyStarted hup => exact absurd (hup.symm.trans hconnected) (by decide)
  | polled hup => exact absurd (hup.symm.trans hconnected) (by decide)
  | stopped => exact absurd rfl hcall
  | waiting _ _ hwait =>
    rw [hwait]
    constructor
    · -- the call has added nothing to the trace
      rintro ⟨accepted, hmem⟩
      rw [newEvents_self] at hmem
      cases hmem
    · exact fun hretry => nomatch hretry
  | unreachable _ _ hretry hattempt =>
    apply iff_of_true _ hretry
    cases hattempt with
    -- the state machine refuses no attempt of a plugin that is down
    | refused hstate => exact absurd hstate hdown
    | failed n hn now =>
      have hnew := newEvents_append
        [.failureRecorded (env.steadyNow n), .connectCalled false] v.trace
      exact ⟨false, hnew ▸ by simp⟩
  | reconnected _ _ hretry hattempt hpass =>
    apply iff_of_true _ hretry
    cases hattempt
    cases hpass with
    | passed reads =>
      have hnew := newEvents_append [.polled reads, .connectCalled true] v.trace
      exact ⟨true, hnew ▸ by simp⟩
    | timedOut reads tags n =>
      have hnew := newEvents_append
        [.failureRecorded (env.steadyNow n), .polled reads, .connectCalled true] v.trace
      exact ⟨true, hnew ▸ by simp⟩

/-! ## What a call records -/

/-- A pass of a connected view, after the events of the connect if there was one. -/
theorem callEvents_of_pass {v v₁ v' : ModbusView} {tick : Nat} (hstate : v₁.state = .connected)
    (htrace : v₁.trace = connectsBeforePass v.connected ++ v.trace)
    (hpass : v₁.Pass env arithmetic config tick v') :
    CallEvents env tick v.connected v.state v'.state (newEvents v.trace v'.trace) := by
  cases hpass with
  | passed reads tags =>
    have hnew : newEvents v.trace (v₁.passed reads tags).trace =
        .polled reads :: connectsBeforePass v.connected := by
      rw [passed, htrace]
      exact newEvents_append (.polled reads :: connectsBeforePass v.connected) v.trace
    have hpassed : (v₁.passed reads tags).state = .connected := hstate
    rw [hnew, hpassed]
    exact .polled reads
  | timedOut reads tags n hn now =>
    have hnew : newEvents v.trace (v₁.passTimedOut reads tags (env.steadyNow n) now).trace =
        .failureRecorded (env.steadyNow n) :: .polled reads ::
          connectsBeforePass v.connected := by
      rw [passTimedOut, htrace]
      exact newEvents_append (.failureRecorded (env.steadyNow n) :: .polled reads ::
        connectsBeforePass v.connected) v.trace
    rw [hnew]
    exact .timedOut reads n hn

/-- What a call adds to the trace of a settled view. -/
theorem callEvents_of_call {v v' : ModbusView} {tick : Nat} {call : ModbusCall}
    (hsettled : v.Settled) (hcall : call ≠ .stop)
    (hperformed : v.Call env arithmetic config tick call v') :
    CallEvents env tick v.connected v.state v'.state (newEvents v.trace v'.trace) := by
  cases hperformed with
  | alreadyStarted | waiting =>
    rw [newEvents_self]
    exact .nothing
  | unreachable _ hconnected _ hattempt =>
    cases hattempt with
    | refused =>
      rw [newEvents_self]
      exact .nothing
    | failed n hn now =>
      have hnew : newEvents v.trace (v.attemptFailed (env.steadyNow n) now).trace =
          [.failureRecorded (env.steadyNow n), .connectCalled false] :=
        newEvents_append [.failureRecorded (env.steadyNow n), .connectCalled false] v.trace
      rw [hnew]
      exact .refused n hn hconnected
  | reconnected _ hconnected _ hattempt hpass =>
    cases hattempt
    exact callEvents_of_pass rfl (by rw [hconnected]; rfl) hpass
  | polled hconnected hpass =>
    have hstate : v.state = .connected := by
      rcases hsettled with hup | hdown
      · exact hup.2
      · exact absurd (hconnected.symm.trans hdown.1) (by decide)
    exact callEvents_of_pass hstate (by rw [hconnected]; rfl) hpass
  | stopped => exact absurd rfl hcall

/-- A plugin that `initialize` has set up is on schedule. -/
theorem scheduled_initial {manager : DeviceManager} {backoff : ReconnectBackoff}
    (hadopts : AdoptsDisconnected config manager)
    (hcreated : ReconnectBackoff.create config.reconnectInitialDelayMs.toInt64
      config.reconnectMaximumDelayMs.toInt64 = some backoff) :
    (ModbusView.initial (adoptedDevice config manager) backoff).Scheduled config := by
  have hdelay := config.reconnectMaximumDelayMs.toInt_lt
  have hnew := after_create (by
    rw [Int32.toInt_toInt64]
    simp only [nanosecondsPerMillisecond]
    omega) hcreated
  rw [Int32.toInt_toInt64, Int32.toInt_toInt64] at hnew
  constructor
  case settled => exact .inr ⟨rfl, .inl (adoptedDevice_disconnected hadopts)⟩
  case backoff => exact hnew
  case connected => exact fun _ => rfl
  case spaced =>
    intro _ _ heq
    cases heq

end ModbusView

/-- In every run of `start` and `pollOnce`: a call of a disconnected plugin whose clock
    reads `t` calls `modbus_connect` if and only if a retry is due at `t`; the failures that
    a call records are those of `CallEvents`; the state machine allows the attempt; and
    `recordFailure` does not wrap, at any reading, now or after a `reset`. -/
theorem modbus_retry_schedule (hclock : SteadyClock env) {plugin : ModbusPlugin}
    (h : (modbusSystem env arithmetic config (AdoptsDisconnected config)).Reachable
      (fun _ call => call ≠ .stop) plugin) :
    (∀ call, call ≠ .stop → plugin.connected = false →
      (CallsConnect plugin.trace (plugin.perform env arithmetic call).trace ↔
        RetryIsDue config plugin.trace (env.steadyNow plugin.tick))) ∧
      (∀ call, call ≠ .stop → CallEvents env plugin.tick plugin.connected
        plugin.stateMachine.state (plugin.perform env arithmetic call).stateMachine.state
        (newEvents plugin.trace (plugin.perform env arithmetic call).trace)) ∧
      (plugin.connected = false → (plugin.transitionTo env .connecting).2 = true) ∧
      (∀ n, plugin.reconnectBackoff.RecordsExactly (env.steadyNow n)) ∧
      ∀ n, plugin.reconnectBackoff.reset.RecordsExactly (env.steadyNow n) := by
  obtain ⟨hvalid, v, hshows, hscheduled⟩ := view_of_reachable (· ≠ .stop)
    (ModbusView.Scheduled config)
    (fun _ _ hadopts _ hcreated => ModbusView.scheduled_initial hadopts hcreated)
    (fun _ _ _ _ hscheduled hcall hperformed =>
      ModbusView.scheduled_of_call hscheduled hclock hcall hperformed) h
  refine ⟨?_, ?_, ?_, ?_, ?_⟩
  · intro call hcall hconnected
    -- the view decides what the call does
    rw [hshows.connected] at hconnected
    obtain ⟨v', hperformed, hshows'⟩ := hshows.perform env hvalid arithmetic call
    rw [hshows.trace, hshows'.trace, ← hscheduled.canRetry_iff]
    exact ModbusView.callsConnect_iff hscheduled hconnected hcall hperformed
  · intro call hcall
    obtain ⟨v', hperformed, hshows'⟩ := hshows.perform env hvalid arithmetic call
    rw [hshows.connected, hshows.state, hshows.trace, hshows'.state, hshows'.trace]
    exact ModbusView.callEvents_of_call hscheduled.settled hcall hperformed
  · intro hconnected
    rw [hshows.connected] at hconnected
    exact (hshows.beginAttempt env (hscheduled.settled.down hconnected).ne_connected).1
  · intro n
    rw [hshows.backoff]
    exact After.exact hscheduled.backoff (ModbusView.farEnough hclock n) hscheduled.count
  · intro n
    rw [hshows.backoff]
    exact After.exact hscheduled.backoff.toConfigured.reset
      (ModbusView.farEnough hclock n) (by decide)

theorem sampleEnvironment_clock : SteadyClock sampleEnvironment := by
  have hread (n : Nat) :
      (sampleEnvironment.steadyNow n).toInt = (min n 100 * 100000000 : Nat) := by
    rw [sampleEnvironment, Int64.toInt_ofNat_of_lt]
    omega
  constructor
  case monotone =>
    intro m n hle
    rw [hread, hread]
    omega
  case far =>
    intro n
    rw [hread]
    simp only [nanosecondsPerMillisecond]
    omega

/-- After the refused connection, which is recorded, the next call waits and makes no
    attempt. -/
theorem modbus_retry_schedule_after_refusal :
    ∃ plugin : ModbusPlugin, plugin.connected = false ∧
      (failuresSinceConnect plugin.trace).length = 1 ∧
      (CallsConnect plugin.trace
          (plugin.perform sampleEnvironment sampleArithmetic .pollOnce).trace ↔
        RetryIsDue {} plugin.trace (sampleEnvironment.steadyNow plugin.tick)) := by
  obtain ⟨plugin, -, hreach, hdown⟩ := TransitionSystem.exists_of_run
    (modbusSystem sampleEnvironment sampleArithmetic {} (AdoptsDisconnected {}))
    (fun _ call => call ≠ .stop) [.start]
    (fun plugin => plugin.connected = false ∧ (failuresSinceConnect plugin.trace).length = 1)
    ⟨_, _, sampleManager_adoptsDisconnected, samplePlugin_created⟩ (by decide)
  rw [decide_eq_true_eq] at hdown
  obtain ⟨hdown, hfailures⟩ := hdown
  exact ⟨plugin, hdown, hfailures,
    (modbus_retry_schedule sampleEnvironment_clock hreach).1 .pollOnce (by decide) hdown⟩

end EdgeLink
