import EdgeLink.Spec.ModbusPluginSteps

/-! # Connection and data of the Modbus plugin

Two properties of every run of `start`, `pollOnce` and `stop` on a device that only the
plugin changes.

* `modbus_connection_invariant`: the plugin's flag, the state machine and the device
  manager agree on whether the device is connected, and a device that is not connected
  can be connected again.
* `no_stale_good_data`: a tag is `Good` only while the plugin is connected, and only with
  the value read in the last polling pass.

Each is an invariant of `ModbusView`, proved by cases on `ModbusView.Call`. -/

namespace EdgeLink

variable {env : ModbusEnvironment} {arithmetic : DoubleArithmetic} {config : ModbusTcpConfig}

/-! ## A sample run

A device with the default configuration that refuses the first connection and then answers
every read with the register value 7. -/

/-- The clock advances by a tenth of a second with each interaction. -/
def sampleEnvironment : ModbusEnvironment where
  newTcp _ := true
  setSlave _ := 0
  connect tick := if tick < 10 then -1 else 0
  readRegisters _ := ⟨1, 7, 0⟩
  steadyNow tick := Int64.ofNat (min tick 100 * 100000000)
  systemNow _ := 0

/-- Arithmetic on the value 7 with scale 1 and offset 0. -/
def sampleArithmetic : DoubleArithmetic where
  ofInt n := if n = 7 then 0x401C000000000000 else 0
  ofFloat _ := 0
  multiply a _ := a
  add a _ := a

/-- A manager without devices. -/
def sampleManager : DeviceManager where
  devices := fun _ => none

/-- The plugin that `initialize` makes. -/
def samplePlugin : ModbusPlugin :=
  (ModbusPlugin.initializePlugin sampleEnvironment {} sampleManager 0).get (by decide)

theorem samplePlugin_created :
    ModbusPlugin.initializePlugin sampleEnvironment {} sampleManager 0 = some samplePlugin :=
  (Option.some_get _).symm

/-! ## The connection -/

/-- The states from which the state machine lets an attempt begin. -/
def ConnectionState.Down (state : ConnectionState) : Prop :=
  state = .disconnected ∨ state = .timeout ∨ state = .error

theorem ConnectionState.Down.ne_connected {state : ConnectionState} (h : state.Down) :
    state ≠ .connected := by
  rcases h with rfl | rfl | rfl <;> decide

namespace ModbusView

/-- The flag is the state machine's opinion, and no call ends in the middle of an
    attempt. -/
def Settled (v : ModbusView) : Prop :=
  (v.connected = true ∧ v.state = .connected) ∨ (v.connected = false ∧ v.state.Down)

theorem Settled.down {v : ModbusView} (h : v.Settled) (hconnected : v.connected = false) :
    v.state.Down := by
  cases h with
  | inl hup => rw [hconnected] at hup; exact nomatch hup.1
  | inr hdown => exact hdown.2

theorem settled_of_attempt {v v' : ModbusView} {tick : Nat} {result : Bool}
    (hsettled : v.Settled) (hconnected : v.connected = false)
    (h : v.Attempt env tick v' result) : v'.Settled := by
  cases h with
  | refused => exact hsettled
  | failed => exact .inr ⟨hconnected, .inr (.inr rfl)⟩
  | accepted => exact .inl ⟨rfl, rfl⟩

theorem settled_of_pass {v v' : ModbusView} {tick : Nat} (hsettled : v.Settled)
    (h : v.Pass env arithmetic config tick v') : v'.Settled := by
  cases h with
  | passed => exact hsettled
  | timedOut => exact .inr ⟨rfl, .inr (.inl rfl)⟩

/-- Every call leaves a settled view. -/
theorem settled_of_call {v v' : ModbusView} {tick : Nat} {call : ModbusCall}
    (hsettled : v.Settled) (h : v.Call env arithmetic config tick call v') : v'.Settled := by
  cases h with
  | alreadyStarted | waiting => exact hsettled
  | unreachable _ hconnected _ hattempt =>
    exact settled_of_attempt hsettled hconnected hattempt
  | reconnected _ hconnected _ hattempt hpass =>
    exact settled_of_pass (settled_of_attempt hsettled hconnected hattempt) hpass
  | polled _ hpass => exact settled_of_pass hsettled hpass
  | stopped => exact .inr ⟨rfl, .inl rfl⟩

end ModbusView

/-- What the device manager records is the state of the view. -/
theorem ModbusPlugin.Shows.records_iff {plugin : ModbusPlugin} {v : ModbusView}
    (h : plugin.Shows config v) (state : ConnectionState) :
    plugin.deviceManager.Records config.deviceId state ↔ v.state = state := by
  obtain ⟨device, hfind, hstate, -⟩ := h.device
  rw [DeviceManager.Records, hfind, Option.map_some, hstate]
  exact Option.some_inj

/-- A device that `initialize` finds is `Disconnected`. -/
def AdoptsDisconnected (config : ModbusTcpConfig) (manager : DeviceManager) : Prop :=
  ∀ device, manager.findDevice config.deviceId = some device → device.state = .disconnected

theorem adoptedDevice_disconnected {manager : DeviceManager}
    (h : AdoptsDisconnected config manager) :
    (adoptedDevice config manager).state = .disconnected := by
  cases hfind : manager.findDevice config.deviceId with
  | none => rw [adoptedDevice, hfind]; rfl
  | some device => rw [adoptedDevice, hfind]; exact h device hfind

theorem sampleManager_adoptsDisconnected : AdoptsDisconnected {} sampleManager :=
  fun _ hfind => nomatch hfind

/-- After every run the flag, the state machine and the manager agree, the state is never
    left in `Connecting`, and `stop` disconnects all three. -/
theorem modbus_connection_invariant {plugin : ModbusPlugin}
    (h : (modbusSystem env arithmetic config (AdoptsDisconnected config)).Reachable
      TransitionSystem.anyStep plugin) :
    (plugin.connected = true ↔ plugin.stateMachine.state = .connected) ∧
      (plugin.stateMachine.state = .connected ↔
        plugin.deviceManager.Records config.deviceId .connected) ∧
      plugin.deviceManager.Records config.deviceId plugin.stateMachine.state ∧
      (plugin.connected = false → plugin.stateMachine.state.Down) ∧
      (plugin.stop env).connected = false ∧
      (plugin.stop env).stateMachine.state = .disconnected ∧
      (plugin.stop env).deviceManager.Records config.deviceId .disconnected := by
  obtain ⟨-, v, hshows, hsettled⟩ := view_of_reachable (fun _ => True)
    ModbusView.Settled
    (fun manager backoff hadopts _ _ =>
      .inr ⟨rfl, .inl (adoptedDevice_disconnected hadopts)⟩)
    (fun _ _ _ _ hsettled _ hcall => ModbusView.settled_of_call hsettled hcall) h
  have hstopped := hshows.stop env
  rw [hshows.connected, hshows.state, hshows.records_iff, hshows.records_iff,
    hstopped.records_iff, hstopped.connected, hstopped.state]
  -- the three are one field of the view now, and only the flag is left to compare
  refine ⟨?_, Iff.rfl, rfl, fun hconnected => hsettled.down hconnected, rfl, rfl, rfl⟩
  constructor
  · intro hconnected
    cases hsettled with
    | inl hup => exact hup.2
    | inr hdown => rw [hconnected] at hdown; exact nomatch hdown.1
  · intro hstate
    cases hsettled with
    | inl hup => exact hup.1
    | inr hdown => exact absurd hstate hdown.2.ne_connected

/-- The sample plugin after its first failed attempt. -/
theorem modbus_connection_invariant_after_refusal :
    ∃ plugin : ModbusPlugin, plugin.stateMachine.state = .error ∧
      (plugin.connected = true ↔ plugin.stateMachine.state = .connected) := by
  obtain ⟨plugin, -, hreach, herror⟩ := TransitionSystem.exists_of_run
    (modbusSystem sampleEnvironment sampleArithmetic {} (AdoptsDisconnected {}))
    TransitionSystem.anyStep [.start]
    (fun plugin => decide (plugin.stateMachine.state = .error))
    ⟨_, _, sampleManager_adoptsDisconnected, samplePlugin_created⟩ (by decide)
  exact ⟨plugin, of_decide_eq_true herror, (modbus_connection_invariant hreach).1⟩

/-! ## The data -/

/-- No tag has quality `Good`. -/
def NoGoodTag (tags : Bytes → Option Tag) : Prop :=
  ∀ name tag, tags name = some tag → tag.quality ≠ .good

/-- A tag holds what a read of the pass was decoded to. -/
def HoldsReadValue (arithmetic : DoubleArithmetic) (config : ModbusTcpConfig)
    (pass : List RegisterRead) (name : Bytes) (tag : Tag) : Prop :=
  ∃ read ∈ pass, read.tagConfig ∈ config.tags ∧ read.tagConfig.name = name ∧
    read.Responded ∧
    ∃ value, decodeValue arithmetic read.answer.registers read.tagConfig = some value ∧
      tag.value = .double value

theorem noGoodTag_requalify (tags : Bytes → Option Tag) {quality : Quality}
    (hquality : quality ≠ .good) (now : Int64) : NoGoodTag (requalify tags quality now) := by
  intro name tag htag
  obtain ⟨old, -, rfl⟩ := Option.map_eq_some_iff.mp htag
  exact hquality

namespace ModbusView

/-- The flag says connected only in the state `Connected`; without it no tag is `Good`,
    and a `Good` tag is from the last pass. -/
structure Fresh (arithmetic : DoubleArithmetic) (config : ModbusTcpConfig)
    (v : ModbusView) : Prop where
  up : v.connected = true → v.state = .connected
  down : v.connected = false → NoGoodTag v.tags
  fresh : ∀ name tag, v.tags name = some tag → tag.quality = .good →
    HoldsReadValue arithmetic config (latestPass v.trace) name tag

/-- A view without any `Good` tag is fresh. -/
theorem fresh_of_noGoodTag {v : ModbusView} (hup : v.connected = true → v.state = .connected)
    (h : NoGoodTag v.tags) : v.Fresh arithmetic config :=
  ⟨hup, fun _ => h, fun name tag htag hgood => absurd hgood (h name tag htag)⟩

theorem fresh_of_attempt {v v' : ModbusView} {tick : Nat} {result : Bool}
    (hfresh : v.Fresh arithmetic config) (hconnected : v.connected = false)
    (h : v.Attempt env tick v' result) : v'.Fresh arithmetic config := by
  cases h with
  | refused => exact hfresh
  | failed =>
    apply fresh_of_noGoodTag
    · intro hup
      exact absurd (hup.symm.trans hconnected) (by decide)
    · exact noGoodTag_requalify _ (by decide) _
  | accepted =>
    -- the tags are those from before the attempt, and none of them was `Good`
    exact fresh_of_noGoodTag (fun _ => rfl) (hfresh.down hconnected)

/-- After a pass a `Good` tag is one that the pass has read: the others were not `Good`
    before it, or they are not among the tags of the device. -/
theorem fresh_of_pass {v v' : ModbusView} {tick : Nat} (hfresh : v.Fresh arithmetic config)
    (hconnected : v.connected = true)
    (hother : ∀ name tag, v.tags name = some tag → tag.quality = .good →
      name ∈ config.tags.map ModbusTagConfig.name)
    (h : v.Pass env arithmetic config tick v') : v'.Fresh arithmetic config := by
  cases h with
  | timedOut =>
    exact fresh_of_noGoodTag (fun hup => nomatch hup) (noGoodTag_requalify _ (by decide) _)
  | passed reads tags hreads htags =>
    constructor
    case up => exact hfresh.up
    case down =>
      intro hdown
      exact absurd (hconnected.symm.trans hdown) (by decide)
    case fresh =>
      intro name tag htag hgood
      show HoldsReadValue arithmetic config reads name tag
      by_cases hread : ∃ read ∈ reads, read.tagConfig.name = name
      · -- the pass has read the tag, and wrote what was read
        obtain ⟨read, hmem, rfl⟩ := hread
        obtain ⟨now, hwritten⟩ := htags.read read hmem
        obtain rfl := Option.some.inj (hwritten.symm.trans htag)
        obtain ⟨hresponded, value, hvalue, hholds⟩ := RegisterRead.tag_good hgood
        have hconfig : read.tagConfig ∈ config.tags := by
          rw [← hreads]
          exact List.mem_map_of_mem hmem
        exact ⟨read, hmem, hconfig, rfl, hresponded, value, hvalue, hholds⟩
      · -- a tag that was not read is not configured, so it was not `Good`
        have hkept : v.tags name = some tag := by
          rw [← htags.other name fun read hmem heq => hread ⟨read, hmem, heq⟩]
          exact htag
        obtain ⟨tagConfig, hconfig, rfl⟩ := List.mem_map.mp (hother name tag hkept hgood)
        rw [← hreads] at hconfig
        obtain ⟨read, hmem, rfl⟩ := List.mem_map.mp hconfig
        exact absurd ⟨read, hmem, rfl⟩ hread

/-- A fresh view has no `Good` tag outside the configuration. -/
theorem Fresh.configured {v : ModbusView} (h : v.Fresh arithmetic config) :
    ∀ name tag, v.tags name = some tag → tag.quality = .good →
      name ∈ config.tags.map ModbusTagConfig.name := by
  intro name tag htag hgood
  obtain ⟨read, -, hconfig, rfl, -⟩ := h.fresh name tag htag hgood
  exact List.mem_map_of_mem hconfig

/-- Every call leaves a fresh view. -/
theorem fresh_of_call {v v' : ModbusView} {tick : Nat} {call : ModbusCall}
    (hfresh : v.Fresh arithmetic config) (h : v.Call env arithmetic config tick call v') :
    v'.Fresh arithmetic config := by
  cases h with
  | alreadyStarted | waiting => exact hfresh
  | unreachable _ hconnected _ hattempt =>
    exact fresh_of_attempt hfresh hconnected hattempt
  | reconnected _ hconnected _ hattempt hpass =>
    have hconnectedView := fresh_of_attempt hfresh hconnected hattempt
    -- only the accepted attempt goes on to a pass
    cases hattempt
    exact fresh_of_pass hconnectedView rfl hconnectedView.configured hpass
  | polled hconnected hpass => exact fresh_of_pass hfresh hconnected hfresh.configured hpass
  | stopped now =>
    apply fresh_of_noGoodTag
    · intro hup
      cases hup
    · simp only [stopped]
      split
      · rename_i hstate
        -- a stopped plugin was not connected
        apply hfresh.down
        by_contra hconnected
        have hstate' := hfresh.up (by simpa using hconnected)
        rw [hstate] at hstate'
        cases hstate'
      · exact noGoodTag_requalify _ (by decide) _

end ModbusView

/-- A device that `initialize` finds has no `Good` tag. -/
def AdoptsNoGoodTag (config : ModbusTcpConfig) (manager : DeviceManager) : Prop :=
  ∀ device, manager.findDevice config.deviceId = some device → NoGoodTag device.tags

theorem sampleManager_adoptsNoGoodTag : AdoptsNoGoodTag {} sampleManager :=
  fun _ hfind => nomatch hfind

/-- A plugin that `initialize` has set up shows no `Good` tag. -/
theorem ModbusView.fresh_initial {manager : DeviceManager}
    (hadopts : AdoptsNoGoodTag config manager) (backoff : ReconnectBackoff) :
    (ModbusView.initial (adoptedDevice config manager) backoff).Fresh arithmetic config := by
  apply fresh_of_noGoodTag
  · intro hup
    cases hup
  · cases hfind : manager.findDevice config.deviceId with
    | none =>
      intro name tag htag
      rw [initial, adoptedDevice, hfind] at htag
      cases htag
    | some device =>
      rw [initial, adoptedDevice, hfind]
      exact hadopts device hfind

/-- After every run a `Good` tag means that the plugin is connected and that the tag holds
    what a read of the last polling pass was decoded to. -/
theorem no_stale_good_data {plugin : ModbusPlugin}
    (h : (modbusSystem env arithmetic config (AdoptsNoGoodTag config)).Reachable
      TransitionSystem.anyStep plugin) {device : Device}
    (hdevice : plugin.deviceManager.findDevice config.deviceId = some device) :
    (plugin.connected = false → NoGoodTag device.tags) ∧
      ∀ name tag, device.tags name = some tag → tag.quality = .good →
        HoldsReadValue arithmetic config (latestPass plugin.trace) name tag := by
  obtain ⟨-, v, hshows, hfresh⟩ := view_of_reachable (fun _ => True)
    (ModbusView.Fresh arithmetic config)
    (fun _ backoff hadopts _ _ => ModbusView.fresh_initial hadopts backoff)
    (fun _ _ _ _ hfresh _ hcall => ModbusView.fresh_of_call hfresh hcall) h
  obtain ⟨device', hfind, -, htags⟩ := hshows.device
  obtain rfl := Option.some.inj (hfind.symm.trans hdevice)
  rw [htags, hshows.connected, hshows.trace]
  exact ⟨hfresh.down, hfresh.fresh⟩

/-- The sample plugin with a `Good` tag, once the delay of the refused connection is
    over. -/
theorem no_stale_good_data_after_retry :
    ∃ (plugin : ModbusPlugin) (device : Device) (tag : Tag),
      plugin.deviceManager.findDevice (ascii "modbus-device-01") = some device ∧
        device.tags (ascii "holding-register-0") = some tag ∧ tag.quality = .good ∧
        HoldsReadValue sampleArithmetic {} (latestPass plugin.trace)
          (ascii "holding-register-0") tag := by
  obtain ⟨plugin, -, hreach, hgood⟩ := TransitionSystem.exists_of_run
    (modbusSystem sampleEnvironment sampleArithmetic {} (AdoptsNoGoodTag {}))
    TransitionSystem.anyStep
    [.start, .pollOnce, .pollOnce, .pollOnce, .pollOnce, .pollOnce]
    (fun plugin =>
      (plugin.deviceManager.findDevice (ascii "modbus-device-01")).any fun device =>
        (device.tags (ascii "holding-register-0")).any fun tag =>
          decide (tag.quality = .good))
    ⟨_, _, sampleManager_adoptsNoGoodTag, samplePlugin_created⟩ (by decide)
  obtain ⟨device, hdevice, hgood⟩ := (Option.any_eq_true _ _).mp hgood
  obtain ⟨tag, htag, hgood⟩ := (Option.any_eq_true _ _).mp hgood
  have hgood : tag.quality = .good := of_decide_eq_true hgood
  exact ⟨plugin, device, tag, hdevice, htag, hgood,
    (no_stale_good_data hreach hdevice).2 _ tag htag hgood⟩

end EdgeLink
