import EdgeLink.Native.ModbusPluginObject
import EdgeLink.Spec.ModbusPluginCorrect
import EdgeLink.Spec.ModbusRtuTransportCorrect

/-! # Life of the TCP contexts

A `ModbusPluginObject` is called in any order, before and after `initialize`, while other
components change the manager it shares with them and libmodbus answers what it likes.

* `Refines`: a function of the object runs to its end and does what the function of
  `Native/ModbusPlugin` does, with calls that keep `Holds`.
* `connectTransport_refines`, …, `stop_refines`: so does each function of an initialized object.
* `initializePlugin_refines`: `initialize` makes an initialized object or leaves no context.
* `perform_runs`: what one call of a living object does.
* `modbus_context_lifetime`: the result over runs. -/

namespace EdgeLink

namespace ModbusPluginObject

open SessionTrace

variable (env : ModbusEnvironment) {config : ModbusTcpConfig} {plugin : ModbusPlugin}
  {context : Nat} {calls : ModbusCalls}

/-! ## Initialized objects -/

/-- The object of a plugin that `initialize` has set up. -/
def ofPlugin (plugin : ModbusPlugin) (context : Nat) (calls : ModbusCalls) :
    ModbusPluginObject where
  config := plugin.config
  deviceManager := plugin.deviceManager
  stateMachine := some plugin.stateMachine
  reconnectBackoff := some plugin.reconnectBackoff
  context := some context
  connected := plugin.connected
  tick := plugin.tick
  calls := calls

/-- The registers of a tag. -/
def requestOf (tag : ModbusTagConfig) : RegisterRequest :=
  ⟨tag.registerAddress, registerCount tag.dataType⟩

/-- Only registers of configured tags were asked for. -/
def ReadsTags (config : ModbusTcpConfig) (calls : ModbusCalls) : Prop :=
  ∀ request ∈ calls.requests, ∃ tag ∈ config.tags, request = requestOf tag

/-- What holds of an initialized object between two calls. -/
structure Holds (config : ModbusTcpConfig) (plugin : ModbusPlugin) (context : Nat)
    (calls : ModbusCalls) : Prop where
  config_eq : plugin.config = config
  owns : Owns calls (some context) plugin.connected
  reads : ReadsTags config calls

/-- The function of the object has run to its end, with the effect and the result of the
    function of the plugin. -/
def Refines (config : ModbusTcpConfig) (context : Nat)
    (result : Option (ModbusPluginObject × Bool)) (expected : ModbusPlugin × Bool) : Prop :=
  ∃ calls, result = some (ofPlugin expected.1 context calls, expected.2) ∧
    Holds config expected.1 context calls

/-! ### The helpers -/

theorem Holds.transitionTo (h : Holds config plugin context calls) (nextState : ConnectionState) :
    Holds config (plugin.transitionTo env nextState).1 context calls :=
  ⟨h.config_eq, h.owns, h.reads⟩

theorem Holds.updateAllTagQualities (h : Holds config plugin context calls) (quality : Quality) :
    Holds config (plugin.updateAllTagQualities env quality) context calls :=
  ⟨h.config_eq, h.owns, h.reads⟩

theorem Holds.recordFailure (h : Holds config plugin context calls) :
    Holds config (plugin.recordFailure env) context calls :=
  ⟨h.config_eq, h.owns, h.reads⟩

theorem Holds.canRetry (h : Holds config plugin context calls) :
    Holds config (plugin.canRetry env).1 context calls :=
  ⟨h.config_eq, h.owns, h.reads⟩

theorem Holds.checkTimeout (h : Holds config plugin context calls) :
    Holds config (plugin.checkTimeout env).1 context calls :=
  ⟨h.config_eq, h.owns, h.reads⟩

/-- `modbus_close` of a connected plugin. -/
theorem Holds.closed (h : Holds config plugin context calls)
    (hconnected : plugin.connected = true) :
    Holds config { plugin with connected := false } context (.closed (some context) :: calls) := by
  have howns := h.owns
  rw [hconnected] at howns
  exact ⟨h.config_eq, howns.closed, h.reads⟩

/-- `modbus_connect` of a plugin that is not connected, once the flag is set. -/
theorem callConnect_accepted (h : Holds config plugin context calls)
    (hconnected : plugin.connected = false) (haccepted : (plugin.callConnect env).2 = true) :
    (ofPlugin plugin context calls).callConnect env =
        (ofPlugin (plugin.callConnect env).1 context (.connected (some context) :: calls), true) ∧
      Holds config { (plugin.callConnect env).1 with connected := true } context
        (.connected (some context) :: calls) := by
  have howns := h.owns
  rw [hconnected] at howns
  have hanswer : ¬ env.connect plugin.tick < 0 := by
    simpa [ModbusPlugin.callConnect] using haccepted
  refine ⟨?_, h.config_eq, howns.connect, h.reads⟩
  simp only [callConnect, ofPlugin, ModbusPlugin.callConnect, hanswer, if_false]

theorem callConnect_refused (h : Holds config plugin context calls)
    (haccepted : (plugin.callConnect env).2 = false) :
    (ofPlugin plugin context calls).callConnect env =
        (ofPlugin (plugin.callConnect env).1 context (.used (some context) :: calls), false) ∧
      Holds config (plugin.callConnect env).1 context (.used (some context) :: calls) := by
  have hanswer : env.connect plugin.tick < 0 := by
    simpa [ModbusPlugin.callConnect] using haccepted
  refine ⟨?_, h.config_eq, h.owns.used, h.reads⟩
  simp only [callConnect, ofPlugin, ModbusPlugin.callConnect, hanswer, if_true]

/-! ### Connecting -/

theorem connectTransport_refines (h : Holds config plugin context calls) :
    Refines config context ((ofPlugin plugin context calls).connectTransport env)
      (plugin.connectTransport env) := by
  unfold connectTransport ModbusPlugin.connectTransport
  cases hconnected : plugin.connected with
  | true =>
    rw [if_pos (show (ofPlugin plugin context calls).connected = true from hconnected), if_pos rfl]
    exact ⟨calls, rfl, h⟩
  | false =>
    have hobject : ¬ (ofPlugin plugin context calls).connected = true := by
      simp [ofPlugin, hconnected]
    rw [if_neg hobject, if_neg Bool.false_ne_true]
    have hbegin : (ofPlugin plugin context calls).transitionTo env .connecting =
        some (ofPlugin (plugin.transitionTo env .connecting).1 context calls,
          (plugin.transitionTo env .connecting).2) := rfl
    have hbegun := h.transitionTo env .connecting
    have hkept : (plugin.transitionTo env .connecting).1.connected = false := hconnected
    rw [hbegin]
    generalize plugin.transitionTo env .connecting = begun at hbegun hkept
    obtain ⟨plugin, allowed⟩ := begun
    cases allowed with
    | false => exact ⟨calls, rfl, hbegun⟩
    | true =>
      dsimp only
      cases haccepted : (plugin.callConnect env).2 with
      | false =>
        obtain ⟨hcall, hcalled⟩ := callConnect_refused env hbegun haccepted
        rw [hcall]
        generalize plugin.callConnect env = called at haccepted hcalled
        obtain ⟨plugin, accepted⟩ := called
        obtain rfl : accepted = false := haccepted
        exact ⟨_, rfl,
          ((hcalled.transitionTo env .error).updateAllTagQualities env .disconnected).recordFailure
            env⟩
      | true =>
        obtain ⟨hcall, hcalled⟩ := callConnect_accepted env hbegun hkept haccepted
        rw [hcall]
        generalize plugin.callConnect env = called at haccepted hcalled
        obtain ⟨plugin, accepted⟩ := called
        obtain rfl : accepted = true := haccepted
        dsimp only at hcalled ⊢
        have hend : ({ ofPlugin plugin context (.connected (some context) :: calls) with
              connected := true } : ModbusPluginObject).transitionTo env .connected =
            some (ofPlugin (ModbusPlugin.transitionTo env { plugin with connected := true }
                .connected).1 context (.connected (some context) :: calls),
              (ModbusPlugin.transitionTo env { plugin with connected := true } .connected).2) := rfl
        rw [hend]
        have hended := hcalled.transitionTo env .connected
        have hopen : (ModbusPlugin.transitionTo env { plugin with connected := true }
            .connected).1.connected = true := rfl
        generalize ModbusPlugin.transitionTo env { plugin with connected := true }
          .connected = ended at hended hopen
        obtain ⟨plugin, changed⟩ := ended
        cases changed with
        | false => exact ⟨_, rfl, (hended.closed hopen).recordFailure env⟩
        | true => exact ⟨_, rfl, hended.config_eq, hended.owns, hended.reads⟩

/-- A plugin that has connected is connected. -/
theorem connected_of_connectTransport (h : (plugin.connectTransport env).2 = true) :
    (plugin.connectTransport env).1.connected = true := by
  unfold ModbusPlugin.connectTransport at h ⊢
  cases hconnected : plugin.connected with
  | true => simpa using hconnected
  | false =>
    simp only [hconnected, Bool.false_eq_true, if_false] at h ⊢
    generalize plugin.transitionTo env .connecting = begun at h
    obtain ⟨plugin, allowed⟩ := begun
    cases allowed with
    | false => cases h
    | true =>
      dsimp only at h ⊢
      generalize plugin.callConnect env = called at h
      obtain ⟨plugin, accepted⟩ := called
      cases accepted with
      | false => cases h
      | true =>
        dsimp only at h ⊢
        have hopen : (ModbusPlugin.transitionTo env { plugin with connected := true }
            .connected).1.connected = true := rfl
        generalize ModbusPlugin.transitionTo env { plugin with connected := true }
          .connected = ended at h hopen
        obtain ⟨plugin, changed⟩ := ended
        cases changed with
        | false => cases h
        | true => exact hopen

/-! ### Polling -/

section

variable (arithmetic : DoubleArithmetic)

/-- The loop of the object does what the loop of the plugin does. -/
theorem foldl_pollTag (deviceId : Bytes) (pointer : Option Nat) (tags : List ModbusTagConfig)
    (state : ModbusPlugin.PollLoop × ModbusCalls) :
    (tags.foldl (pollTag env arithmetic deviceId pointer) state).1 =
      tags.foldl (ModbusPlugin.pollTag env arithmetic deviceId) state.1 := by
  induction tags generalizing state with
  | nil => rfl
  | cons tag tags ih => exact ih _

/-- Its reads are made over the open connection and ask for registers of the tags. -/
theorem foldl_pollTag_calls (deviceId : Bytes) {tags : List ModbusTagConfig}
    (htags : ∀ tag ∈ tags, tag ∈ config.tags) {state : ModbusPlugin.PollLoop × ModbusCalls}
    (howns : Owns state.2 (some context) true) (hreads : ReadsTags config state.2) :
    Owns (tags.foldl (pollTag env arithmetic deviceId (some context)) state).2
        (some context) true ∧
      ReadsTags config (tags.foldl (pollTag env arithmetic deviceId (some context)) state).2 := by
  induction tags generalizing state with
  | nil => exact ⟨howns, hreads⟩
  | cons tag tags ih =>
    refine ih (fun later hlater => htags later (List.mem_cons_of_mem _ hlater))
      (howns.exchanged _) ?_
    intro request hmem
    rcases List.mem_cons.mp hmem with rfl | hearlier
    · exact ⟨tag, htags tag List.mem_cons_self, rfl⟩
    · exact hreads request hearlier

theorem pollPass_refines (h : Holds config plugin context calls)
    (hconnected : plugin.connected = true) :
    Refines config context ((ofPlugin plugin context calls).pollPass env arithmetic)
      (plugin.pollPass env arithmetic) := by
  have howns := h.owns
  rw [hconnected] at howns
  have hloop : ((ofPlugin plugin context calls).pollTags env arithmetic).1 =
      plugin.pollTags env arithmetic :=
    foldl_pollTag env arithmetic _ _ _ _
  have hcalls : Owns ((ofPlugin plugin context calls).pollTags env arithmetic).2
        (some context) true ∧
      ReadsTags config ((ofPlugin plugin context calls).pollTags env arithmetic).2 :=
    foldl_pollTag_calls env arithmetic plugin.config.deviceId
      (fun tag hmem => h.config_eq ▸ hmem) howns h.reads
  unfold pollPass ModbusPlugin.pollPass
  generalize (ofPlugin plugin context calls).pollTags env arithmetic = polled at hloop hcalls
  obtain ⟨loop, calls'⟩ := polled
  rw [← hloop]
  dsimp only at hcalls ⊢
  have hpolled : Holds config { plugin with
      deviceManager := loop.deviceManager
      tick := loop.tick
      trace := .polled loop.reads :: plugin.trace } context calls' :=
    ⟨h.config_eq, hconnected ▸ hcalls.1, hcalls.2⟩
  split
  · exact ⟨calls', rfl, hpolled.config_eq, hpolled.owns, hpolled.reads⟩
  · have hcheck := hpolled.checkTimeout env
    have hopen : (ModbusPlugin.checkTimeout env { plugin with
        deviceManager := loop.deviceManager
        tick := loop.tick
        trace := .polled loop.reads :: plugin.trace }).1.connected = true := hconnected
    have hobject : ({ ofPlugin plugin context calls with
          deviceManager := loop.deviceManager
          tick := loop.tick
          calls := calls' } : ModbusPluginObject).checkTimeout env =
        some (ofPlugin (ModbusPlugin.checkTimeout env { plugin with
            deviceManager := loop.deviceManager
            tick := loop.tick
            trace := .polled loop.reads :: plugin.trace }).1 context calls',
          (ModbusPlugin.checkTimeout env { plugin with
            deviceManager := loop.deviceManager
            tick := loop.tick
            trace := .polled loop.reads :: plugin.trace }).2) := rfl
    rw [hobject]
    generalize ModbusPlugin.checkTimeout env { plugin with
        deviceManager := loop.deviceManager
        tick := loop.tick
        trace := .polled loop.reads :: plugin.trace } = checked at hcheck hopen
    obtain ⟨plugin, timedOut⟩ := checked
    cases timedOut with
    | false => exact ⟨calls', rfl, hcheck⟩
    | true =>
      exact ⟨_, rfl, ((hcheck.updateAllTagQualities env .timeout).closed hopen).recordFailure env⟩

theorem pollOnce_refines (h : Holds config plugin context calls) :
    Refines config context ((ofPlugin plugin context calls).pollOnce env arithmetic)
      (plugin.pollOnce env arithmetic) := by
  unfold pollOnce ModbusPlugin.pollOnce
  by_cases hconnected : plugin.connected = true
  · rw [if_pos (show (ofPlugin plugin context calls).connected = true from hconnected),
      if_pos hconnected]
    exact pollPass_refines env arithmetic h hconnected
  · rw [if_neg (show ¬ (ofPlugin plugin context calls).connected = true from hconnected),
      if_neg hconnected, if_neg (by simp [ofPlugin])]
    have hretry : (ofPlugin plugin context calls).canRetry env =
        some (ofPlugin (plugin.canRetry env).1 context calls, (plugin.canRetry env).2) := rfl
    rw [hretry]
    have hretried := h.canRetry env
    generalize plugin.canRetry env = retried at hretried
    obtain ⟨plugin, due⟩ := retried
    cases due with
    | false => exact ⟨calls, rfl, hretried⟩
    | true =>
      dsimp only
      obtain ⟨calls', hobject, hattempted⟩ := connectTransport_refines env hretried
      rw [hobject]
      have hopen : (plugin.connectTransport env).2 = true →
          (plugin.connectTransport env).1.connected = true :=
        connected_of_connectTransport env
      generalize plugin.connectTransport env = attempted at hattempted hopen
      obtain ⟨plugin, connected⟩ := attempted
      cases connected with
      | false => exact ⟨calls', rfl, hattempted⟩
      | true => exact pollPass_refines env arithmetic hattempted (hopen rfl)

/-- `start` of an initialized object that is not connected. -/
theorem startInitialized_refines (h : Holds config plugin context calls)
    (hconnected : plugin.connected = false) :
    Refines config context ((ofPlugin plugin context calls).startInitialized env arithmetic)
      (plugin.start env arithmetic) := by
  unfold startInitialized ModbusPlugin.start
  rw [if_neg (by simp [hconnected])]
  have hretry : (ofPlugin plugin context calls).canRetry env =
      some (ofPlugin (plugin.canRetry env).1 context calls, (plugin.canRetry env).2) := rfl
  rw [hretry]
  have hretried := h.canRetry env
  generalize plugin.canRetry env = retried at hretried
  obtain ⟨plugin, due⟩ := retried
  cases due with
  | false => exact ⟨calls, rfl, hretried⟩
  | true =>
    dsimp only
    obtain ⟨calls', hobject, hattempted⟩ := connectTransport_refines env hretried
    rw [hobject]
    generalize plugin.connectTransport env = attempted at hattempted
    obtain ⟨plugin, connected⟩ := attempted
    cases connected with
    | false => exact ⟨calls', rfl, hattempted⟩
    | true =>
      obtain ⟨calls'', hpolled, hkept⟩ := pollOnce_refines env arithmetic hattempted
      exact ⟨calls'', by simp only [hpolled, Option.map_some], hkept⟩

end

/-! ### Stopping -/

/-- `stop` of an initialized object runs to its end. -/
theorem stop_refines (h : Holds config plugin context calls) :
    ∃ calls', (ofPlugin plugin context calls).stop env =
        some (ofPlugin (plugin.stop env) context calls') ∧
      Holds config (plugin.stop env) context calls' ∧ (plugin.stop env).connected = false := by
  obtain ⟨calls', hobject, hkept⟩ : ∃ calls',
      (if (ofPlugin plugin context calls).connected then
        (ofPlugin plugin context calls).closeContext else ofPlugin plugin context calls) =
        ofPlugin { plugin with connected := false } context calls' ∧
      Holds config { plugin with connected := false } context calls' := by
    cases hconnected : plugin.connected with
    | true =>
      exact ⟨_, if_pos hconnected, h.closed hconnected⟩
    | false =>
      refine ⟨calls, ?_, h.config_eq, hconnected ▸ h.owns, h.reads⟩
      rw [if_neg (by simp [ofPlugin, hconnected])]
      simp [ofPlugin, hconnected]
  refine ⟨calls', ?_⟩
  unfold stop ModbusPlugin.stop
  simp only [hobject]
  by_cases hstate : plugin.stateMachine.state = .disconnected
  · have hreport : (ofPlugin { plugin with connected := false } context calls').reportDisconnected
        env = some (ofPlugin { plugin with connected := false } context calls') := if_pos hstate
    simp only [hreport, if_pos hstate]
    exact ⟨rfl, ⟨hkept.config_eq, hkept.owns, hkept.reads⟩, trivial⟩
  · have hreport : (ofPlugin { plugin with connected := false } context calls').reportDisconnected
        env = some (ofPlugin ((ModbusPlugin.transitionTo env { plugin with connected := false }
          .disconnected).1.updateAllTagQualities env .disconnected) context calls') :=
      if_neg hstate
    simp only [hreport, if_neg hstate]
    exact ⟨rfl, ⟨hkept.config_eq, hkept.owns, hkept.reads⟩, rfl⟩

/-! ## Initialization -/

/-- What holds of an object that has no context. -/
structure Uninitialized (config : ModbusTcpConfig) (object : ModbusPluginObject) : Prop where
  config_eq : object.config = config
  stateMachine : object.stateMachine = none
  reconnectBackoff : object.reconnectBackoff = none
  context : object.context = none
  connected : object.connected = false
  owns : Owns object.calls none false
  unread : object.calls.requests = []

theorem uninitialized_create (config : ModbusTcpConfig) (deviceManager : DeviceManager) :
    Uninitialized config (create config deviceManager) where
  config_eq := rfl
  stateMachine := rfl
  reconnectBackoff := rfl
  context := rfl
  connected := rfl
  owns := .nil
  unread := rfl

/-- The configuration check covers what the constructors of the helpers throw on. -/
theorem helpers_created (hvalid : validateConfig config = true) {manager : DeviceManager}
    {device : Device} (hfind : manager.findDevice config.deviceId = some device) (now : Int64) :
    ∃ machine backoff,
      DeviceConnectionStateMachine.create manager config.deviceId
        config.communicationTimeoutMs.toInt64 now = some machine ∧
      ReconnectBackoff.create config.reconnectInitialDelayMs.toInt64
        config.reconnectMaximumDelayMs.toInt64 = some backoff := by
  simp only [validateConfig] at hvalid
  split at hvalid
  · cases hvalid
  · rename_i hchecked
    simp only [not_or, Int32.le_iff_toInt_le, Int32.lt_iff_toInt_lt] at hchecked
    obtain ⟨-, -, -, -, -, htimeout, hinitial, hmaximum, hid, -⟩ := hchecked
    simp only [DeviceConnectionStateMachine.create, ReconnectBackoff.create, hfind,
      Option.map_some, Int64.le_iff_toInt_le, Int64.lt_iff_toInt_lt, Int32.toInt_toInt64]
    exact ⟨_, _, if_neg (not_or.mpr ⟨hid, htimeout⟩), if_neg (not_or.mpr ⟨hinitial, hmaximum⟩)⟩

/-- Either the object is set up as `Native/ModbusPlugin` says, or it has no context as before. -/
theorem initializePlugin_refines {object : ModbusPluginObject} (address : Nat → Nat)
    (h : Uninitialized config object) :
    (∃ object', object.initializePlugin env address = some (object', false) ∧
        ModbusPlugin.initializePlugin env config object.deviceManager object.tick = none ∧
        Uninitialized config object') ∨
      ∃ plugin context calls,
        object.initializePlugin env address = some (ofPlugin plugin context calls, true) ∧
        ModbusPlugin.initializePlugin env config object.deviceManager object.tick =
          some plugin ∧
        Holds config plugin context calls ∧ plugin.connected = false := by
  obtain ⟨config, deviceManager, _, _, _, _, tick, calls⟩ := object
  obtain ⟨rfl, rfl, rfl, rfl, rfl, howns, hunread⟩ := h
  simp only [initializePlugin, ModbusPlugin.initializePlugin, Option.isSome_none,
    Bool.false_eq_true, if_false]
  by_cases hvalid : validateConfig config = true
  · by_cases hnew : env.newTcp tick = true
    · simp only [hvalid, hnew, Bool.not_true, Bool.false_eq_true, if_false]
      have hcreated := (howns.created (address tick)).used
      by_cases hslave : env.setSlave (tick + 1) < 0
      · simp only [hslave, if_true]
        exact .inl ⟨_, rfl, trivial, rfl, rfl, rfl, rfl, rfl, hcreated.freed, hunread⟩
      · simp only [hslave, if_false, createHelpers, ModbusPlugin.createHelpers]
        generalize hregister : (if deviceManager.hasDevice config.deviceId then
          (deviceManager, true) else deviceManager.addDevice
            (Device.named config.deviceId config.deviceName (ascii "modbus-tcp"))) = result
        obtain ⟨manager, registered⟩ := result
        cases registered with
        | false =>
          exact .inl ⟨_, rfl, rfl, rfl, rfl, rfl, rfl, rfl, hcreated.freed, hunread⟩
        | true =>
          obtain ⟨machine, backoff, hmachine, hbackoff⟩ :=
            helpers_created hvalid (registered_device hregister) (env.steadyNow (tick + 2))
          simp only [hmachine, hbackoff, Bool.not_true, Bool.false_eq_true, if_false]
          have hreads : ReadsTags config calls := fun request hmem => by
            rw [show requests calls = [] from hunread] at hmem
            exact absurd hmem List.not_mem_nil
          exact .inr ⟨_, _, _, rfl, rfl, ⟨rfl, hcreated, hreads⟩, rfl⟩
    · simp only [hvalid, hnew, Bool.not_true, Bool.not_false, Bool.false_eq_true, if_false,
        if_true]
      exact .inl ⟨_, rfl, trivial, rfl, rfl, rfl, rfl, rfl, howns, hunread⟩
  · simp only [hvalid, Bool.not_false, if_true]
    exact .inl ⟨_, rfl, trivial, rfl, rfl, rfl, rfl, rfl, howns, hunread⟩

/-! ## Every call -/

/-- What holds of a living object between two calls. -/
def Lifetime (config : ModbusTcpConfig) (object : ModbusPluginObject) : Prop :=
  Uninitialized config object ∨
    ∃ plugin context calls, object = ofPlugin plugin context calls ∧
      validateConfig config = true ∧ Holds config plugin context calls

/-- The result of a call and what holds after it. -/
abbrev Runs (config : ModbusTcpConfig) (result : Option ModbusPluginObject) : Prop :=
  ∃ object, result = some object ∧ Lifetime config object

section

variable {object : ModbusPluginObject} (address : Nat → Nat) (arithmetic : DoubleArithmetic)

theorem Refines.runs {result : Option (ModbusPluginObject × Bool)} {expected : ModbusPlugin × Bool}
    (h : Refines config context result expected) (hvalid : validateConfig config = true) :
    Runs config (result.map Prod.fst) := by
  obtain ⟨calls, rfl, hkept⟩ := h
  exact ⟨_, rfl, .inr ⟨_, _, _, rfl, hvalid, hkept⟩⟩

theorem initializePlugin_runs (h : Lifetime config object) :
    Runs config ((object.initializePlugin env address).map Prod.fst) := by
  rcases h with huninitialized | ⟨plugin, context, calls, rfl, hvalid, hholds⟩
  · rcases initializePlugin_refines env address huninitialized with
      ⟨object', hcall, -, hafter⟩ | ⟨plugin, context, calls, hcall, hplugin, hholds, -⟩
    · exact ⟨object', by rw [hcall]; rfl, .inl hafter⟩
    · have hvalid := (initializePlugin_shows hplugin).1
      exact ⟨_, by rw [hcall]; rfl, .inr ⟨plugin, context, calls, rfl, hvalid, hholds⟩⟩
  · exact ⟨_, rfl, .inr ⟨plugin, context, calls, rfl, hvalid, hholds⟩⟩

theorem start_runs (h : Lifetime config object) :
    Runs config ((object.start env address arithmetic).map Prod.fst) := by
  rcases h with huninitialized | ⟨plugin, context, calls, rfl, hvalid, hholds⟩
  · unfold start
    rw [if_neg (by simp [huninitialized.connected]), if_pos (by simp [huninitialized.context])]
    rcases initializePlugin_refines env address huninitialized with
      ⟨object', hcall, -, hafter⟩ | ⟨plugin, context, calls, hcall, hplugin, hholds, hclosed⟩
    · rw [hcall]
      exact ⟨object', rfl, .inl hafter⟩
    · rw [hcall]
      exact (startInitialized_refines env arithmetic hholds hclosed).runs
        (initializePlugin_shows hplugin).1
  · unfold start
    by_cases hconnected : plugin.connected = true
    · rw [if_pos (show (ofPlugin plugin context calls).connected = true from hconnected)]
      exact ⟨_, rfl, .inr ⟨plugin, context, calls, rfl, hvalid, hholds⟩⟩
    · rw [if_neg (show ¬ (ofPlugin plugin context calls).connected = true from hconnected),
        if_neg (by simp [ofPlugin])]
      exact (startInitialized_refines env arithmetic hholds (by simpa using hconnected)).runs hvalid

theorem pollOnce_runs (h : Lifetime config object) :
    Runs config ((object.pollOnce env arithmetic).map Prod.fst) := by
  rcases h with huninitialized | ⟨plugin, context, calls, rfl, hvalid, hholds⟩
  · unfold pollOnce
    rw [if_neg (by simp [huninitialized.connected]),
      if_pos (by simp [huninitialized.reconnectBackoff])]
    exact ⟨object, rfl, .inl huninitialized⟩
  · exact (pollOnce_refines env arithmetic hholds).runs hvalid

/-- After `stop` the object is not connected. -/
theorem stop_runs (h : Lifetime config object) :
    ∃ object', object.stop env = some object' ∧ Lifetime config object' ∧
      object'.connected = false := by
  rcases h with huninitialized | ⟨plugin, context, calls, rfl, hvalid, hholds⟩
  · refine ⟨object, ?_, .inl huninitialized, huninitialized.connected⟩
    simp [stop, reportDisconnected, huninitialized.connected, huninitialized.stateMachine,
      huninitialized.reconnectBackoff]
  · obtain ⟨calls', hcall, hkept, hclosed⟩ := stop_refines env hholds
    exact ⟨_, hcall, .inr ⟨_, _, _, rfl, hvalid, hkept⟩, hclosed⟩

end

/-! ## Requests -/

/-- The configuration check keeps every tag within the register addresses. -/
theorem validateTags_range {tags : List ModbusTagConfig} {tagNames : List Bytes}
    (h : validateTags tagNames tags = true) : ∀ tag ∈ tags, (requestOf tag).InRange := by
  induction tags generalizing tagNames with
  | nil => exact fun _ hmem => absurd hmem List.not_mem_nil
  | cons tag tags ih =>
    simp only [validateTags] at h
    split at h
    · cases h
    · rename_i hchecked
      intro later hlater
      rcases List.mem_cons.mp hlater with rfl | hlater
      · by_contra hrange
        refine hchecked (.inr (.inr (.inr ?_)))
        rcases (ModbusRtuTransport.refused_iff _ _).mpr hrange with
          hnegative | hcount | hcount | hlast
        · exact .inl hnegative
        · cases hkind : later.dataType with
          | uint16 | int16 | uint32 | int32 | float32 =>
            rw [hkind] at hcount
            exact absurd hcount (by decide)
        · cases hkind : later.dataType with
          | uint16 | int16 | uint32 | int32 | float32 =>
            rw [hkind] at hcount
            exact absurd hcount (by decide)
        · exact .inr (.inl hlast)
      · exact ih h later hlater

/-- What holds of an object whether it lives or not. -/
structure Sound (object : ModbusPluginObject) : Prop where
  owns : Owns object.calls object.context object.connected
  inRange : ∀ request ∈ object.calls.requests, request.InRange

theorem Lifetime.sound {object : ModbusPluginObject} (h : Lifetime config object) :
    object.Sound := by
  rcases h with huninitialized | ⟨plugin, context, calls, rfl, hvalid, hholds⟩
  · refine ⟨?_, ?_⟩
    · rw [huninitialized.context, huninitialized.connected]
      exact huninitialized.owns
    · intro request hmem
      rw [huninitialized.unread] at hmem
      exact absurd hmem List.not_mem_nil
  · refine ⟨hholds.owns, fun request hmem => ?_⟩
    obtain ⟨tag, htag, rfl⟩ := hholds.reads request hmem
    exact validateTags_range (ModbusPlugin.validateConfig_tags hvalid) tag htag

/-- The destructor runs to its end and leaves no context. -/
theorem destroy_runs {object : ModbusPluginObject} (h : Lifetime config object) :
    ∃ object', object.destroy env = some object' ∧ object'.Sound ∧ object'.context = none := by
  obtain ⟨stopped, hstop, hlifetime, hclosed⟩ := stop_runs env h
  have hsound := hlifetime.sound
  unfold destroy
  rw [hstop, Option.map_some]
  by_cases hcontext : stopped.context = none
  · rw [if_pos (by simp [hcontext])]
    exact ⟨stopped, rfl, hsound, hcontext⟩
  · obtain ⟨context, hcontext⟩ := Option.ne_none_iff_exists'.mp hcontext
    rw [if_neg (by simp [hcontext])]
    refine ⟨_, rfl, ⟨?_, hsound.inRange⟩, rfl⟩
    have howns := hsound.owns
    rw [hcontext, hclosed] at howns
    show Owns (.freed stopped.context :: stopped.calls) none stopped.connected
    rw [hcontext, hclosed]
    exact howns.freed

/-- Other components change the manager only. -/
theorem shared_lifetime {object : ModbusPluginObject} (h : Lifetime config object)
    (deviceManager : DeviceManager) : Lifetime config { object with deviceManager } := by
  rcases h with huninitialized | ⟨plugin, context, calls, rfl, hvalid, hholds⟩
  · obtain ⟨h₁, h₂, h₃, h₄, h₅, h₆, h₇⟩ := huninitialized
    exact .inl ⟨h₁, h₂, h₃, h₄, h₅, h₆, h₇⟩
  · exact .inr ⟨{ plugin with deviceManager }, context, calls, rfl, hvalid, hholds.config_eq,
      hholds.owns, hholds.reads⟩

/-- Every call of a living object runs to its end; the object lives on with its invariant, or
    it was destroyed. -/
theorem perform_runs {object : ModbusPluginObject} (h : Lifetime config object)
    (address : Nat → Nat) (arithmetic : DoubleArithmetic) (call : ModbusObjectCall) :
    ∃ object', object.perform env address arithmetic call = some object' ∧ object'.Sound ∧
      if call.isDestroy then object'.context = none else Lifetime config object' := by
  have hlives : ∀ {result : Option ModbusPluginObject}, Runs config result →
      ∃ object', result = some object' ∧ object'.Sound ∧ Lifetime config object' := by
    rintro result ⟨object', hresult, hlifetime⟩
    exact ⟨object', hresult, hlifetime.sound, hlifetime⟩
  cases call with
  | initializePlugin => exact hlives (initializePlugin_runs env address h)
  | start => exact hlives (start_runs env address arithmetic h)
  | pollOnce => exact hlives (pollOnce_runs env arithmetic h)
  | stop =>
    obtain ⟨object', hcall, hlifetime, -⟩ := stop_runs env h
    exact hlives ⟨object', hcall, hlifetime⟩
  | destroy => exact destroy_runs env h
  | shared deviceManager => exact hlives ⟨_, rfl, shared_lifetime h deviceManager⟩

end ModbusPluginObject

/-! ## Runs -/

open SessionTrace

variable {env : ModbusEnvironment} {address : Nat → Nat} {arithmetic : DoubleArithmetic}
  {config : ModbusTcpConfig}

/-- The invariant over every run. -/
theorem modbusObject_invariant {object : ModbusPluginObject} {alive : Bool}
    (h : (modbusObjectSystem env address arithmetic config).Reachable
      TransitionSystem.anyStep (object, alive)) :
    object.Sound ∧
      if alive then ModbusPluginObject.Lifetime config object else object.context = none := by
  refine h.invariant (fun s => s.1.Sound ∧
    if s.2 then ModbusPluginObject.Lifetime config s.1 else s.1.context = none) ?_ ?_
  · rintro s ⟨deviceManager, rfl⟩
    have hlifetime : ModbusPluginObject.Lifetime config (.create config deviceManager) :=
      .inl (ModbusPluginObject.uninitialized_create config deviceManager)
    exact ⟨hlifetime.sound, hlifetime⟩
  · rintro ⟨object, alive⟩ call s' _ ⟨-, hs⟩ _ hstep
    simp only [modbusObjectSystem, Option.ite_none_right_eq_some] at hstep
    obtain ⟨halive, hstep⟩ := hstep
    obtain rfl : alive = true := halive
    obtain ⟨object', hperform, hsound, hafter⟩ :=
      ModbusPluginObject.perform_runs env hs address arithmetic call
    rw [hperform, Option.map_some] at hstep
    obtain rfl := Option.some.inj hstep
    refine ⟨hsound, ?_⟩
    cases hend : call.isDestroy with
    | true => simpa [hend] using hafter
    | false => simpa [hend] using hafter

/-- Over every run of a plugin object, called in any order and with any answers of libmodbus,
    clocks and changes of the shared manager: every call of a living object runs to its end,
    no null pointer followed and no exception thrown; every call of libmodbus names a context
    that exists and, where it needs one, has a connection; only registers that Modbus has are
    asked for; each context is freed once and each connection closed once, those that the
    object still holds not yet, and a destroyed object holds none. -/
theorem modbus_context_lifetime (env : ModbusEnvironment) (address : Nat → Nat)
    (arithmetic : DoubleArithmetic) (config : ModbusTcpConfig) {object : ModbusPluginObject}
    {alive : Bool}
    (h : (modbusObjectSystem env address arithmetic config).Reachable
      TransitionSystem.anyStep (object, alive)) :
    (alive = true → ∀ call, (object.perform env address arithmetic call).isSome) ∧
      Proper object.calls ∧
      (∀ request ∈ object.calls.requests, request.InRange) ∧
      (∀ context, object.calls.count (.created context) =
        object.calls.count (.freed (some context)) +
          (if object.context = some context then 1 else 0)) ∧
      (∀ context, object.calls.count (.connected (some context)) =
        object.calls.count (.closed (some context)) +
          (if object.context = some context ∧ object.connected then 1 else 0)) ∧
      (alive = false → object.context = none) := by
  obtain ⟨hsound, hlife⟩ := modbusObject_invariant h
  have howns := hsound.owns
  refine ⟨?_, howns.proper, hsound.inRange, fun context => ?_, fun context => ?_, ?_⟩
  · rintro rfl call
    obtain ⟨object', hperform, -⟩ :=
      ModbusPluginObject.perform_runs env hlife address arithmetic call
    rw [hperform]
    rfl
  · rw [howns.proper.freed_eq, howns.objects_eq]
  · rw [howns.proper.closed_eq, howns.connections_eq]
  · rintro rfl
    exact hlife

theorem modbus_context_lifetime_sample :
    ∃ object : ModbusPluginObject,
      (object.calls.count (.connected (some 4096)) = 1 ∧
        object.calls.count (.closed (some 4096)) = 1 ∧
        object.calls.count (.freed (some 4096)) = 1) ∧ Proper object.calls := by
  obtain ⟨s, -, hreach, hcounts⟩ := TransitionSystem.exists_of_run
    (modbusObjectSystem sampleEnvironment (fun _ => 4096) sampleArithmetic {})
    TransitionSystem.anyStep
    [.pollOnce, .start, .pollOnce, .pollOnce, .pollOnce, .pollOnce, .pollOnce, .pollOnce,
      .pollOnce, .pollOnce, .destroy]
    (fun s => s.1.calls.count (.connected (some 4096)) = 1 ∧
      s.1.calls.count (.closed (some 4096)) = 1 ∧ s.1.calls.count (.freed (some 4096)) = 1)
    ⟨sampleManager, rfl⟩ (by decide +kernel)
  exact ⟨s.1, by simpa using hcounts,
    (modbus_context_lifetime sampleEnvironment _ sampleArithmetic {} hreach).2.1⟩

end EdgeLink
