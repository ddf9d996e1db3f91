import EdgeLink.Native.ModbusPlugin

/-! # The calls of the Modbus plugin

While nobody else changes the device, the plugin, its state machine and the device manager
tell one story, a `ModbusView`. This file says what each call does to the view; the
properties of runs follow from that without looking at the functions again.

* `Shows`: a plugin and the view it shows.
* `Shows.connectTransport`, `Shows.pollPass`: the exits of the two parts of a call.
* `Shows.perform`: every call of `modbusSystem` is a `ModbusView.Call`.
* `view_of_reachable`: an invariant of the views holds of every reachable plugin. -/

namespace EdgeLink

/-! ## Views -/

/-- The tags after `updateAllTagQualities`. -/
def requalify (tags : Bytes → Option Tag) (quality : Quality) (now : Int64) :
    Bytes → Option Tag :=
  fun name => (tags name).map fun tag => { tag with quality := quality, timestamp := now }

/-- The connection state that the state machine and the device manager agree on, the
    plugin's flag, the tags of the device, the backoff and the events. -/
structure ModbusView where
  state : ConnectionState
  connected : Bool
  tags : Bytes → Option Tag
  backoff : ReconnectBackoff
  trace : List ModbusEvent

namespace ModbusView

/-- `modbus_connect` failed; the failure was recorded at `time`. -/
def attemptFailed (v : ModbusView) (time now : Int64) : ModbusView :=
  { v with
    state := .error
    tags := requalify v.tags .disconnected now
    backoff := v.backoff.recordFailure time
    trace := .failureRecorded time :: .connectCalled false :: v.trace }

/-- `modbus_connect` succeeded. -/
def attemptAccepted (v : ModbusView) : ModbusView :=
  { v with
    state := .connected
    connected := true
    backoff := v.backoff.reset
    trace := .connectCalled true :: v.trace }

/-- A pass that leaves the connection up. -/
def passed (v : ModbusView) (reads : List RegisterRead) (tags : Bytes → Option Tag) :
    ModbusView :=
  { v with tags := tags, trace := .polled reads :: v.trace }

/-- A pass without a response, after which the device has timed out. -/
def passTimedOut (v : ModbusView) (reads : List RegisterRead) (tags : Bytes → Option Tag)
    (time now : Int64) : ModbusView :=
  { state := .timeout
    connected := false
    tags := requalify tags .timeout now
    backoff := v.backoff.recordFailure time
    trace := .failureRecorded time :: .polled reads :: v.trace }

/-- `stop` writes the tags only when it changes the state. -/
def stopped (v : ModbusView) (now : Int64) : ModbusView :=
  { v with
    state := .disconnected
    connected := false
    tags := if v.state = .disconnected then v.tags else requalify v.tags .disconnected now
    backoff := v.backoff.reset }

end ModbusView

/-! ### The reads of a pass -/

namespace RegisterRead

/-- The device answered with all registers of the tag. -/
def Responded (read : RegisterRead) : Prop :=
  read.answer.count = registerCount read.tagConfig.dataType

/-- The tag that the loop of `pollOnce` writes for a read. -/
def tag (arithmetic : DoubleArithmetic) (read : RegisterRead) (now : Int64) : Tag :=
  if read.answer.count ≠ registerCount read.tagConfig.dataType then
    { Tag.named read.tagConfig.name with quality := .timeout, timestamp := now }
  else
    match decodeValue arithmetic read.answer.registers read.tagConfig with
    | none => { Tag.named read.tagConfig.name with quality := .invalid, timestamp := now }
    | some value =>
      { Tag.named read.tagConfig.name with
        value := .double value, quality := .good, timestamp := now }

/-- A tag is `Good` only with the value decoded from a complete read. -/
theorem tag_good {arithmetic : DoubleArithmetic} {read : RegisterRead} {now : Int64}
    (h : (read.tag arithmetic now).quality = .good) :
    read.Responded ∧
      ∃ value, decodeValue arithmetic read.answer.registers read.tagConfig = some value ∧
        (read.tag arithmetic now).value = .double value := by
  simp only [tag] at h ⊢
  split at h
  · exact nomatch h
  · rename_i hcount
    rw [if_neg hcount]
    split at h
    · exact nomatch h
    · rename_i value hvalue
      exact ⟨not_not.mp hcount, value, hvalue, rfl⟩

end RegisterRead

/-- The tags before and after the loop of `pollOnce`: those that were read are replaced. -/
structure PassTags (arithmetic : DoubleArithmetic) (reads : List RegisterRead)
    (tags tags' : Bytes → Option Tag) : Prop where
  read : ∀ read ∈ reads, ∃ now,
    tags' read.tagConfig.name = some (read.tag arithmetic now)
  other : ∀ name, (∀ read ∈ reads, read.tagConfig.name ≠ name) → tags' name = tags name

/-! ### The calls on views -/

namespace ModbusView

variable (env : ModbusEnvironment) (arithmetic : DoubleArithmetic) (config : ModbusTcpConfig)

/-- An attempt of `connectTransport` that starts at interaction `tick`, and its result. -/
inductive Attempt (tick : Nat) (v : ModbusView) : ModbusView → Bool → Prop
  | refused (hstate : v.state = .connected) : Attempt tick v v false
  | failed (n : Nat) (hn : tick ≤ n) (now : Int64) :
    Attempt tick v (v.attemptFailed (env.steadyNow n) now) false
  | accepted : Attempt tick v v.attemptAccepted true

/-- A polling pass. -/
inductive Pass (tick : Nat) (v : ModbusView) : ModbusView → Prop
  | passed (reads : List RegisterRead) (tags : Bytes → Option Tag)
    (hreads : reads.map RegisterRead.tagConfig = config.tags)
    (htags : PassTags arithmetic reads v.tags tags) : Pass tick v (v.passed reads tags)
  | timedOut (reads : List RegisterRead) (tags : Bytes → Option Tag) (n : Nat)
    (hn : tick ≤ n) (now : Int64) (hstate : v.state = .connected)
    (hreads : reads.map RegisterRead.tagConfig = config.tags)
    (htags : PassTags arithmetic reads v.tags tags) :
    Pass tick v (v.passTimedOut reads tags (env.steadyNow n) now)

/-- A call that starts at interaction `tick`. -/
inductive Call (tick : Nat) (v : ModbusView) : ModbusCall → ModbusView → Prop
  | alreadyStarted (hconnected : v.connected = true) : Call tick v .start v
  | waiting {call : ModbusCall} (hcall : call ≠ .stop) (hconnected : v.connected = false)
    (hwait : v.backoff.canRetry (env.steadyNow tick) = false) : Call tick v call v
  | unreachable {call : ModbusCall} {v' : ModbusView} (hcall : call ≠ .stop)
    (hconnected : v.connected = false)
    (hretry : v.backoff.canRetry (env.steadyNow tick) = true)
    (hattempt : Attempt env tick v v' false) : Call tick v call v'
  | reconnected {call : ModbusCall} {v₁ v' : ModbusView} (hcall : call ≠ .stop)
    (hconnected : v.connected = false)
    (hretry : v.backoff.canRetry (env.steadyNow tick) = true)
    (hattempt : Attempt env tick v v₁ true)
    (hpass : Pass env arithmetic config tick v₁ v') : Call tick v call v'
  | polled {v' : ModbusView} (hconnected : v.connected = true)
    (hpass : Pass env arithmetic config tick v v') : Call tick v .pollOnce v'
  | stopped (now : Int64) : Call tick v .stop (v.stopped now)

variable {env arithmetic config} {tick tick' : Nat} {v v' : ModbusView}

/-- What happens from a later interaction on happens from this one on. -/
theorem Attempt.earlier {result : Bool} (h : v.Attempt env tick' v' result)
    (hle : tick ≤ tick') : v.Attempt env tick v' result := by
  cases h with
  | refused hstate => exact .refused hstate
  | failed n hn now => exact .failed n (le_trans hle hn) now
  | accepted => exact .accepted

theorem Pass.earlier (h : v.Pass env arithmetic config tick' v') (hle : tick ≤ tick') :
    v.Pass env arithmetic config tick v' := by
  cases h with
  | passed reads tags hreads htags => exact .passed reads tags hreads htags
  | timedOut reads tags n hn now hstate hreads htags =>
    exact .timedOut reads tags n (le_trans hle hn) now hstate hreads htags

end ModbusView

/-! ## The plugin shows a view -/

namespace ModbusPlugin

variable (env : ModbusEnvironment) {arithmetic : DoubleArithmetic} {config : ModbusTcpConfig}

/-- The plugin, its state machine and the device agree with the view. -/
structure Shows (plugin : ModbusPlugin) (config : ModbusTcpConfig) (v : ModbusView) :
    Prop where
  sameConfig : plugin.config = config
  deviceId : plugin.stateMachine.deviceId = config.deviceId
  state : plugin.stateMachine.state = v.state
  device : ∃ device, plugin.deviceManager.findDevice config.deviceId = some device ∧
    device.state = v.state ∧ device.tags = v.tags
  connected : plugin.connected = v.connected
  backoff : plugin.reconnectBackoff = v.backoff
  trace : plugin.trace = v.trace

variable {plugin : ModbusPlugin} {v : ModbusView}

/-! ### Calls of the helpers -/

/-- Time passes and nothing else happens. -/
theorem Shows.tick (h : plugin.Shows config v) :
    { plugin with tick := plugin.tick + 1 }.Shows config v :=
  ⟨h.sameConfig, h.deviceId, h.state, h.device, h.connected, h.backoff, h.trace⟩

@[simp] theorem transitionTo_tick (plugin : ModbusPlugin) (nextState : ConnectionState) :
    (plugin.transitionTo env nextState).1.tick = plugin.tick + 1 := rfl

@[simp] theorem checkTimeout_tick (plugin : ModbusPlugin) :
    (plugin.checkTimeout env).1.tick = plugin.tick + 1 := rfl

/-- The state machine makes a legal transition. -/
theorem Shows.transitionTo_made (h : plugin.Shows config v) (nextState : ConnectionState)
    (hne : nextState ≠ v.state)
    (hallowed :
      DeviceConnectionStateMachine.isTransitionAllowed v.state nextState = true) :
    (plugin.transitionTo env nextState).2 = true ∧
      (plugin.transitionTo env nextState).1.Shows config
        { v with state := nextState } := by
  obtain ⟨device, hfind, hstate, htags⟩ := h.device
  rw [← h.state] at hne hallowed
  rw [← h.deviceId] at hfind
  have hfound := (DeviceManager.updateConnectionState_found hfind nextState).2
  simp only [transitionTo,
    DeviceConnectionStateMachine.transitionTo_made hne hallowed hfind, true_and]
  constructor
  case sameConfig => exact h.sameConfig
  case deviceId => exact h.deviceId
  case state => rfl
  case device =>
    rw [h.deviceId] at hfound ⊢
    exact ⟨_, hfound, rfl, htags⟩
  case connected => exact h.connected
  case backoff => exact h.backoff
  case trace => exact h.trace

/-- The state machine is there already. -/
theorem Shows.transitionTo_same (h : plugin.Shows config v) :
    (plugin.transitionTo env v.state).2 = true ∧
      (plugin.transitionTo env v.state).1.Shows config v := by
  simp only [transitionTo,
    DeviceConnectionStateMachine.transitionTo_same h.state.symm, true_and]
  exact h.tick

/-- The state machine refuses. -/
theorem Shows.transitionTo_refused (h : plugin.Shows config v)
    (nextState : ConnectionState) (hne : nextState ≠ v.state)
    (hallowed :
      DeviceConnectionStateMachine.isTransitionAllowed v.state nextState = false) :
    (plugin.transitionTo env nextState).2 = false ∧
      (plugin.transitionTo env nextState).1.Shows config v := by
  rw [← h.state] at hne hallowed
  simp only [transitionTo,
    DeviceConnectionStateMachine.transitionTo_refused hne hallowed, true_and]
  exact h.tick

theorem Shows.updateAllTagQualities (h : plugin.Shows config v) (quality : Quality) :
    (plugin.updateAllTagQualities env quality).Shows config
      { v with tags := requalify v.tags quality (env.systemNow plugin.tick) } := by
  obtain ⟨device, hfind, hstate, htags⟩ := h.device
  have hfound := (DeviceManager.updateAllTagQualities_found hfind quality
    (env.systemNow plugin.tick)).2
  constructor
  case sameConfig => exact h.sameConfig
  case deviceId => exact h.deviceId
  case state => exact h.state
  case device =>
    simp only [ModbusPlugin.updateAllTagQualities, h.sameConfig]
    refine ⟨_, hfound, hstate, ?_⟩
    show requalify device.tags quality _ = _
    rw [htags]
  case connected => exact h.connected
  case backoff => exact h.backoff
  case trace => exact h.trace

theorem Shows.recordFailure (h : plugin.Shows config v) :
    (plugin.recordFailure env).Shows config
      { v with
        backoff := v.backoff.recordFailure (env.steadyNow plugin.tick)
        trace := .failureRecorded (env.steadyNow plugin.tick) :: v.trace } := by
  constructor
  case sameConfig => exact h.sameConfig
  case deviceId => exact h.deviceId
  case state => exact h.state
  case device => exact h.device
  case connected => exact h.connected
  case backoff => simp only [ModbusPlugin.recordFailure, h.backoff]
  case trace => simp only [ModbusPlugin.recordFailure, h.trace]

theorem Shows.callConnect (h : plugin.Shows config v) :
    (plugin.callConnect env).1.Shows config
      { v with trace := .connectCalled (plugin.callConnect env).2 :: v.trace } := by
  constructor
  case sameConfig => exact h.sameConfig
  case deviceId => exact h.deviceId
  case state => exact h.state
  case device => exact h.device
  case connected => exact h.connected
  case backoff => exact h.backoff
  case trace => simp only [ModbusPlugin.callConnect, h.trace]

theorem Shows.canRetry (h : plugin.Shows config v) :
    (plugin.canRetry env).1.Shows config v ∧
      (plugin.canRetry env).2 = v.backoff.canRetry (env.steadyNow plugin.tick) := by
  apply And.intro h.tick
  simp only [ModbusPlugin.canRetry, h.backoff]

theorem Shows.setConnected (h : plugin.Shows config v) (connected : Bool) :
    { plugin with connected := connected }.Shows config
      { v with connected := connected } :=
  ⟨h.sameConfig, h.deviceId, h.state, h.device, rfl, h.backoff, h.trace⟩

theorem Shows.resetBackoff (h : plugin.Shows config v) :
    { plugin with reconnectBackoff := plugin.reconnectBackoff.reset }.Shows config
      { v with backoff := v.backoff.reset } :=
  ⟨h.sameConfig, h.deviceId, h.state, h.device, h.connected, by rw [← h.backoff], h.trace⟩

/-! ### `connectTransport` -/

/-- Every connection state but `Connected` lets an attempt begin; a device that was left
    in `Connecting` passes through the exit for an unchanged state. -/
theorem Shows.beginAttempt (h : plugin.Shows config v) (hstate : v.state ≠ .connected) :
    (plugin.transitionTo env .connecting).2 = true ∧
      (plugin.transitionTo env .connecting).1.Shows config
        { v with state := .connecting } := by
  by_cases hsame : v.state = .connecting
  · have hresult := h.transitionTo_same env
    rw [hsame] at hresult
    have heq : { v with state := .connecting } = v := by rw [← hsame]
    rw [heq]
    exact hresult
  · apply h.transitionTo_made env .connecting (fun heq => hsame heq.symm)
    cases hv : v.state with
    | disconnected | timeout | error => rfl
    | connecting => exact absurd hv hsame
    | connected => exact absurd hv hstate

/-- The exits of `connectTransport`. -/
theorem Shows.connectTransport (h : plugin.Shows config v) (hconnected : v.connected = false) :
    ∃ v', v.Attempt env plugin.tick v' (plugin.connectTransport env).2 ∧
      plugin.tick ≤ (plugin.connectTransport env).1.tick ∧
      (plugin.connectTransport env).1.Shows config v' := by
  have hflag : ¬ plugin.connected = true := by rw [h.connected, hconnected]; decide
  simp only [ModbusPlugin.connectTransport, if_neg hflag]
  have hbegun := plugin.transitionTo_tick env .connecting
  by_cases hstate : v.state = .connected
  · -- a connected device that this plugin did not connect
    obtain ⟨hresult, hshows⟩ := h.transitionTo_refused env .connecting
      (by rw [hstate]; decide) (by rw [hstate]; rfl)
    generalize plugin.transitionTo env .connecting = result at hbegun hresult hshows
    obtain ⟨refused, changed⟩ := result
    obtain rfl : changed = false := hresult
    exact ⟨v, .refused hstate, by dsimp only at hbegun ⊢; omega, hshows⟩
  · obtain ⟨hresult, hshows⟩ := h.beginAttempt env hstate
    generalize plugin.transitionTo env .connecting = result at hbegun hresult hshows
    obtain ⟨attempting, changed⟩ := result
    obtain rfl : changed = true := hresult
    have hcalled := hshows.callConnect env
    have hcalledTick : (attempting.callConnect env).1.tick = attempting.tick + 1 := rfl
    dsimp only at hbegun hcalled ⊢
    generalize attempting.callConnect env = answer at hcalled hcalledTick
    obtain ⟨called, accepted⟩ := answer
    dsimp only at hcalled hcalledTick
    cases accepted with
    | false =>
      -- the machine is in `Connecting`, from which every state can be reached
      obtain ⟨-, herror⟩ :=
        hcalled.transitionTo_made env .error (by dsimp only; decide) rfl
      have hshown := (herror.updateAllTagQualities env .disconnected).recordFailure env
      have hn : plugin.tick ≤ called.tick + 2 := by omega
      refine ⟨_, .failed (called.tick + 2) hn (env.systemNow (called.tick + 1)), ?_, hshown⟩
      show plugin.tick ≤ called.tick + 3
      omega
    | true =>
      -- so the exit for a refused transition to `Connected` is not taken
      have hconnecting := hcalled.setConnected true
      have hmadeTick :=
        { called with connected := true }.transitionTo_tick env .connected
      obtain ⟨hresult, hmade⟩ :=
        hconnecting.transitionTo_made env .connected (by dsimp only; decide) rfl
      dsimp only at hresult hmade hmadeTick ⊢
      generalize ModbusPlugin.transitionTo env _ .connected = result at hresult hmade hmadeTick
      obtain ⟨connected, changed⟩ := result
      obtain rfl : changed = true := hresult
      refine ⟨_, .accepted, ?_, hmade.resetBackoff⟩
      dsimp only at hmadeTick ⊢
      omega

/-! ### The polling loop -/

/-- `findDevice` after an iteration: the tag is replaced and nothing else. -/
theorem pollTag_device (arithmetic : DoubleArithmetic) {loop : PollLoop} {deviceId : Bytes}
    {device : Device} {tagConfig : ModbusTagConfig}
    (hfind : loop.deviceManager.findDevice deviceId = some device) (hname : tagConfig.name ≠ []) :
    (pollTag env arithmetic deviceId loop tagConfig).deviceManager.findDevice deviceId =
      some { device with
        tags := Function.update device.tags tagConfig.name
          (some (RegisterRead.tag arithmetic ⟨tagConfig, env.readRegisters loop.tick⟩
            (env.systemNow (loop.tick + 1)))) } := by
  have hstored (tag : Tag) (htag : tag.name = tagConfig.name) :
      (loop.deviceManager.updateTag deviceId tag
        (env.systemNow (loop.tick + 1))).1.findDevice deviceId = some { device with
          tags := Function.update device.tags tagConfig.name
            (some { tag with timestamp := env.systemNow (loop.tick + 1) }) } := by
    rw [← htag] at hname ⊢
    exact (DeviceManager.updateTag_found hfind hname _).2
  by_cases hcount :
      (env.readRegisters loop.tick).count ≠ registerCount tagConfig.dataType
  · simp only [pollTag, RegisterRead.tag, if_pos hcount]
    exact hstored { Tag.named tagConfig.name with quality := .timeout } rfl
  · simp only [pollTag, RegisterRead.tag, if_neg hcount]
    cases decodeValue arithmetic (env.readRegisters loop.tick).registers tagConfig with
    | none => exact hstored { Tag.named tagConfig.name with quality := .invalid } rfl
    | some value =>
      exact hstored
        { Tag.named tagConfig.name with value := .double value, quality := .good } rfl

/-- The read is appended to the record of the pass. -/
theorem pollTag_reads (loop : PollLoop) (deviceId : Bytes) (tagConfig : ModbusTagConfig) :
    (pollTag env arithmetic deviceId loop tagConfig).reads =
      loop.reads ++ [⟨tagConfig, env.readRegisters loop.tick⟩] := by
  simp only [pollTag]
  split
  · rfl
  · split <;> rfl

theorem pollTag_tick (loop : PollLoop) (deviceId : Bytes) (tagConfig : ModbusTagConfig) :
    (pollTag env arithmetic deviceId loop tagConfig).tick = loop.tick + 2 := by
  simp only [pollTag]
  split
  · rfl
  · split <;> rfl

/-- The loop reads every tag once and replaces exactly those tags. -/
theorem pollLoop_spec (arithmetic : DoubleArithmetic) {deviceId : Bytes}
    (tags : List ModbusTagConfig) (hnames : (tags.map ModbusTagConfig.name).Nodup)
    (hnonempty : ∀ tag ∈ tags, tag.name ≠ []) {loop : PollLoop} {device : Device}
    (hfind : loop.deviceManager.findDevice deviceId = some device) :
    ∃ reads device', reads.map RegisterRead.tagConfig = tags ∧
      (tags.foldl (pollTag env arithmetic deviceId) loop).reads = loop.reads ++ reads ∧
      (tags.foldl (pollTag env arithmetic deviceId) loop).deviceManager.findDevice deviceId =
        some device' ∧
      device'.state = device.state ∧
      PassTags arithmetic reads device.tags device'.tags ∧
      loop.tick ≤ (tags.foldl (pollTag env arithmetic deviceId) loop).tick := by
  -- the later tags start from the manager and the clock of the first iteration
  induction tags generalizing loop device with
  | nil =>
    exact ⟨[], device, rfl, (List.append_nil _).symm, hfind, rfl,
      ⟨fun _ h => (nomatch h), fun _ _ => rfl⟩, le_rfl⟩
  | cons tagConfig tags ih =>
    obtain ⟨hfresh, hrest⟩ := List.nodup_cons.mp hnames
    have hfirst := pollTag_device env arithmetic hfind
      (hnonempty tagConfig List.mem_cons_self)
    obtain ⟨reads, device', hreads, hrecorded, hfind', hstate, htags, htick⟩ :=
      ih hrest (fun tag htag => hnonempty tag (List.mem_cons_of_mem _ htag)) hfirst
    -- the later reads are of tags with other names
    have hother : ∀ read ∈ reads, read.tagConfig.name ≠ tagConfig.name := by
      intro read hread heq
      apply hfresh
      rw [← hreads, List.map_map, ← heq]
      exact List.mem_map_of_mem hread
    refine ⟨⟨tagConfig, env.readRegisters loop.tick⟩ :: reads, device',
      by rw [List.map_cons, hreads], ?_, hfind', hstate, ?_, ?_⟩
    · rw [List.foldl_cons, hrecorded, pollTag_reads, List.append_assoc, List.singleton_append]
    · constructor
      case read =>
        intro read hread
        cases List.mem_cons.mp hread with
        | inl heq =>
          subst heq
          refine ⟨env.systemNow (loop.tick + 1), ?_⟩
          rw [htags.other _ hother]
          exact Function.update_self _ _ _
        | inr hlater => exact htags.read read hlater
      case other =>
        intro name hname
        have hne : name ≠ tagConfig.name := (hname _ List.mem_cons_self).symm
        rw [htags.other name fun read hread => hname read (List.mem_cons_of_mem _ hread)]
        exact Function.update_of_ne hne _ _
    · rw [pollTag_tick] at htick
      exact le_trans (Nat.le_add_right _ _) htick

/-! ### `pollOnce` after the connection check -/

/-- The configuration that `initialize` accepted has distinct, non-empty tag names. -/
theorem validateTags_names {tags : List ModbusTagConfig} {tagNames : List Bytes}
    (h : validateTags tagNames tags = true) :
    (tags.map ModbusTagConfig.name).Nodup ∧
      ∀ tag ∈ tags, tag.name ≠ [] ∧ tag.name ∉ tagNames := by
  -- `tagNames` has grown by the name of the first tag when the rest is checked
  induction tags generalizing tagNames with
  | nil => exact ⟨List.nodup_nil, fun _ h => nomatch h⟩
  | cons tag tags ih =>
    simp only [validateTags] at h
    split at h
    · exact nomatch h
    · rename_i hchecked
      rw [not_or, not_or] at hchecked
      obtain ⟨hrest, hseen⟩ := ih h
      constructor
      · rw [List.map_cons, List.nodup_cons]
        refine ⟨?_, hrest⟩
        intro hmem
        obtain ⟨later, hlater, heq⟩ := List.mem_map.mp hmem
        exact (hseen later hlater).2 (heq ▸ List.mem_cons_self)
      · intro later hlater
        cases List.mem_cons.mp hlater with
        | inl heq =>
          subst heq
          exact ⟨by simpa using hchecked.1, hchecked.2.1⟩
        | inr hlater =>
          obtain ⟨hnonempty, hfresh⟩ := hseen later hlater
          exact ⟨hnonempty, fun hmem => hfresh (List.mem_cons_of_mem _ hmem)⟩

theorem validateConfig_tags (h : validateConfig config = true) :
    validateTags [] config.tags = true := by
  simp only [validateConfig] at h
  split at h
  · exact nomatch h
  · exact h

theorem Shows.markActivity (h : plugin.Shows config v) :
    (plugin.markActivity env).Shows config v := by
  have hkept : (plugin.stateMachine.markActivity (env.steadyNow plugin.tick)).1.state =
      plugin.stateMachine.state ∧
      (plugin.stateMachine.markActivity (env.steadyNow plugin.tick)).1.deviceId =
        plugin.stateMachine.deviceId := by
    simp only [DeviceConnectionStateMachine.markActivity]
    split <;> exact ⟨rfl, rfl⟩
  exact ⟨h.sameConfig, hkept.2.trans h.deviceId, hkept.1.trans h.state, h.device,
    h.connected, h.backoff, h.trace⟩

/-- The two exits of `checkTimeout`. -/
theorem Shows.checkTimeout (h : plugin.Shows config v) :
    ((plugin.checkTimeout env).2 = false ∧ (plugin.checkTimeout env).1.Shows config v) ∨
      ((plugin.checkTimeout env).2 = true ∧ v.state = .connected ∧
        (plugin.checkTimeout env).1.Shows config { v with state := .timeout }) := by
  by_cases hconnected : plugin.stateMachine.state = .connected
  · by_cases hwithin : env.steadyNow plugin.tick - plugin.stateMachine.lastActivity <
        nanosecondsOfMilliseconds plugin.stateMachine.timeout
    · -- the link is not up, so there is no timeout to check
      have hresult : plugin.stateMachine.checkTimeout plugin.deviceManager
          (env.steadyNow plugin.tick) =
          (plugin.stateMachine, plugin.deviceManager, false) := by
        simp [DeviceConnectionStateMachine.checkTimeout, hwithin]
      simp only [ModbusPlugin.checkTimeout, hresult]
      exact .inl ⟨trivial, h.tick⟩
    · -- from here on it is the transition to `Timeout`
      have hresult : plugin.checkTimeout env = plugin.transitionTo env .timeout := by
        simp [ModbusPlugin.checkTimeout, ModbusPlugin.transitionTo,
          DeviceConnectionStateMachine.checkTimeout, hconnected, hwithin]
      have hstate : v.state = .connected := h.state.symm.trans hconnected
      rw [hresult]
      obtain ⟨hmade, hshows⟩ := h.transitionTo_made env .timeout
        (by rw [hstate]; decide) (by rw [hstate]; rfl)
      exact .inr ⟨hmade, hstate, hshows⟩
  · have hresult : plugin.stateMachine.checkTimeout plugin.deviceManager
        (env.steadyNow plugin.tick) =
        (plugin.stateMachine, plugin.deviceManager, false) := by
      simp [DeviceConnectionStateMachine.checkTimeout, hconnected]
    simp only [ModbusPlugin.checkTimeout, hresult]
    exact .inl ⟨trivial, h.tick⟩

/-- The plugin after the loop of `pollOnce`. -/
theorem Shows.pollTags (h : plugin.Shows config v) (hvalid : validateConfig config = true)
    (arithmetic : DoubleArithmetic) :
    ∃ reads tags, reads.map RegisterRead.tagConfig = config.tags ∧
      PassTags arithmetic reads v.tags tags ∧
      plugin.tick ≤ (plugin.pollTags env arithmetic).tick ∧
      ModbusPlugin.Shows
        { plugin with
          deviceManager := (plugin.pollTags env arithmetic).deviceManager
          tick := (plugin.pollTags env arithmetic).tick
          trace := .polled (plugin.pollTags env arithmetic).reads :: plugin.trace }
        config (v.passed reads tags) := by
  obtain ⟨hnames, hnonempty⟩ := validateTags_names (validateConfig_tags hvalid)
  obtain ⟨device, hfind, hstate, htags⟩ := h.device
  let loop : PollLoop :=
    { deviceManager := plugin.deviceManager, tick := plugin.tick, allSucceeded := true,
      receivedResponse := false, reads := [] }
  have hfind : loop.deviceManager.findDevice config.deviceId = some device := hfind
  obtain ⟨reads, device', hreads, hrecorded, hfind', hstate', hpassTags, htick⟩ :=
    pollLoop_spec env arithmetic config.tags hnames
      (fun tag htag => (hnonempty tag htag).1) hfind
  have hloop : plugin.pollTags env arithmetic =
      config.tags.foldl (pollTag env arithmetic config.deviceId) loop := by
    simp only [ModbusPlugin.pollTags, h.sameConfig]
    rfl
  -- the loop starts from the tags of the device, which the view shows
  rw [hloop]
  rw [htags] at hpassTags
  refine ⟨reads, device'.tags, hreads, hpassTags, htick, ?_⟩
  constructor
  case sameConfig => exact h.sameConfig
  case deviceId => exact h.deviceId
  case state => exact h.state
  case device => exact ⟨device', hfind', hstate'.trans hstate, rfl⟩
  case connected => exact h.connected
  case backoff => exact h.backoff
  case trace =>
    dsimp only [ModbusView.passed]
    rw [hrecorded, h.trace]
    rfl

/-- The two exits of a pass. -/
theorem Shows.pollPass (h : plugin.Shows config v) (hvalid : validateConfig config = true)
    (arithmetic : DoubleArithmetic) :
    ∃ v', v.Pass env arithmetic config plugin.tick v' ∧
      (plugin.pollPass env arithmetic).1.Shows config v' := by
  obtain ⟨reads, tags, hreads, htags, htick, hshows⟩ := h.pollTags env hvalid arithmetic
  simp only [ModbusPlugin.pollPass]
  split
  · -- a response counts as activity
    exact ⟨_, .passed reads tags hreads htags, hshows.markActivity env⟩
  · cases hshows.checkTimeout env with
    | inl hwithin =>
      obtain ⟨hresult, hshown⟩ := hwithin
      generalize ModbusPlugin.checkTimeout env _ = result at hresult hshown
      obtain ⟨checked, timedOut⟩ := result
      obtain rfl : timedOut = false := hresult
      exact ⟨_, .passed reads tags hreads htags, hshown⟩
    -- the timeout closes the transport, and the tags lose their quality
    | inr htimeout =>
      obtain ⟨hresult, hstate, hshown⟩ := htimeout
      have hcheckedTick := checkTimeout_tick env
        { plugin with
          deviceManager := (plugin.pollTags env arithmetic).deviceManager
          tick := (plugin.pollTags env arithmetic).tick
          trace := .polled (plugin.pollTags env arithmetic).reads :: plugin.trace }
      generalize ModbusPlugin.checkTimeout env _ = result at hresult hcheckedTick hshown
      obtain ⟨checked, timedOut⟩ := result
      obtain rfl : timedOut = true := hresult
      have hclosed := (hshown.updateAllTagQualities env .timeout).setConnected false
      have hn : plugin.tick ≤ checked.tick + 1 := by
        dsimp only at hcheckedTick
        omega
      exact ⟨_, .timedOut reads tags (checked.tick + 1) hn (env.systemNow checked.tick) hstate
        hreads htags, hclosed.recordFailure env⟩

/-! ### The calls -/

theorem Shows.pollOnce (h : plugin.Shows config v) (hvalid : validateConfig config = true)
    (arithmetic : DoubleArithmetic) :
    ∃ v', v.Call env arithmetic config plugin.tick .pollOnce v' ∧
      (plugin.pollOnce env arithmetic).1.Shows config v' := by
  cases hconnected : v.connected with
  | true =>
    obtain ⟨v', hpass, hshows⟩ := h.pollPass env hvalid arithmetic
    simp only [ModbusPlugin.pollOnce, h.connected, hconnected]
    exact ⟨v', .polled hconnected hpass, hshows⟩
  | false =>
    have hflag : ¬ plugin.connected = true := by rw [h.connected, hconnected]; decide
    simp only [ModbusPlugin.pollOnce, if_neg hflag]
    obtain ⟨hwaiting, hanswer⟩ := h.canRetry env
    have htick : (plugin.canRetry env).1.tick = plugin.tick + 1 := rfl
    generalize plugin.canRetry env = answer at hwaiting hanswer htick
    obtain ⟨retrying, retry⟩ := answer
    dsimp only at hwaiting hanswer htick ⊢
    cases retry with
    | false => exact ⟨v, .waiting (by decide) hconnected hanswer.symm, hwaiting⟩
    | true =>
      obtain ⟨v₁, hattempt, hattemptTick, hattempted⟩ :=
        hwaiting.connectTransport env hconnected
      dsimp only
      generalize retrying.connectTransport env = attempt at hattempt hattemptTick hattempted
      obtain ⟨attempted, succeeded⟩ := attempt
      dsimp only at hattempt hattemptTick hattempted ⊢
      -- the query of the clock in `canRetry` was earlier
      have hattempt := hattempt.earlier (show plugin.tick ≤ retrying.tick by omega)
      cases succeeded with
      | false => exact ⟨v₁, .unreachable (by decide) hconnected hanswer.symm hattempt, hattempted⟩
      | true =>
        obtain ⟨v', hpass, hshows⟩ := hattempted.pollPass env hvalid arithmetic
        have hpass := hpass.earlier (show plugin.tick ≤ attempted.tick by omega)
        exact ⟨v', .reconnected (by decide) hconnected hanswer.symm hattempt hpass, hshows⟩

/-- While disconnected, `start` goes the way of `pollOnce`: the pass it makes is that of a
    `pollOnce` call on the new connection. -/
theorem Shows.start_eq_pollOnce (h : plugin.Shows config v) (hconnected : v.connected = false)
    (arithmetic : DoubleArithmetic) :
    (plugin.start env arithmetic).1 = (plugin.pollOnce env arithmetic).1 := by
  have hflag : ¬ plugin.connected = true := by rw [h.connected, hconnected]; decide
  simp only [ModbusPlugin.start, ModbusPlugin.pollOnce, if_neg hflag]
  obtain ⟨hwaiting, -⟩ := h.canRetry env
  generalize plugin.canRetry env = answer at hwaiting
  obtain ⟨retrying, retry⟩ := answer
  cases retry with
  | false => rfl
  | true =>
    obtain ⟨v₁, hattempt, -, hattempted⟩ := hwaiting.connectTransport env hconnected
    dsimp only at hattempt hattempted ⊢
    generalize retrying.connectTransport env = attempt at hattempt hattempted
    obtain ⟨attempted, succeeded⟩ := attempt
    cases succeeded with
    | false => rfl
    | true =>
      -- the check at the start of the nested `pollOnce` finds the new connection
      have hup : attempted.connected = true := by
        cases hattempt
        exact hattempted.connected
      simp only [hup, if_true]

theorem Shows.start (h : plugin.Shows config v) (hvalid : validateConfig config = true)
    (arithmetic : DoubleArithmetic) :
    ∃ v', v.Call env arithmetic config plugin.tick .start v' ∧
      (plugin.start env arithmetic).1.Shows config v' := by
  cases hconnected : v.connected with
  | true =>
    simp only [ModbusPlugin.start, h.connected, hconnected, if_true]
    exact ⟨v, .alreadyStarted hconnected, h⟩
  | false =>
    rw [h.start_eq_pollOnce env hconnected]
    obtain ⟨v', hcall, hshows⟩ := h.pollOnce env hvalid arithmetic
    refine ⟨v', ?_, hshows⟩
    -- all exits of `pollOnce` but the pass on a standing connection are exits of `start`
    cases hcall with
    | waiting _ hdown hwait => exact .waiting (by decide) hdown hwait
    | unreachable _ hdown hretry hattempt =>
      exact .unreachable (by decide) hdown hretry hattempt
    | reconnected _ hdown hretry hattempt hpass =>
      exact .reconnected (by decide) hdown hretry hattempt hpass
    | polled hup _ => rw [hconnected] at hup; exact nomatch hup

theorem Shows.stop (h : plugin.Shows config v) :
    (plugin.stop env).Shows config (v.stopped (env.systemNow (plugin.tick + 1))) := by
  have hclosed := h.setConnected false
  simp only [ModbusPlugin.stop, h.state]
  by_cases hstate : v.state = .disconnected
  · have hview : v.stopped (env.systemNow (plugin.tick + 1)) =
        { v with connected := false, backoff := v.backoff.reset } := by
      simp only [ModbusView.stopped, hstate, if_true]
    rw [if_pos hstate, hview]
    exact hclosed.resetBackoff
  · have hallowed : DeviceConnectionStateMachine.isTransitionAllowed v.state .disconnected =
        true := by
      cases hv : v.state with
      | disconnected => exact absurd hv hstate
      | connecting | connected | timeout | error => rfl
    obtain ⟨-, hmade⟩ :=
      hclosed.transitionTo_made env .disconnected (fun heq => hstate heq.symm) hallowed
    simp only [if_neg hstate, ModbusView.stopped]
    exact (hmade.updateAllTagQualities env .disconnected).resetBackoff

/-- Every call of the plugin is a call on its view. -/
theorem Shows.perform (h : plugin.Shows config v) (hvalid : validateConfig config = true)
    (arithmetic : DoubleArithmetic) (call : ModbusCall) :
    ∃ v', v.Call env arithmetic config plugin.tick call v' ∧
      (plugin.perform env arithmetic call).Shows config v' := by
  cases call with
  | start => exact h.start env hvalid arithmetic
  | pollOnce => exact h.pollOnce env hvalid arithmetic
  | stop => exact ⟨_, .stopped _, h.stop env⟩

end ModbusPlugin

/-! ## Runs -/

/-- The device that `initialize` adopts, or makes where there is none. -/
def adoptedDevice (config : ModbusTcpConfig) (manager : DeviceManager) : Device :=
  (manager.findDevice config.deviceId).getD
    (Device.named config.deviceId config.deviceName (ascii "modbus-tcp"))

/-- The view of a new plugin. -/
def ModbusView.initial (device : Device) (backoff : ReconnectBackoff) : ModbusView where
  state := device.state
  connected := false
  tags := device.tags
  backoff := backoff
  trace := []

section

variable {env : ModbusEnvironment} {arithmetic : DoubleArithmetic} {config : ModbusTcpConfig}

/-- Registering the device leaves it in the manager. -/
theorem registered_device {manager manager' : DeviceManager}
    (h : (if manager.hasDevice config.deviceId then (manager, true)
      else
        manager.addDevice
          (Device.named config.deviceId config.deviceName (ascii "modbus-tcp"))) =
      (manager', true)) :
    manager'.findDevice config.deviceId = some (adoptedDevice config manager) := by
  split at h
  · rename_i hpresent
    obtain ⟨rfl, -⟩ := Prod.mk.inj h
    obtain ⟨device, hfind⟩ := Option.isSome_iff_exists.mp hpresent
    have hfind : manager.findDevice config.deviceId = some device := hfind
    rw [adoptedDevice, hfind]
    rfl
  · rename_i hpresent
    have hfind : manager.findDevice config.deviceId = none := by
      simpa [DeviceManager.hasDevice, DeviceManager.findDevice] using hpresent
    simp only [DeviceManager.addDevice] at h
    split at h
    · cases h
    · split at h
      · cases h
      · obtain ⟨rfl, -⟩ := Prod.mk.inj h
        rw [adoptedDevice, hfind]
        simp [DeviceManager.findDevice, Device.named]

/-- A plugin that `initialize` set up shows the device it adopted. -/
theorem initializePlugin_shows {manager : DeviceManager} {tick : Nat} {plugin : ModbusPlugin}
    (h : ModbusPlugin.initializePlugin env config manager tick = some plugin) :
    validateConfig config = true ∧
      ∃ backoff,
        ReconnectBackoff.create config.reconnectInitialDelayMs.toInt64
          config.reconnectMaximumDelayMs.toInt64 = some backoff ∧
        plugin.Shows config (.initial (adoptedDevice config manager) backoff) := by
  simp only [ModbusPlugin.initializePlugin] at h
  split at h
  · exact nomatch h
  · rename_i hvalid
    split at h
    · exact nomatch h
    · split at h
      · exact nomatch h
      · have hvalid : validateConfig config = true := by simpa using hvalid
        refine ⟨hvalid, ?_⟩
        simp only [ModbusPlugin.createHelpers] at h
        generalize hregister : (if manager.hasDevice config.deviceId then (manager, true)
          else manager.addDevice
            (Device.named config.deviceId config.deviceName (ascii "modbus-tcp"))) = result at h
        obtain ⟨manager', registered⟩ := result
        cases registered with
        | false => exact nomatch h
        | true =>
          -- `h` says that neither constructor has thrown
          have hfind := registered_device hregister
          simp only [Bool.not_true, Bool.false_eq_true, if_false] at h
          split at h
          · rename_i machine backoff hmachine hbackoff
            obtain rfl := Option.some.inj h
            refine ⟨backoff, hbackoff, ?_⟩
            simp only [DeviceConnectionStateMachine.create, hfind] at hmachine
            split at hmachine
            · exact nomatch hmachine
            · obtain rfl := Option.some.inj hmachine
              exact ⟨rfl, rfl, rfl, ⟨_, hfind, rfl, rfl⟩, rfl, rfl, rfl⟩
          · exact nomatch h

/-- What holds of the view of every new plugin and is kept by every permitted call holds
    of every reachable plugin. -/
theorem view_of_reachable {adopted : DeviceManager → Prop} (permitted : ModbusCall → Prop)
    (Inv : ModbusView → Prop)
    (hinit : ∀ manager backoff, adopted manager → validateConfig config = true →
      ReconnectBackoff.create config.reconnectInitialDelayMs.toInt64
        config.reconnectMaximumDelayMs.toInt64 = some backoff →
      Inv (.initial (adoptedDevice config manager) backoff))
    (hstep : ∀ tick v call v', Inv v → permitted call →
      v.Call env arithmetic config tick call v' → Inv v')
    {plugin : ModbusPlugin}
    (h : (modbusSystem env arithmetic config adopted).Reachable
      (fun _ call => permitted call) plugin) :
    validateConfig config = true ∧ ∃ v, plugin.Shows config v ∧ Inv v := by
  induction h with
  | init hinitial =>
    obtain ⟨manager, tick, hadopted, hcreated⟩ := hinitial
    obtain ⟨hvalid, backoff, hbackoff, hshows⟩ := initializePlugin_shows hcreated
    exact ⟨hvalid, _, hshows, hinit manager backoff hadopted hvalid hbackoff⟩
  | step hreach hok hperformed ih =>
    obtain ⟨hvalid, v, hshows, hinv⟩ := ih
    obtain rfl := Option.some.inj hperformed
    obtain ⟨v', hcall, hshows'⟩ := hshows.perform env hvalid arithmetic _
    exact ⟨hvalid, v', hshows', hstep _ v _ v' hinv hok hcall⟩

end

end EdgeLink
