import EdgeLink.Spec.ModbusPluginCorrect

/-! # The result of a polling pass

`pollOnce` reports whether all tags were read. Its loop writes every configured tag once;
since the names are distinct, no later write hides what an earlier one stored, and only the
update of all tags after a timeout can.

* `loopEntry`: the plugin as a call reaches the loop.
* `pollLoop_flags`, `pollLoop_writes`: the flags of the loop, and what it has written.
* `poll_result_matches_data`: the result of a call and the tags after it. -/

namespace EdgeLink

namespace RegisterRead

/-- A complete read of a number. -/
def Succeeded (arithmetic : DoubleArithmetic) (read : RegisterRead) : Prop :=
  read.Responded ∧ (decodeValue arithmetic read.answer.registers read.tagConfig).isSome

instance (read : RegisterRead) : Decidable read.Responded :=
  inferInstanceAs (Decidable (_ = _))

instance (arithmetic : DoubleArithmetic) (read : RegisterRead) :
    Decidable (read.Succeeded arithmetic) :=
  inferInstanceAs (Decidable (_ ∧ _))

/-- The tag of a read exists, is `Good` and has the value that the registers decode to. -/
def Delivered (arithmetic : DoubleArithmetic) (tags : Bytes → Option Tag)
    (read : RegisterRead) : Prop :=
  ∃ tag value, tags read.tagConfig.name = some tag ∧ tag.quality = .good ∧
    decodeValue arithmetic read.answer.registers read.tagConfig = some value ∧
      tag.value = .double value

end RegisterRead

namespace ModbusPlugin

variable (env : ModbusEnvironment) (arithmetic : DoubleArithmetic)

/-- The plugin as a call of `pollOnce` reaches the loop; `none` where it returns before. -/
def loopEntry (plugin : ModbusPlugin) : Option ModbusPlugin :=
  if plugin.connected then some plugin
  else
    match plugin.canRetry env with
    | (_, false) => none
    | (plugin, true) =>
      match plugin.connectTransport env with
      | (_, false) => none
      | (plugin, true) => some plugin

/-- A call that reaches the loop goes on with `pollPass`. -/
theorem pollOnce_of_loopEntry {plugin entered : ModbusPlugin}
    (h : plugin.loopEntry env = some entered) :
    plugin.pollOnce env arithmetic = entered.pollPass env arithmetic := by
  simp only [loopEntry] at h
  simp only [pollOnce]
  by_cases hconnected : plugin.connected = true
  · rw [if_pos hconnected] at h ⊢
    rw [Option.some.inj h]
  · rw [if_neg hconnected] at h ⊢
    generalize plugin.canRetry env = retry at h ⊢
    obtain ⟨waiting, allowed⟩ := retry
    cases allowed with
    | false => exact nomatch h
    | true =>
      dsimp only at h ⊢
      generalize waiting.connectTransport env = attempt at h ⊢
      obtain ⟨connected, succeeded⟩ := attempt
      cases succeeded with
      | false => exact nomatch h
      | true => rw [Option.some.inj h]

/-! ## What the way to the loop leaves -/

/-- The helpers belong to the device of the configuration, which is registered with the
    given tags. -/
structure Registered (plugin : ModbusPlugin) (config : ModbusTcpConfig)
    (tags : Bytes → Option Tag) : Prop where
  config_eq : plugin.config = config
  deviceId : plugin.stateMachine.deviceId = config.deviceId
  device : ∃ device, plugin.deviceManager.findDevice config.deviceId = some device ∧
    device.tags = tags

variable {plugin : ModbusPlugin} {config : ModbusTcpConfig} {tags : Bytes → Option Tag}

/-- An update of the connection state leaves the tags. -/
theorem Registered.setState (h : plugin.Registered config tags)
    {machine : DeviceConnectionStateMachine} (hmachine : machine.deviceId = config.deviceId)
    (state : ConnectionState) (tick : Nat) :
    ModbusPlugin.Registered
      { plugin with
        stateMachine := machine
        deviceManager :=
          (plugin.deviceManager.updateConnectionState config.deviceId state).1
        tick } config tags := by
  obtain ⟨device, hfind, htags⟩ := h.device
  have hfound := (DeviceManager.updateConnectionState_found hfind state).2
  exact ⟨h.config_eq, hmachine, _, hfound, htags⟩

theorem Registered.transitionTo (h : plugin.Registered config tags)
    (nextState : ConnectionState) :
    (plugin.transitionTo env nextState).1.Registered config tags := by
  obtain ⟨device, hfind, htags⟩ := h.device
  have hregistered : plugin.deviceManager.hasDevice plugin.stateMachine.deviceId = true := by
    rw [h.deviceId]
    exact Option.isSome_iff_exists.mpr ⟨device, hfind⟩
  rcases DeviceConnectionStateMachine.transitionTo_cases hregistered nextState
    (env.steadyNow plugin.tick) with ⟨result, hsame⟩ | ⟨-, hmade⟩
  · simp only [ModbusPlugin.transitionTo, hsame]
    exact ⟨h.config_eq, h.deviceId, device, hfind, htags⟩
  · simp only [ModbusPlugin.transitionTo, hmade, h.deviceId]
    refine h.setState ?_ nextState _
    rfl

/-- A successful attempt changes the connection state only. -/
theorem Registered.connectTransport (h : plugin.Registered config tags)
    (hsucceeded : (plugin.connectTransport env).2 = true) :
    (plugin.connectTransport env).1.Registered config tags := by
  unfold ModbusPlugin.connectTransport at hsucceeded ⊢
  split
  · exact h
  · rename_i hconnected
    rw [if_neg hconnected] at hsucceeded
    have hconnecting := h.transitionTo env .connecting
    generalize plugin.transitionTo env .connecting = attempt at hconnecting hsucceeded
    obtain ⟨connecting, begun⟩ := attempt
    cases begun with
    | false => exact nomatch hsucceeded
    | true =>
      have hcalled : (connecting.callConnect env).1.Registered config tags :=
        ⟨hconnecting.config_eq, hconnecting.deviceId, hconnecting.device⟩
      dsimp only at hsucceeded ⊢
      generalize connecting.callConnect env = call at hcalled hsucceeded
      obtain ⟨called, accepted⟩ := call
      cases accepted with
      | false => exact nomatch hsucceeded
      | true =>
        have hopen : ModbusPlugin.Registered { called with connected := true } config tags :=
          ⟨hcalled.config_eq, hcalled.deviceId, hcalled.device⟩
        have hup := hopen.transitionTo env .connected
        dsimp only at hsucceeded ⊢
        generalize ModbusPlugin.transitionTo env _ .connected = last at hup hsucceeded
        obtain ⟨up, changed⟩ := last
        cases changed with
        | false => exact nomatch hsucceeded
        | true => exact ⟨hup.config_eq, hup.deviceId, hup.device⟩

/-- The loop is reached with the tags that the device had before the call. -/
theorem Registered.loopEntry (h : plugin.Registered config tags) {entered : ModbusPlugin}
    (hentry : plugin.loopEntry env = some entered) : entered.Registered config tags := by
  unfold ModbusPlugin.loopEntry at hentry
  split at hentry
  · exact Option.some.inj hentry ▸ h
  · rename_i hconnected
    have hretry : (plugin.canRetry env).1.Registered config tags :=
      ⟨h.config_eq, h.deviceId, h.device⟩
    split at hentry
    · exact nomatch hentry
    · rename_i retrying heq
      rw [heq] at hretry
      split at hentry
      · exact nomatch hentry
      · rename_i connected hconnect
        obtain rfl := Option.some.inj hentry
        have hup := hretry.connectTransport env
        rw [hconnect] at hup
        exact hup rfl

/-! ## The loop -/

/-- A sequence of calls of `updateTag`. -/
def applyWrites (manager : DeviceManager) (deviceId : Bytes) (writes : List (Tag × Int64)) :
    DeviceManager :=
  writes.foldl (fun manager write => (manager.updateTag deviceId write.1 write.2).1) manager

variable {loop : PollLoop} {deviceId : Bytes}

/-- An iteration writes the tag that it reads, and no other. -/
theorem pollTag_write (loop : PollLoop) (deviceId : Bytes) (tagConfig : ModbusTagConfig) :
    ∃ tag now, tag.name = tagConfig.name ∧
      (pollTag env arithmetic deviceId loop tagConfig).deviceManager =
        (loop.deviceManager.updateTag deviceId tag now).1 := by
  simp only [pollTag]
  split
  · exact ⟨_, _, rfl, rfl⟩
  · split
    · exact ⟨_, _, rfl, rfl⟩
    · exact ⟨_, _, rfl, rfl⟩

/-- The loop writes every configured tag once, in order. -/
theorem pollLoop_writes (deviceId : Bytes) (tagConfigs : List ModbusTagConfig)
    (loop : PollLoop) :
    ∃ writes, (writes.map fun write => write.1.name) = tagConfigs.map ModbusTagConfig.name ∧
      (tagConfigs.foldl (pollTag env arithmetic deviceId) loop).deviceManager =
        applyWrites loop.deviceManager deviceId writes := by
  induction tagConfigs generalizing loop with
  | nil => exact ⟨[], rfl, rfl⟩
  | cons tagConfig tagConfigs ih =>
    obtain ⟨tag, now, hname, hfirst⟩ :=
      pollTag_write env arithmetic loop deviceId tagConfig
    obtain ⟨writes, hnames, hrest⟩ := ih (pollTag env arithmetic deviceId loop tagConfig)
    refine ⟨(tag, now) :: writes, ?_, ?_⟩
    · rw [List.map_cons, List.map_cons, hname, hnames]
    · rw [List.foldl_cons, hrest, hfirst]
      rfl

/-- The flags after an iteration. -/
theorem pollTag_flags {device : Device} {tagConfig : ModbusTagConfig}
    (hfind : loop.deviceManager.findDevice deviceId = some device)
    (hname : tagConfig.name ≠ []) :
    (pollTag env arithmetic deviceId loop tagConfig).allSucceeded =
        (loop.allSucceeded && decide (RegisterRead.Succeeded arithmetic
          ⟨tagConfig, env.readRegisters loop.tick⟩)) ∧
      (pollTag env arithmetic deviceId loop tagConfig).receivedResponse =
        (loop.receivedResponse ||
          decide (RegisterRead.Responded ⟨tagConfig, env.readRegisters loop.tick⟩)) := by
  by_cases hresponded : RegisterRead.Responded ⟨tagConfig, env.readRegisters loop.tick⟩
  · have hcount : ¬ (env.readRegisters loop.tick).count ≠ registerCount tagConfig.dataType :=
      not_not.mpr hresponded
    simp only [pollTag, if_neg hcount, RegisterRead.Succeeded, hresponded, true_and]
    cases decodeValue arithmetic (env.readRegisters loop.tick).registers tagConfig with
    | none => simp
    | some value =>
      -- the device is registered and the tag has a name, so it is stored
      let tag : Tag := { Tag.named tagConfig.name with value := .double value, quality := .good }
      have htag : tag.name ≠ [] := hname
      have hupdated :=
        (DeviceManager.updateTag_found hfind htag (env.systemNow (loop.tick + 1))).1
      simp only [tag] at hupdated
      simp [hupdated]
  · have hcount : (env.readRegisters loop.tick).count ≠ registerCount tagConfig.dataType :=
      hresponded
    simp only [pollTag, if_pos hcount, RegisterRead.Succeeded, hresponded, false_and,
      decide_false, Bool.and_false, Bool.or_false, and_self]

/-- The flags after the loop: whether all reads were complete reads of numbers, and whether
    any was complete. -/
theorem pollLoop_flags (tagConfigs : List ModbusTagConfig)
    (hnonempty : ∀ tag ∈ tagConfigs, tag.name ≠ []) {device : Device}
    (hfind : loop.deviceManager.findDevice deviceId = some device) :
    ∃ reads, (tagConfigs.foldl (pollTag env arithmetic deviceId) loop).reads =
        loop.reads ++ reads ∧
      ((tagConfigs.foldl (pollTag env arithmetic deviceId) loop).allSucceeded = true ↔
        loop.allSucceeded = true ∧ ∀ read ∈ reads, read.Succeeded arithmetic) ∧
      ((tagConfigs.foldl (pollTag env arithmetic deviceId) loop).receivedResponse = true ↔
        loop.receivedResponse = true ∨ ∃ read ∈ reads, read.Responded) := by
  induction tagConfigs generalizing loop device with
  | nil => exact ⟨[], (List.append_nil _).symm, by simp, by simp⟩
  | cons tagConfig tagConfigs ih =>
    have hname := hnonempty tagConfig List.mem_cons_self
    obtain ⟨hsucceeded, hreceived⟩ := pollTag_flags env arithmetic
      hfind hname
    obtain ⟨reads, hreads, hall, hany⟩ :=
      ih (fun tag htag => hnonempty tag (List.mem_cons_of_mem _ htag))
        (pollTag_device env arithmetic hfind hname)
    refine ⟨⟨tagConfig, env.readRegisters loop.tick⟩ :: reads, ?_, ?_, ?_⟩
    · rw [List.foldl_cons, hreads, pollTag_reads, List.append_assoc, List.singleton_append]
    · rw [List.foldl_cons, hall, hsucceeded, List.forall_mem_cons, Bool.and_eq_true,
        decide_eq_true_iff, and_assoc]
    · rw [List.foldl_cons, hany, hreceived, Bool.or_eq_true, decide_eq_true_iff, or_assoc]
      simp only [List.mem_cons, exists_eq_or_imp]

/-! ## The end of a pass -/

/-- The plugin after the loop. -/
def afterLoop (plugin : ModbusPlugin) : ModbusPlugin :=
  let loop := plugin.pollTags env arithmetic
  { plugin with
    deviceManager := loop.deviceManager
    tick := loop.tick
    trace := .polled loop.reads :: plugin.trace }

/-- Whether a call that reaches the loop ends in a timeout: no read was answered, and
    `checkTimeout` returns true. -/
def endsInTimeout (plugin : ModbusPlugin) : Bool :=
  !(plugin.pollTags env arithmetic).receivedResponse &&
    ((plugin.afterLoop env arithmetic).checkTimeout env).2

/-- What a call that reached the loop as `entered` has returned and done to the tags of the
    device. -/
structure PollReport (entered : ModbusPlugin) (answer : ModbusPlugin × Bool)
    (config : ModbusTcpConfig) (tags tags' : Bytes → Option Tag) : Prop where
  reads : (entered.pollTags env arithmetic).reads.map RegisterRead.tagConfig = config.tags
  distinct : (config.tags.map ModbusTagConfig.name).Nodup
  writes : ∃ writes : List (Tag × Int64),
    (writes.map fun write => write.1.name) = config.tags.map ModbusTagConfig.name ∧
      (entered.pollTags env arithmetic).deviceManager =
        applyWrites entered.deviceManager config.deviceId writes
  result : answer.2 = true ↔
    ∀ read ∈ (entered.pollTags env arithmetic).reads, read.Delivered arithmetic tags'
  unconfigured : entered.endsInTimeout env arithmetic = false →
    ∀ name ∉ config.tags.map ModbusTagConfig.name, tags' name = tags name
  timedOut : entered.endsInTimeout env arithmetic = true →
    answer.1.connected = false ∧
      (∀ name tag, tags' name = some tag → tag.quality = .timeout) ∧
        ∃ now, ∀ name ∉ config.tags.map ModbusTagConfig.name,
          tags' name = requalify tags .timeout now name

variable {arithmetic} in
/-- A read that succeeded leaves the tag that it delivers, any other read one that is not
    `Good`. -/
theorem delivered_iff {read : RegisterRead} {now : Int64}
    (h : tags read.tagConfig.name = some (read.tag arithmetic now)) :
    read.Delivered arithmetic tags ↔ read.Succeeded arithmetic := by
  constructor
  · rintro ⟨tag, value, htag, hgood, hdecode, -⟩
    obtain rfl := Option.some.inj (h.symm.trans htag)
    exact ⟨(RegisterRead.tag_good hgood).1, Option.isSome_iff_exists.mpr ⟨value, hdecode⟩⟩
  · rintro ⟨hresponded, hsome⟩
    obtain ⟨value, hdecode⟩ := Option.isSome_iff_exists.mp hsome
    have hcount : ¬ read.answer.count ≠ registerCount read.tagConfig.dataType :=
      not_not.mpr hresponded
    refine ⟨_, value, h, ?_⟩
    rw [RegisterRead.tag, if_neg hcount, hdecode]
    exact ⟨rfl, rfl, rfl⟩

/-- What the loop has left, before the check of the timeout. -/
structure LoopReport (plugin : ModbusPlugin) (config : ModbusTcpConfig)
    (tags tags' : Bytes → Option Tag) : Prop where
  reads : (plugin.pollTags env arithmetic).reads.map RegisterRead.tagConfig = config.tags
  passTags : PassTags arithmetic (plugin.pollTags env arithmetic).reads tags tags'
  registered : (plugin.afterLoop env arithmetic).Registered config tags'
  allSucceeded : (plugin.pollTags env arithmetic).allSucceeded = true ↔
    ∀ read ∈ (plugin.pollTags env arithmetic).reads, read.Succeeded arithmetic
  receivedResponse : (plugin.pollTags env arithmetic).receivedResponse = true ↔
    ∃ read ∈ (plugin.pollTags env arithmetic).reads, read.Responded

theorem Registered.loopReport (h : plugin.Registered config tags)
    (hvalid : validateConfig config = true) :
    ∃ tags', LoopReport env arithmetic plugin config tags tags' := by
  obtain ⟨hnames, hnonempty⟩ := validateTags_names (validateConfig_tags hvalid)
  obtain ⟨device, hfind, htags⟩ := h.device
  have hnamed : ∀ tag ∈ config.tags, tag.name ≠ [] := fun tag htag => (hnonempty tag htag).1
  let start : PollLoop :=
    { deviceManager := plugin.deviceManager, tick := plugin.tick, allSucceeded := true,
      receivedResponse := false, reads := [] }
  have hstart : start.deviceManager.findDevice config.deviceId = some device := hfind
  have hloop : plugin.pollTags env arithmetic =
      config.tags.foldl (pollTag env arithmetic config.deviceId) start := by
    simp only [ModbusPlugin.pollTags, h.config_eq]
    rfl
  obtain ⟨reads, device', hreads, hrecorded, hfind', -, hpassTags, -⟩ :=
    pollLoop_spec env arithmetic config.tags hnames hnamed hstart
  obtain ⟨reads', hrecorded', hall, hany⟩ :=
    pollLoop_flags env arithmetic config.tags hnamed hstart
  rw [← hloop] at hrecorded hfind' hrecorded' hall hany
  -- both lemmas speak of the reads that the loop has recorded
  obtain rfl : reads = reads' := List.append_cancel_left (hrecorded.symm.trans hrecorded')
  have heq : (plugin.pollTags env arithmetic).reads = reads := hrecorded.trans (List.nil_append _)
  refine ⟨device'.tags, ?_⟩
  constructor
  case reads => rw [heq, hreads]
  case passTags => rwa [heq, ← htags]
  case registered => exact ⟨h.config_eq, h.deviceId, device', hfind', rfl⟩
  case allSucceeded =>
    rw [heq, hall]
    exact and_iff_right rfl
  case receivedResponse =>
    rw [heq, hany]
    exact or_iff_right Bool.false_ne_true

/-- `checkTimeout` leaves the tags. -/
theorem Registered.checkTimeout (h : plugin.Registered config tags) :
    (plugin.checkTimeout env).2 = false ∧ (plugin.checkTimeout env).1.Registered config tags ∨
      (plugin.checkTimeout env).2 = true ∧
        (plugin.checkTimeout env).1.Registered config tags := by
  obtain ⟨device, hfind, htags⟩ := h.device
  have hregistered : plugin.deviceManager.hasDevice plugin.stateMachine.deviceId = true := by
    rw [h.deviceId]
    exact Option.isSome_iff_exists.mpr ⟨device, hfind⟩
  rcases DeviceConnectionStateMachine.checkTimeout_cases hregistered
    (env.steadyNow plugin.tick) with ⟨hsame, -⟩ | ⟨hmade, -⟩
  · simp only [ModbusPlugin.checkTimeout, hsame]
    exact .inl ⟨trivial, h.config_eq, h.deviceId, device, hfind, htags⟩
  · simp only [ModbusPlugin.checkTimeout, hmade, h.deviceId]
    refine .inr ⟨trivial, h.setState ?_ .timeout _⟩
    rfl

theorem Registered.updateAllTagQualities (h : plugin.Registered config tags)
    (quality : Quality) :
    (plugin.updateAllTagQualities env quality).Registered config
      (requalify tags quality (env.systemNow plugin.tick)) := by
  obtain ⟨device, hfind, rfl⟩ := h.device
  have hfound := (DeviceManager.updateAllTagQualities_found hfind quality
    (env.systemNow plugin.tick)).2
  refine ⟨h.config_eq, h.deviceId, device.updateAllTagQualities quality _, ?_, rfl⟩
  simp only [ModbusPlugin.updateAllTagQualities, h.config_eq]
  exact hfound

/-- The two exits of a pass of a registered device. -/
theorem pollPass_cases {config : ModbusTcpConfig} {tags' : Bytes → Option Tag}
    (h : (plugin.afterLoop env arithmetic).Registered config tags') :
    (plugin.pollPass env arithmetic).2 = (plugin.pollTags env arithmetic).allSucceeded ∧
    (plugin.endsInTimeout env arithmetic = false ∧
        (plugin.pollPass env arithmetic).1.Registered config tags' ∨
      plugin.endsInTimeout env arithmetic = true ∧
        (plugin.pollPass env arithmetic).1.connected = false ∧
        ∃ now, (plugin.pollPass env arithmetic).1.Registered config
          (requalify tags' .timeout now)) := by
  have hafter : { plugin with
      deviceManager := (plugin.pollTags env arithmetic).deviceManager
      tick := (plugin.pollTags env arithmetic).tick
      trace := .polled (plugin.pollTags env arithmetic).reads :: plugin.trace } =
      plugin.afterLoop env arithmetic := rfl
  unfold pollPass endsInTimeout
  dsimp only
  rw [hafter]
  cases hreceived : (plugin.pollTags env arithmetic).receivedResponse with
  | true =>
    refine ⟨rfl, .inl ⟨rfl, ?_⟩⟩
    have hkept : ((plugin.afterLoop env arithmetic).markActivity env).stateMachine.deviceId =
        (plugin.afterLoop env arithmetic).stateMachine.deviceId := by
      simp only [ModbusPlugin.markActivity, DeviceConnectionStateMachine.markActivity]
      split <;> rfl
    exact ⟨h.config_eq, hkept.trans h.deviceId, h.device⟩
  | false =>
    obtain ⟨hwithin, hregistered⟩ | ⟨hover, hregistered⟩ := h.checkTimeout env
    · generalize (plugin.afterLoop env arithmetic).checkTimeout env = answer
        at hwithin hregistered
      obtain ⟨checked, timedOut⟩ := answer
      obtain rfl : timedOut = false := hwithin
      exact ⟨rfl, .inl ⟨rfl, hregistered⟩⟩
    · generalize (plugin.afterLoop env arithmetic).checkTimeout env = answer
        at hover hregistered
      obtain ⟨checked, timedOut⟩ := answer
      obtain rfl : timedOut = true := hover
      have hrequalified := hregistered.updateAllTagQualities env .timeout
      exact ⟨rfl, .inr ⟨rfl, rfl, _, hrequalified.config_eq, hrequalified.deviceId,
        hrequalified.device⟩⟩

variable {env arithmetic} in
/-- A tag that is not configured is not read, so the loop leaves it. -/
theorem LoopReport.unconfigured {tags' : Bytes → Option Tag}
    (h : LoopReport env arithmetic plugin config tags tags') {name : Bytes}
    (hname : name ∉ config.tags.map ModbusTagConfig.name) : tags' name = tags name := by
  apply h.passTags.other
  intro read hread heq
  apply hname
  rw [← heq, ← h.reads, List.map_map]
  exact List.mem_map_of_mem hread

variable {env arithmetic} in
/-- A pass over a tag that was not read completely is no success. -/
theorem LoopReport.not_allSucceeded {tags' : Bytes → Option Tag}
    (h : LoopReport env arithmetic plugin config tags tags')
    (hsilent : (plugin.pollTags env arithmetic).receivedResponse ≠ true) {read : RegisterRead}
    (hread : read ∈ (plugin.pollTags env arithmetic).reads) :
    (plugin.pollTags env arithmetic).allSucceeded ≠ true := by
  intro hall
  have hsucceeded := h.allSucceeded.mp hall read hread
  exact hsilent (h.receivedResponse.mpr ⟨read, hread, hsucceeded.1⟩)

variable {env arithmetic} in
/-- An accepted configuration has a tag, so a pass makes a read. -/
theorem LoopReport.exists_read {tags' : Bytes → Option Tag}
    (h : LoopReport env arithmetic plugin config tags tags')
    (hvalid : validateConfig config = true) :
    ∃ read, read ∈ (plugin.pollTags env arithmetic).reads := by
  apply List.exists_mem_of_ne_nil
  intro hnil
  have htags : config.tags = [] := by rw [← h.reads, hnil, List.map_nil]
  simp [validateConfig, htags] at hvalid

variable {env arithmetic} in
/-- A pass that leaves the tags of the loop succeeds exactly if they are all delivered. -/
theorem LoopReport.delivered {tags' : Bytes → Option Tag}
    (h : LoopReport env arithmetic plugin config tags tags') :
    (plugin.pollTags env arithmetic).allSucceeded = true ↔
      ∀ read ∈ (plugin.pollTags env arithmetic).reads, read.Delivered arithmetic tags' := by
  rw [h.allSucceeded]
  apply forall₂_congr
  intro read hread
  obtain ⟨now, htag⟩ := h.passTags.read read hread
  exact (delivered_iff htag).symm

variable {env arithmetic} in
/-- A pass without an answer fails, and the update to `Timeout` leaves no tag `Good`. -/
theorem LoopReport.delivered_requalified {tags' : Bytes → Option Tag}
    (h : LoopReport env arithmetic plugin config tags tags')
    (hvalid : validateConfig config = true)
    (hsilent : (plugin.pollTags env arithmetic).receivedResponse ≠ true) (now : Int64) :
    (plugin.pollTags env arithmetic).allSucceeded = true ↔
      ∀ read ∈ (plugin.pollTags env arithmetic).reads,
        read.Delivered arithmetic (requalify tags' .timeout now) := by
  obtain ⟨read, hread⟩ := h.exists_read hvalid
  apply iff_of_false (h.not_allSucceeded hsilent hread)
  intro hdelivered
  obtain ⟨tag, _, htag, hgood, -⟩ := hdelivered read hread
  obtain ⟨_, -, rfl⟩ := Option.map_eq_some_iff.mp htag
  exact nomatch hgood

/-- The tags that `pollTags` writes. -/
theorem pollTags_writes (h : plugin.config = config) :
    ∃ writes : List (Tag × Int64),
      (writes.map fun write => write.1.name) = config.tags.map ModbusTagConfig.name ∧
        (plugin.pollTags env arithmetic).deviceManager =
          applyWrites plugin.deviceManager config.deviceId writes := by
  subst h
  exact pollLoop_writes env arithmetic plugin.config.deviceId plugin.config.tags _

/-- For every accepted configuration, every registered device and all answers, a call of
    `pollOnce` that reaches the loop returns true exactly when afterwards every configured
    tag is `Good` with the value decoded from the registers read for it in this call. The
    loop writes each configured tag once and no other tag, and where the call ends in a
    timeout every tag of the device is in `Timeout` and the connection is closed. -/
theorem poll_result_matches_data (env : ModbusEnvironment) (arithmetic : DoubleArithmetic)
    {plugin entered : ModbusPlugin} {config : ModbusTcpConfig} {tags : Bytes → Option Tag}
    (hvalid : validateConfig config = true) (hregistered : plugin.Registered config tags)
    (hentry : plugin.loopEntry env = some entered) :
    ∃ tags', (plugin.pollOnce env arithmetic).1.Registered config tags' ∧
      PollReport env arithmetic entered (plugin.pollOnce env arithmetic) config tags tags' := by
  obtain ⟨loopTags, hloop⟩ :=
    (hregistered.loopEntry env hentry).loopReport env arithmetic hvalid
  obtain ⟨hnames, -⟩ := validateTags_names (validateConfig_tags hvalid)
  obtain ⟨hresult, hexit⟩ := pollPass_cases env arithmetic hloop.registered
  have hwrites := pollTags_writes env arithmetic
    (hregistered.loopEntry env hentry).config_eq
  rw [pollOnce_of_loopEntry env arithmetic hentry]
  rcases hexit with ⟨hup, hafter⟩ | ⟨htimeout, hclosed, now, hafter⟩
  · refine ⟨loopTags, hafter, ?_⟩
    constructor
    case reads => exact hloop.reads
    case distinct => exact hnames
    case writes => exact hwrites
    case result => rw [hresult, hloop.delivered]
    case unconfigured =>
      intro _ name hname
      exact hloop.unconfigured hname
    case timedOut =>
      intro htimeout
      rw [hup] at htimeout
      exact nomatch htimeout
  · refine ⟨_, hafter, ?_⟩
    constructor
    case reads => exact hloop.reads
    case distinct => exact hnames
    case writes => exact hwrites
    case result =>
      have hsilent : (entered.pollTags env arithmetic).receivedResponse ≠ true := by
        intro hreceived
        simp [endsInTimeout, hreceived] at htimeout
      rw [hresult, hloop.delivered_requalified hvalid hsilent]
    case unconfigured =>
      intro hup
      rw [htimeout] at hup
      exact nomatch hup
    case timedOut =>
      intro _
      refine ⟨hclosed, ?_, now, ?_⟩
      · intro name tag htag
        obtain ⟨_, -, rfl⟩ := Option.map_eq_some_iff.mp htag
        rfl
      · intro name hname
        simp only [requalify, hloop.unconfigured hname]

/-- The sample plugin at a time at which its device accepts connections. -/
def reachablePlugin : ModbusPlugin := { samplePlugin with tick := 20 }

theorem reachablePlugin_registered : reachablePlugin.Registered {} fun _ => none :=
  ⟨rfl, rfl, _, rfl, rfl⟩

/-- The sample device answers the first read with the value 7. -/
theorem poll_result_of_sample :
    ∃ entered tags',
      (reachablePlugin.pollOnce sampleEnvironment sampleArithmetic).1.Registered {} tags' ∧
        PollReport sampleEnvironment sampleArithmetic entered
          (reachablePlugin.pollOnce sampleEnvironment sampleArithmetic) {} (fun _ => none)
          tags' := by
  have hentry : reachablePlugin.loopEntry sampleEnvironment =
      some ((reachablePlugin.loopEntry sampleEnvironment).get (by decide)) :=
    (Option.some_get _).symm
  exact ⟨_, poll_result_matches_data sampleEnvironment sampleArithmetic (by decide)
    reachablePlugin_registered hentry⟩

end ModbusPlugin

end EdgeLink
