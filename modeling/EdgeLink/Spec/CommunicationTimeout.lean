import EdgeLink.ForStd.CappedDoubling
import EdgeLink.Spec.DeviceConnectionStateMachineCorrect

/-! # The communication timeout

What `checkTimeout` says about the silence of a device, over runs in which the machine
leaves and enters `Connected` any number of times.

* `WatchedMachine`: a machine together with the contacts of its current connection, the
  times of the last transition into `Connected` and of the activity noted since.
* `WatchedInv.perform`: `lastActivity` is the latest contact, as long as the device is
  connected.
* `timeout_silence_iff`: the timeouts for which `checkTimeout` returns true exactly after
  that much silence. -/

namespace EdgeLink

/-- A machine and its clock, with a record of its contacts. -/
structure WatchedMachine where
  shared : SharedMachine
  contacts : List Int64
  started : Int64
  clock : Int64

/-- The reading of the clock that a call makes. -/
def MachineCall.reading : MachineCall → Option Int64
  | .transitionTo _ now | .markActivity now | .checkTimeout now => some now
  | _ => none

/-- A call of another component that leaves the device as it is. A registered device is not
    replaced by `addDevice`. -/
def MachineCall.Leaves (deviceId : Bytes) : MachineCall → Prop
  | .removeDevice other | .updateConnectionState other _ => other ≠ deviceId
  | .clear => False
  | _ => True

/-- The latest of the contacts. -/
def LatestContact (contacts : List Int64) (latest : Int64) : Prop :=
  latest ∈ contacts ∧ ∀ contact ∈ contacts, contact ≤ latest

namespace WatchedMachine

/-- The contacts after a call. A transition to the current state is none. -/
def contactsAfter (σ : WatchedMachine) : MachineCall → List Int64
  | .transitionTo nextState now =>
    if σ.shared.machine.state ≠ .connected ∧
        (σ.shared.perform (.transitionTo nextState now)).machine.state = .connected then
      [now]
    else σ.contacts
  | .markActivity now =>
    if σ.shared.machine.state = .connected then σ.contacts ++ [now] else σ.contacts
  | _ => σ.contacts

def perform (σ : WatchedMachine) (call : MachineCall) : WatchedMachine where
  shared := σ.shared.perform call
  contacts := σ.contactsAfter call
  started := σ.started
  clock := call.reading.getD σ.clock

/-- A machine that has just been created at the time `now`. -/
def watch (manager : DeviceManager) (machine : DeviceConnectionStateMachine) (now : Int64) :
    WatchedMachine where
  shared := ⟨machine, manager⟩
  contacts := if machine.state = .connected then [now] else []
  started := now
  clock := now

end WatchedMachine

/-- The runs of a machine. -/
def watchedSystem : TransitionSystem WatchedMachine MachineCall where
  init σ := ∃ manager machine now, σ = .watch manager machine now
  step σ call := some (σ.perform call)

/-- The clock does not go back, its readings do not leave the range in which time points can
    be subtracted, and nobody else changes the device. -/
structure Undisturbed (σ : WatchedMachine) (call : MachineCall) : Prop where
  leaves : call.Leaves σ.shared.machine.deviceId
  monotone : ∀ now ∈ call.reading, σ.clock ≤ now
  range : ∀ now ∈ call.reading, now.toInt - σ.started.toInt < 2 ^ 63

/-- The nanoseconds of a timeout. -/
def timeoutNanoseconds (timeout : Int64) : Int := timeout.toInt * 1000000

/-- `checkTimeout` returns true exactly when the device is connected and its latest contact is
    at least the timeout ago, and then the machine and the manager are in `Timeout`. Nothing
    changes where it returns false. -/
def SilenceReported (σ : WatchedMachine) : MachineCall → Prop
  | .checkTimeout now =>
    let machine := σ.shared.machine
    let result := machine.checkTimeout σ.shared.manager now
    (result.2.2 = true ↔
      machine.state = .connected ∧
        ∃ latest, LatestContact σ.contacts latest ∧
          timeoutNanoseconds machine.timeout ≤ now.toInt - latest.toInt) ∧
      (result.2.2 = true → result.1.state = .timeout) ∧
      TransitionReports σ.shared .timeout result
  | _ => True

/-! ## The invariant -/

/-- As long as the device is connected, `lastActivity` is the latest contact. -/
structure WatchedInv (timeout : Int64) (σ : WatchedMachine) : Prop where
  timeout_eq : σ.shared.machine.timeout = timeout
  registered : σ.shared.manager.hasDevice σ.shared.machine.deviceId = true
  latest : σ.shared.machine.state = .connected →
    LatestContact σ.contacts σ.shared.machine.lastActivity
  past : ∀ contact ∈ σ.contacts, σ.started ≤ contact ∧ contact ≤ σ.clock
  clock : σ.started ≤ σ.clock

theorem latestContact_singleton (now : Int64) : LatestContact [now] now := by
  refine ⟨List.mem_cons_self, fun contact hmem => ?_⟩
  obtain rfl := List.mem_singleton.mp hmem
  exact Int64.le_refl _

/-- There is one latest contact. -/
theorem LatestContact.unique {contacts : List Int64} {latest other : Int64}
    (h : LatestContact contacts latest) (h' : LatestContact contacts other) :
    latest = other :=
  Int64.le_antisymm (h'.2 latest h.1) (h.2 other h'.1)

namespace WatchedInv

variable {σ : WatchedMachine} {timeout : Int64}

/-- What a call of another component leaves as it is. -/
theorem of_manager (h : WatchedInv timeout σ) {manager : DeviceManager}
    (hregistered : manager.hasDevice σ.shared.machine.deviceId = true) :
    WatchedInv timeout { σ with shared := { σ.shared with manager } } where
  timeout_eq := h.timeout_eq
  registered := hregistered
  latest := h.latest
  past := h.past
  clock := h.clock

/-- A reading moves the clock. -/
theorem tick (h : WatchedInv timeout σ) {now : Int64} (hnow : σ.clock ≤ now) :
    WatchedInv timeout { σ with clock := now } where
  timeout_eq := h.timeout_eq
  registered := h.registered
  latest := h.latest
  past contact hmem :=
    ⟨(h.past contact hmem).1, Int64.le_trans (h.past contact hmem).2 hnow⟩
  clock := Int64.le_trans h.clock hnow

/-- The machine leaves `Connected`, or moves between other states. -/
theorem leave (h : WatchedInv timeout σ) {nextState : ConnectionState}
    (hstate : nextState ≠ .connected) :
    WatchedInv timeout
      { σ with
        shared :=
          { machine := { σ.shared.machine with state := nextState }
            manager := (σ.shared.manager.updateConnectionState
              σ.shared.machine.deviceId nextState).1 } } where
  timeout_eq := h.timeout_eq
  registered := DeviceManager.hasDevice_updateConnectionState h.registered _ _
  latest hconnected := absurd hconnected hstate
  past := h.past
  clock := h.clock

/-- A contact at the present time is the latest one. -/
theorem contact (h : WatchedInv timeout σ) {contacts : List Int64}
    (hcontacts : contacts ⊆ σ.contacts)
    {manager : DeviceManager} (hregistered : manager.hasDevice σ.shared.machine.deviceId = true)
    (state : ConnectionState) :
    WatchedInv timeout
      { σ with
        shared :=
          { machine := { σ.shared.machine with state, lastActivity := σ.clock }
            manager }
        contacts := contacts ++ [σ.clock] } where
  timeout_eq := h.timeout_eq
  registered := hregistered
  latest _ := by
    refine ⟨List.mem_append_right _ List.mem_cons_self, fun contact hmem => ?_⟩
    rcases List.mem_append.mp hmem with hold | hnew
    · exact (h.past contact (hcontacts hold)).2
    · obtain rfl := List.mem_singleton.mp hnew
      exact Int64.le_refl _
  past contact hmem := by
    rcases List.mem_append.mp hmem with hold | hnew
    · exact h.past contact (hcontacts hold)
    · obtain rfl := List.mem_singleton.mp hnew
      exact ⟨h.clock, Int64.le_refl _⟩
  clock := h.clock

/-- What a call returns for the machine and the manager is what is shared afterwards. -/
theorem shared_transitionTo {shared : SharedMachine} {nextState : ConnectionState} {now : Int64}
    {machine : DeviceConnectionStateMachine} {manager : DeviceManager} {result : Bool}
    (h : shared.machine.transitionTo shared.manager nextState now = (machine, manager, result)) :
    shared.perform (.transitionTo nextState now) = ⟨machine, manager⟩ := by
  simp only [SharedMachine.perform, h]

theorem shared_checkTimeout {shared : SharedMachine} {now : Int64}
    {machine : DeviceConnectionStateMachine} {manager : DeviceManager} {result : Bool}
    (h : shared.machine.checkTimeout shared.manager now = (machine, manager, result)) :
    shared.perform (.checkTimeout now) = ⟨machine, manager⟩ := by
  simp only [SharedMachine.perform, h]

/-- A call with a reading, given what it does to the machine and to the contacts. -/
theorem perform_eq {call : MachineCall} {shared : SharedMachine} {contacts : List Int64}
    {now : Int64} (hreading : call.reading = some now) (hshared : σ.shared.perform call = shared)
    (hcontacts : σ.contactsAfter call = contacts) :
    σ.perform call = { σ with shared, contacts, clock := now } := by
  rw [WatchedMachine.perform, hreading, hshared, hcontacts]
  rfl

/-- `transitionTo` opens a connection, closes one, or does nothing. -/
theorem transitionTo (h : WatchedInv timeout σ) {now : Int64} (hnow : σ.clock ≤ now)
    (nextState : ConnectionState) :
    WatchedInv timeout (σ.perform (.transitionTo nextState now)) := by
  have htick := h.tick hnow
  rcases DeviceConnectionStateMachine.transitionTo_cases h.registered nextState now with
    ⟨result, hsame⟩ | ⟨hne, hmade⟩
  · have hshared := shared_transitionTo hsame
    have hcontacts : σ.contactsAfter (.transitionTo nextState now) = σ.contacts := by
      rw [WatchedMachine.contactsAfter, hshared]
      exact if_neg fun h => h.1 h.2
    rw [perform_eq rfl hshared hcontacts]
    exact htick
  · have hshared := shared_transitionTo hmade
    by_cases hconnected : nextState = .connected
    · -- the first contact of a new connection
      subst hconnected
      have hcontacts : σ.contactsAfter (.transitionTo .connected now) = [] ++ [now] := by
        rw [WatchedMachine.contactsAfter, hshared]
        exact if_pos ⟨Ne.symm hne, rfl⟩
      rw [perform_eq rfl hshared hcontacts]
      exact htick.contact (List.nil_subset _)
        (DeviceManager.hasDevice_updateConnectionState h.registered _ _) .connected
    · have hcontacts : σ.contactsAfter (.transitionTo nextState now) = σ.contacts := by
        rw [WatchedMachine.contactsAfter, hshared]
        exact if_neg fun h => hconnected h.2
      rw [perform_eq rfl hshared hcontacts, if_neg hconnected]
      exact htick.leave hconnected

/-- `markActivity` notes a contact of a connected device. -/
theorem markActivity (h : WatchedInv timeout σ) {now : Int64} (hnow : σ.clock ≤ now) :
    WatchedInv timeout (σ.perform (.markActivity now)) := by
  have htick := h.tick hnow
  by_cases hconnected : σ.shared.machine.state = .connected
  · have hshared : σ.shared.perform (.markActivity now) =
        ⟨{ σ.shared.machine with state := .connected, lastActivity := now },
          σ.shared.manager⟩ := by
      simp [SharedMachine.perform, DeviceConnectionStateMachine.markActivity, hconnected]
    rw [perform_eq rfl hshared (if_pos hconnected)]
    exact htick.contact (List.Subset.refl _) h.registered .connected
  · have hshared : σ.shared.perform (.markActivity now) = σ.shared := by
      simp [SharedMachine.perform, DeviceConnectionStateMachine.markActivity, hconnected]
    rw [perform_eq rfl hshared (if_neg hconnected)]
    exact htick

/-- `checkTimeout` closes a connection or does nothing. -/
theorem checkTimeout (h : WatchedInv timeout σ) {now : Int64} (hnow : σ.clock ≤ now) :
    WatchedInv timeout (σ.perform (.checkTimeout now)) := by
  have htick := h.tick hnow
  rcases DeviceConnectionStateMachine.checkTimeout_cases h.registered now with
    ⟨hsame, -⟩ | ⟨hmade, -⟩
  · rw [perform_eq rfl (shared_checkTimeout hsame) rfl]
    exact htick
  · rw [perform_eq rfl (shared_checkTimeout hmade) rfl]
    exact htick.leave (by decide)

/-- Every undisturbed call keeps the invariant. -/
theorem perform (h : WatchedInv timeout σ) {call : MachineCall} (hok : Undisturbed σ call) :
    WatchedInv timeout (σ.perform call) := by
  cases call with
  | transitionTo nextState now => exact h.transitionTo (hok.monotone now rfl) nextState
  | markActivity now => exact h.markActivity (hok.monotone now rfl)
  | checkTimeout now => exact h.checkTimeout (hok.monotone now rfl)
  | addDevice device => exact h.of_manager (DeviceManager.hasDevice_addDevice h.registered device)
  | removeDevice other =>
    exact h.of_manager (DeviceManager.hasDevice_removeDevice h.registered hok.leaves)
  | updateConnectionState other state =>
    exact h.of_manager (DeviceManager.hasDevice_updateConnectionState h.registered other state)
  | clear => exact hok.leaves.elim

end WatchedInv

/-- A machine starts with its creation as a contact, where the device is connected. -/
theorem watchedInv_watch {manager : DeviceManager} {deviceId : Bytes} {timeout now : Int64}
    {machine : DeviceConnectionStateMachine}
    (h : DeviceConnectionStateMachine.create manager deviceId timeout now = some machine) :
    WatchedInv timeout (.watch manager machine now) := by
  unfold DeviceConnectionStateMachine.create at h
  split at h
  · exact nomatch h
  · obtain ⟨device, hfind, rfl⟩ := Option.map_eq_some_iff.mp h
    constructor
    case timeout_eq => rfl
    case registered => exact Option.isSome_iff_exists.mpr ⟨device, hfind⟩
    case latest =>
      intro hconnected
      have hcontacts : (if device.state = .connected then [now] else []) = [now] :=
        if_pos hconnected
      show LatestContact (if device.state = .connected then [now] else []) now
      rw [hcontacts]
      exact latestContact_singleton now
    case past =>
      intro contact hmem
      simp only [WatchedMachine.watch] at hmem
      split at hmem
      · obtain rfl := List.mem_singleton.mp hmem
        exact ⟨Int64.le_refl _, Int64.le_refl _⟩
      · exact nomatch hmem
    case clock => exact Int64.le_refl _

/-! ## The timeout -/

/-- A timeout that can be converted to nanoseconds is compared as it is. -/
theorem timeout_le_iff {timeout now lastActivity : Int64}
    (hpositive : 0 ≤ timeout.toInt) (htimeout : timeoutNanoseconds timeout < 2 ^ 63)
    (hle : lastActivity.toInt ≤ now.toInt) (hrange : now.toInt - lastActivity.toInt < 2 ^ 63) :
    nanosecondsOfMilliseconds timeout ≤ now - lastActivity ↔
      timeoutNanoseconds timeout ≤ now.toInt - lastActivity.toInt := by
  have hdifference : (now - lastActivity).toInt = now.toInt - lastActivity.toInt := by
    rw [Int64.toInt_sub]
    exact Int.bmod_eq_of_le (by omega) (by omega)
  have hconversion : (nanosecondsOfMilliseconds timeout).toInt = timeoutNanoseconds timeout := by
    have hunit : (1000000 : Int64).toInt = 1000000 := rfl
    unfold timeoutNanoseconds at htimeout ⊢
    rw [nanosecondsOfMilliseconds, Int64.toInt_mul_exact, hunit] <;> rw [hunit] <;> omega
  rw [Int64.le_iff_toInt_le, hdifference, hconversion]

/-- In a state of the invariant, an undisturbed `checkTimeout` reports the silence of the
    device, where its timeout can be converted. -/
theorem WatchedInv.silenceReported {σ : WatchedMachine} {timeout : Int64}
    (h : WatchedInv timeout σ) (hpositive : 0 ≤ timeout.toInt)
    (htimeout : timeoutNanoseconds timeout < 2 ^ 63) {call : MachineCall}
    (hok : Undisturbed σ call) : SilenceReported σ call := by
  cases call with
  | checkTimeout now =>
    have hnow := hok.monotone now rfl
    have hrange := hok.range now rfl
    have hsilence (hconnected : σ.shared.machine.state = .connected) :
        nanosecondsOfMilliseconds σ.shared.machine.timeout ≤
            now - σ.shared.machine.lastActivity ↔
          ∃ latest, LatestContact σ.contacts latest ∧
            timeoutNanoseconds σ.shared.machine.timeout ≤ now.toInt - latest.toInt := by
      have hlatest := h.latest hconnected
      have hpast := h.past _ hlatest.1
      rw [Int64.le_iff_toInt_le] at hnow
      rw [Int64.le_iff_toInt_le, Int64.le_iff_toInt_le] at hpast
      rw [h.timeout_eq, timeout_le_iff hpositive htimeout (by omega) (by omega)]
      constructor
      · exact fun hle => ⟨_, hlatest, hle⟩
      · rintro ⟨latest, hother, hle⟩
        rwa [hlatest.unique hother]
    refine ⟨?_, ?_, checkTimeout_reports σ.shared now⟩
    · rw [← and_congr_right hsilence]
      rcases DeviceConnectionStateMachine.checkTimeout_cases h.registered now with
        ⟨hsame, hnot⟩ | ⟨hmade, hover⟩
      · rw [hsame]
        exact iff_of_false (fun h => nomatch h) hnot
      · rw [hmade]
        exact iff_of_true rfl hover
    · rcases DeviceConnectionStateMachine.checkTimeout_cases h.registered now with
        ⟨hsame, -⟩ | ⟨hmade, -⟩
      · rw [hsame]
        exact fun h => nomatch h
      · rw [hmade]
        exact fun _ => rfl
  | transitionTo | markActivity | addDevice | removeDevice | updateConnectionState | clear =>
    trivial

/-! ## Runs -/

/-- `checkTimeout` reports silence in every undisturbed run of every machine with the
    timeout. -/
def TimeoutMeansSilence (timeout : Int64) : Prop :=
  ∀ manager deviceId now machine calls,
    DeviceConnectionStateMachine.create manager deviceId timeout now = some machine →
    watchedSystem.EveryStep Undisturbed (.watch manager machine now) calls →
    watchedSystem.EveryStep SilenceReported (.watch manager machine now) calls

/-- Where the timeout can be converted to nanoseconds, every run reports silence. -/
theorem timeoutMeansSilence {timeout : Int64}
    (htimeout : timeoutNanoseconds timeout < 2 ^ 63) : TimeoutMeansSilence timeout := by
  intro manager deviceId now machine calls hcreate hundisturbed
  have hpositive : 0 ≤ timeout.toInt := by
    unfold DeviceConnectionStateMachine.create at hcreate
    split at hcreate
    · exact nomatch hcreate
    · rename_i hvalid
      rw [not_or, Int64.le_iff_toInt_le, show (0 : Int64).toInt = 0 from rfl] at hvalid
      omega
  have hiff := TransitionSystem.everyStep_iff_of_invariant (S := watchedSystem)
    (WatchedInv timeout) (p := SilenceReported) (q := TransitionSystem.anyStep)
    (r := Undisturbed)
    (fun σ call hinv hok => iff_of_true (hinv.silenceReported hpositive htimeout hok) trivial)
    (fun σ call σ' hinv hok _ hstep => by
      obtain rfl := Option.some.inj hstep
      exact hinv.perform hok)
    calls (watchedInv_watch hcreate) hundisturbed
  exact hiff.mpr (TransitionSystem.everyStep_of_forall (fun _ _ => trivial) calls _)

/-- A manager whose only device is connected. -/
def connectedManager (deviceId : Bytes) : DeviceManager :=
  (DeviceManager.updateConnectionState (managerOf deviceId) deviceId .connected).1

/-- The machine of the connected device, created at time 0. -/
def connectedMachine (timeout : Int64) : DeviceConnectionStateMachine where
  deviceId := ascii "d"
  timeout := timeout
  lastActivity := 0
  state := .connected

/-- A later check by the machine of the connected device is undisturbed. -/
theorem undisturbed_connected (timeout : Int64) {now : Int64} (hnow : 0 ≤ now) :
    watchedSystem.EveryStep Undisturbed
      (.watch (connectedManager (ascii "d")) (connectedMachine timeout) 0)
      [.checkTimeout now] := by
  refine ⟨⟨trivial, ?_, ?_⟩, fun _ _ => trivial⟩
  · rintro _ ⟨rfl⟩
    exact hnow
  · rintro _ ⟨rfl⟩
    have hlt := now.toInt_lt
    have hzero : (0 : Int64).toInt = 0 := rfl
    simp only [WatchedMachine.watch, hzero]
    omega

/-- A timeout from 2^63 ns on wraps, and then the longest silence that the clock can measure
    is enough, although it is shorter. -/
theorem wrapped_timeout {timeout : Int64} (h : 2 ^ 63 ≤ timeoutNanoseconds timeout) :
    ¬ TimeoutMeansSilence timeout := by
  intro hall
  have hpositive : ¬ timeout ≤ 0 := by
    rw [Int64.le_iff_toInt_le, show (0 : Int64).toInt = 0 from rfl]
    unfold timeoutNanoseconds at h
    omega
  have hcreate : DeviceConnectionStateMachine.create (connectedManager (ascii "d")) (ascii "d")
      timeout 0 = some (connectedMachine timeout) := by
    unfold DeviceConnectionStateMachine.create
    rw [if_neg (by rw [not_or]; exact ⟨by decide, hpositive⟩)]
    rfl
  have hlast : (Int64.maxValue).toInt = 2 ^ 63 - 1 := rfl
  have hsteps := hall _ _ 0 _ [.checkTimeout Int64.maxValue] hcreate
    (undisturbed_connected timeout (by decide))
  obtain ⟨hiff, -, -⟩ := hsteps.1
  have htrue : (DeviceConnectionStateMachine.checkTimeout (connectedMachine timeout)
      (connectedManager (ascii "d")) Int64.maxValue).2.2 = true := by
    have hregistered : (connectedManager (ascii "d")).hasDevice
        (connectedMachine timeout).deviceId = true := rfl
    rcases DeviceConnectionStateMachine.checkTimeout_cases hregistered Int64.maxValue with
      ⟨-, hnot⟩ | ⟨hmade, -⟩
    · -- no timeout, as it was converted, is more than the difference
      have hdifference :
          Int64.maxValue - (connectedMachine timeout).lastActivity = Int64.maxValue :=
        Int64.sub_zero _
      rw [hdifference] at hnot
      exact absurd ⟨rfl, Int64.le_maxValue _⟩ hnot
    · rw [hmade]
  obtain ⟨-, latest, ⟨hmem, -⟩, hle⟩ := hiff.mp htrue
  obtain rfl := List.mem_singleton.mp hmem
  have hzero : (0 : Int64).toInt = 0 := rfl
  have htimeout : (connectedMachine timeout).timeout = timeout := rfl
  simp only [WatchedMachine.watch, htimeout, hlast, hzero] at hle
  omega

/-- Over all runs with a monotone clock that leave the device to its machine, `checkTimeout`
    returns true exactly after the timeout in silence, if and only if the timeout is less
    than 2^63 ns. -/
theorem timeout_silence_iff (timeout : Int64) :
    TimeoutMeansSilence timeout ↔ timeoutNanoseconds timeout < 2 ^ 63 := by
  constructor
  · intro h
    by_contra hwrapped
    exact wrapped_timeout (Int.not_lt.mp hwrapped) h
  · exact timeoutMeansSilence

/-- A connected device with a timeout of 9223372036855 ms, 292 years, is in `Timeout` as soon
    as it is asked about. -/
theorem long_timeout_at_once :
    DeviceConnectionStateMachine.create (connectedManager (ascii "d")) (ascii "d")
        9223372036855 0 = some (connectedMachine 9223372036855) ∧
      (DeviceConnectionStateMachine.checkTimeout (connectedMachine 9223372036855)
        (connectedManager (ascii "d")) 0).2.2 = true ∧
      watchedSystem.EveryStep Undisturbed (.watch (connectedManager (ascii "d"))
        (connectedMachine 9223372036855) 0) [.checkTimeout 0] ∧
      ¬ watchedSystem.EveryStep SilenceReported (.watch (connectedManager (ascii "d"))
        (connectedMachine 9223372036855) 0) [.checkTimeout 0] := by
  have htrue : (DeviceConnectionStateMachine.checkTimeout (connectedMachine 9223372036855)
      (connectedManager (ascii "d")) 0).2.2 = true := by decide
  refine ⟨by rfl, htrue, undisturbed_connected _ (by decide), fun h => ?_⟩
  -- no contact is a positive time before the creation
  obtain ⟨-, latest, ⟨hmem, -⟩, hle⟩ := h.1.1.mp htrue
  obtain rfl := List.mem_singleton.mp hmem
  exact absurd hle (by decide)

end EdgeLink
