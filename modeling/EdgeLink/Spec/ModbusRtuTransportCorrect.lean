import EdgeLink.Native.ModbusRtuTransport

/-! # Life of the RTU contexts

Over every run of a `ModbusRtuTransport`, whatever libmodbus answers, no call is made on the
null pointer or on a context that was freed, a context is connected at most once at a time and
only then read, and the destructor leaves nothing behind.

* `RegisterRequest.InRange`: what a Modbus device can be asked for.
* `Lifetime`: the invariant; each function of the transport keeps it.
* `readHoldingRegisters_result`: when a read succeeds, and what the caller's vector holds.
* `rtu_context_lifetime`: the result over runs. -/

namespace EdgeLink

/-- At most 125 registers, none past the last address. -/
def RegisterRequest.InRange (request : RegisterRequest) : Prop :=
  0 ≤ request.address.toInt ∧ 1 ≤ request.count.toInt ∧ request.count.toInt ≤ 125 ∧
    request.address.toInt + request.count.toInt ≤ 65536

instance (request : RegisterRequest) : Decidable request.InRange :=
  inferInstanceAs (Decidable (_ ∧ _))

namespace ModbusRtuTransport

open SessionTrace

/-- What holds of the transport between two calls. -/
structure Lifetime (transport : ModbusRtuTransport) : Prop where
  owns : Owns transport.calls transport.context transport.connected
  requests : ∀ request ∈ transport.calls.requests, request.InRange

variable (env : RtuEnvironment) {transport : ModbusRtuTransport}

theorem lifetime_create (config : ModbusRtuConfig) : (create config).Lifetime where
  owns := .nil
  requests request hmem := absurd hmem (by simp [create, requests])

/-- The range check of `readHoldingRegisters` is the range of a request. -/
theorem refused_iff (address count : Int32) :
    (address < 0 ∨ count ≤ 0 ∨ count > 125 ∨ address > 65535 - (count - 1)) ↔
      ¬ RegisterRequest.InRange ⟨address, count⟩ := by
  have hcount : (count - 1).toInt = (count.toInt - 1).bmod (2 ^ 32) := Int32.toInt_sub _ _
  have hlimit : (65535 - (count - 1)).toInt = (65535 - (count - 1).toInt).bmod (2 ^ 32) :=
    Int32.toInt_sub _ _
  have hzero : (0 : Int32).toInt = 0 := rfl
  have hmost : (125 : Int32).toInt = 125 := rfl
  simp only [RegisterRequest.InRange, gt_iff_lt, Int32.lt_iff_toInt_lt, Int32.le_iff_toInt_le,
    hzero, hmost]
  rw [hcount] at hlimit
  by_cases hrange : 1 ≤ count.toInt ∧ count.toInt ≤ 125
  · -- nothing wraps around
    have hplain : (65535 - (count - 1)).toInt = 65536 - count.toInt := by
      have hless : (count.toInt - 1).bmod (2 ^ 32) = count.toInt - 1 :=
        Int.bmod_eq_of_le (by omega) (by omega)
      rw [hlimit, hless, Int.bmod_eq_of_le (by omega) (by omega)]
      omega
    omega
  · omega

/-- `modbus_connect` on a context that is not connected. -/
theorem Lifetime.callConnect (h : transport.Lifetime) {address : Nat}
    (hcontext : transport.context = some address) (hclosed : transport.connected = false) :
    (transport.callConnect env).1.Lifetime := by
  have howns := h.owns
  rw [hcontext, hclosed] at howns
  unfold ModbusRtuTransport.callConnect
  split
  · refine ⟨?_, h.requests⟩
    show Owns (.used transport.context :: transport.calls) transport.context transport.connected
    rw [hcontext, hclosed]
    exact howns.used
  · refine ⟨?_, h.requests⟩
    show Owns (.connected transport.context :: transport.calls) transport.context true
    rw [hcontext]
    exact howns.connect

/-- A context is kept if it could be given its slave number, and freed otherwise. -/
theorem Lifetime.createContext (h : transport.Lifetime) (hcontext : transport.context = none)
    (hclosed : transport.connected = false) :
    (transport.createContext env).1.Lifetime ∧
      (transport.createContext env).1.connected = false ∧
      ((transport.createContext env).2 = true →
        ∃ address, (transport.createContext env).1.context = some address) := by
  have howns := h.owns
  rw [hcontext, hclosed] at howns
  unfold ModbusRtuTransport.createContext
  split
  · refine ⟨⟨h.owns, h.requests⟩, hclosed, fun htrue => by cases htrue⟩
  · rename_i address _
    have hcreated := (howns.created address).used
    by_cases hslave : env.setSlave (transport.tick + 1) < 0
    · simp only [hslave, if_true]
      refine ⟨⟨?_, h.requests⟩, hclosed, fun htrue => by cases htrue⟩
      show Owns _ none transport.connected
      rw [hclosed]
      exact hcreated.freed
    · simp only [hslave, if_false]
      refine ⟨⟨?_, h.requests⟩, hclosed, fun _ => ⟨address, rfl⟩⟩
      show Owns _ (some address) transport.connected
      rw [hclosed]
      exact hcreated

theorem Lifetime.connect (h : transport.Lifetime) : (transport.connect env).1.Lifetime := by
  unfold ModbusRtuTransport.connect
  cases hclosed : transport.connected with
  | true => exact h
  | false =>
    simp only [Bool.false_eq_true, if_false]
    split
    · exact h
    · cases hcontext : transport.context with
      | some address => exact h.callConnect env hcontext hclosed
      | none =>
        obtain ⟨hlifetime, hclosed', hmade⟩ := h.createContext env hcontext hclosed
        simp only [Option.isNone_none, if_true]
        generalize transport.createContext env = result at hlifetime hclosed' hmade
        obtain ⟨transport', made⟩ := result
        cases made with
        | false => exact hlifetime
        | true =>
          obtain ⟨address, hcontext'⟩ := hmade rfl
          exact hlifetime.callConnect env hcontext' hclosed'

theorem Lifetime.disconnect (h : transport.Lifetime) : transport.disconnect.Lifetime := by
  unfold ModbusRtuTransport.disconnect
  cases hopen : transport.connected with
  | false => exact h
  | true =>
    have howns := h.owns
    rw [hopen] at howns
    exact ⟨howns.closed, h.requests⟩

theorem disconnect_connected : transport.disconnect.connected = false := by
  unfold ModbusRtuTransport.disconnect
  split
  · rename_i hclosed
    simpa using hclosed
  · rfl

theorem Lifetime.readHoldingRegisters (h : transport.Lifetime) (address count : Int32)
    (output : List UInt16) :
    (transport.readHoldingRegisters env address count output).1.Lifetime := by
  unfold ModbusRtuTransport.readHoldingRegisters
  cases hopen : transport.connected with
  | false => exact h
  | true =>
    simp only [Bool.not_true, Bool.false_eq_true, if_false]
    split
    · exact h
    · rename_i hrange
      rw [refused_iff, not_not] at hrange
      have howns := h.owns
      rw [hopen] at howns
      have hread : ({ transport with
          tick := transport.tick + 1
          calls := .exchanged transport.context ⟨address, count⟩ :: transport.calls
          connected := true } : ModbusRtuTransport).Lifetime := by
        refine ⟨howns.exchanged _, ?_⟩
        intro request hmem
        rcases List.mem_cons.mp hmem with rfl | hearlier
        · exact hrange
        · exact h.requests request hearlier
      split
      · exact hread
      · exact hread

/-- Nothing is left after the destructor. -/
theorem Lifetime.destroy (h : transport.Lifetime) :
    transport.destroy.Lifetime ∧ transport.destroy.context = none := by
  have hdisconnected := h.disconnect
  have hclosed : transport.disconnect.connected = false := disconnect_connected
  unfold ModbusRtuTransport.destroy
  generalize transport.disconnect = closed at hdisconnected hclosed
  by_cases hcontext : closed.context = none
  · simp only [hcontext, Option.isNone_none, if_true]
    exact ⟨hdisconnected, trivial⟩
  · obtain ⟨address, hcontext⟩ := Option.ne_none_iff_exists'.mp hcontext
    simp only [hcontext, Option.isNone_some, Bool.false_eq_true, if_false]
    have howns := hdisconnected.owns
    rw [hcontext, hclosed] at howns
    refine ⟨⟨?_, hdisconnected.requests⟩, trivial⟩
    show Owns (.freed (some address) :: closed.calls) none closed.connected
    rw [hclosed]
    exact howns.freed

/-- A read succeeds exactly when the transport is connected, the range is one that Modbus has
    and the device answers all of it; otherwise the caller's vector is left alone. -/
theorem readHoldingRegisters_result (address count : Int32) (output : List UInt16) :
    let answer := env.readRegisters transport.tick
    let result := (transport.readHoldingRegisters env address count output).2
    (result.1 = true ↔ transport.connected = true ∧ RegisterRequest.InRange ⟨address, count⟩ ∧
      answer.1 = count) ∧
    result.2 =
      if result.1 then (List.range count.toInt.toNat).map answer.2 else output := by
  simp only [ModbusRtuTransport.readHoldingRegisters, refused_iff]
  cases transport.connected with
  | false => simp
  | true =>
    by_cases hrange : RegisterRequest.InRange ⟨address, count⟩
    · by_cases hcount : (env.readRegisters transport.tick).1 = count
      · simp [hrange, hcount]
      · simp [hrange, hcount]
    · simp [hrange]

end ModbusRtuTransport

/-! ## Runs -/

open SessionTrace

variable {env : RtuEnvironment} {config : ModbusRtuConfig}

/-- The invariant over every run; a destroyed transport holds nothing. -/
theorem rtu_lifetime {transport : ModbusRtuTransport} {alive : Bool}
    (h : (rtuSystem env config).Reachable TransitionSystem.anyStep (transport, alive)) :
    transport.Lifetime ∧ (alive = false → transport.context = none) := by
  refine h.invariant (fun s => s.1.Lifetime ∧ (s.2 = false → s.1.context = none)) ?_ ?_
  · rintro s rfl
    exact ⟨ModbusRtuTransport.lifetime_create config, fun _ => rfl⟩
  · intro s call s' _ hs _ hstep
    simp only [rtuSystem, Option.ite_none_right_eq_some] at hstep
    obtain ⟨-, hstep⟩ := hstep
    obtain rfl := Option.some.inj hstep
    cases call with
    | connect => exact ⟨hs.1.connect env, fun hdead => by simp at hdead⟩
    | disconnect => exact ⟨hs.1.disconnect, fun hdead => by simp at hdead⟩
    | readHoldingRegisters address count output =>
      exact ⟨hs.1.readHoldingRegisters env address count output, fun hdead => by simp at hdead⟩
    | destroy => exact ⟨hs.1.destroy.1, fun _ => hs.1.destroy.2⟩

/-- Over every run of a transport, with any answers of libmodbus: every call names a context
    that exists and, where it needs one, has a connection; every request is one that Modbus
    allows; each context is freed once and each connection closed once, those that the
    transport still holds not yet, and a destroyed transport holds none. A read gives its
    caller all registers that were asked for, or leaves the caller's vector alone. -/
theorem rtu_context_lifetime (env : RtuEnvironment) (config : ModbusRtuConfig)
    {transport : ModbusRtuTransport} {alive : Bool}
    (h : (rtuSystem env config).Reachable TransitionSystem.anyStep (transport, alive)) :
    Proper transport.calls ∧
      (∀ request ∈ transport.calls.requests, request.InRange) ∧
      (∀ address, transport.calls.count (.created address) =
        transport.calls.count (.freed (some address)) +
          (if transport.context = some address then 1 else 0)) ∧
      (∀ address, transport.calls.count (.connected (some address)) =
        transport.calls.count (.closed (some address)) +
          (if transport.context = some address ∧ transport.isConnected then 1 else 0)) ∧
      (alive = false → transport.context = none) ∧
      ∀ address count output,
        let answer := env.readRegisters transport.tick
        let result := (transport.readHoldingRegisters env address count output).2
        (result.1 = true ↔ transport.isConnected = true ∧
          RegisterRequest.InRange ⟨address, count⟩ ∧ answer.1 = count) ∧
        result.2 =
          if result.1 then (List.range count.toInt.toNat).map answer.2 else output := by
  obtain ⟨hlifetime, hdead⟩ := rtu_lifetime h
  have howns := hlifetime.owns
  refine ⟨howns.proper, hlifetime.requests, fun address => ?_, fun address => ?_, hdead,
    fun address count output =>
      ModbusRtuTransport.readHoldingRegisters_result env address count output⟩
  · rw [howns.proper.freed_eq, howns.objects_eq]
  · rw [howns.proper.closed_eq, howns.connections_eq]
    rfl

/-- A device with one register that answers the second connection attempt. -/
def sampleRtu : RtuEnvironment where
  newRtu _ := some 4096
  setSlave _ := 0
  connect tick := if tick = 2 then -1 else 0
  readRegisters _ := (1, fun _ => 215)

theorem rtu_context_lifetime_sample :
    ∃ transport : ModbusRtuTransport,
      (transport.calls.count (.created 4096) = 1 ∧ transport.calls.count (.freed (some 4096)) = 1) ∧
        Proper transport.calls := by
  obtain ⟨s, -, hreach, hcounts⟩ := TransitionSystem.exists_of_run
    (rtuSystem sampleRtu ⟨ascii "/dev/ttyS0", 9600, 78, 8, 1, 1⟩) TransitionSystem.anyStep
    [.connect, .connect, .readHoldingRegisters 40 1 [], .destroy]
    (fun s => s.1.calls.count (.created 4096) = 1 ∧ s.1.calls.count (.freed (some 4096)) = 1)
    rfl (by decide +kernel)
  exact ⟨s.1, by simpa using hcounts, (rtu_context_lifetime sampleRtu _ hreach).1⟩

end EdgeLink
