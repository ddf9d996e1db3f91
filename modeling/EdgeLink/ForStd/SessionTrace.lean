import Mathlib.Data.List.Count

/-! # Traces of calls on objects that hold connections

What a program did with objects that it creates by a library, newest call first. An object
is named by its address, which may be given out again after the object was freed; the null
pointer names none. Between its creation and its end an object may be connected and closed
any number of times.

* `phase`: what a pointer names after a trace.
* `Proper`: every call of the trace found its object in the phase that the call needs.
* `Proper.freed_eq`, `Proper.closed_eq`: in a proper trace each object was freed once and
  each connection closed once, those that are still there not yet.
* `Owns`: the trace is proper and the program holds at most one object; one rule for each
  call. -/

/-- A call on an object. `used` is one that needs no connection, `exchanged` sends a request
    over the connection. -/
inductive SessionCall (Address Request : Type) where
  | created (address : Address)
  | used (pointer : Option Address)
  | connected (pointer : Option Address)
  | exchanged (pointer : Option Address) (request : Request)
  | closed (pointer : Option Address)
  | freed (pointer : Option Address)
deriving DecidableEq

/-- The calls of a program, newest first. -/
abbrev SessionTrace (Address Request : Type) := List (SessionCall Address Request)

/-- What a pointer names. -/
inductive SessionPhase where
  | absent
  | idle
  | open
deriving DecidableEq

namespace SessionPhase

/-- How many objects are there. -/
@[simp] def objects : SessionPhase → Nat
  | .absent => 0
  | .idle => 1
  | .open => 1

/-- How many connections are open. -/
@[simp] def connections : SessionPhase → Nat
  | .absent => 0
  | .idle => 0
  | .open => 1

end SessionPhase

namespace SessionTrace

variable {Address Request : Type} [DecidableEq Address]

/-- What the pointer names after the trace. -/
def phase (pointer : Option Address) : SessionTrace Address Request → SessionPhase
  | [] => .absent
  | .created address :: earlier => if some address = pointer then .idle else phase pointer earlier
  | .used _ :: earlier => phase pointer earlier
  | .connected other :: earlier => if other = pointer then .open else phase pointer earlier
  | .exchanged _ _ :: earlier => phase pointer earlier
  | .closed other :: earlier => if other = pointer then .idle else phase pointer earlier
  | .freed other :: earlier => if other = pointer then .absent else phase pointer earlier

/-- The requests of a trace, newest first. -/
def requests : SessionTrace Address Request → List Request
  | [] => []
  | .exchanged _ request :: earlier => request :: requests earlier
  | .created _ :: earlier => requests earlier
  | .used _ :: earlier => requests earlier
  | .connected _ :: earlier => requests earlier
  | .closed _ :: earlier => requests earlier
  | .freed _ :: earlier => requests earlier

/-- The call can be made after `earlier`. An object is not connected twice, and not freed
    with its connection open. -/
def Allowed (earlier : SessionTrace Address Request) : SessionCall Address Request → Prop
  | .created address => phase (some address) earlier = .absent
  | .used pointer => phase pointer earlier ≠ .absent
  | .connected pointer => phase pointer earlier = .idle
  | .exchanged pointer _ => phase pointer earlier = .open
  | .closed pointer => phase pointer earlier = .open
  | .freed pointer => phase pointer earlier = .idle

/-- Every call of the trace could be made when it was. -/
def Proper : SessionTrace Address Request → Prop
  | [] => True
  | call :: earlier => Allowed earlier call ∧ Proper earlier

/-! ## Nothing is lost -/

section

variable [DecidableEq Request]

/-- In a proper trace an address was freed as often as it was given out, except for the
    object that is still there. -/
theorem Proper.freed_eq {trace : SessionTrace Address Request} (h : Proper trace)
    (address : Address) :
    trace.count (.created address) =
      trace.count (.freed (some address)) + (phase (some address) trace).objects := by
  induction trace with
  | nil => simp [phase]
  | cons call earlier ih =>
    have hearlier := ih h.2
    have hallowed := h.1
    cases call with
    | created address' =>
      by_cases heq : address' = address
      · subst heq
        have hnew : phase (some address') earlier = .absent := hallowed
        simp [phase, hearlier, hnew]
      · simp [phase, heq, hearlier]
    | connected pointer | closed pointer =>
      by_cases heq : pointer = some address
      · subst heq
        simp only [Allowed] at hallowed
        simp [phase, hearlier, hallowed]
      · simp [phase, heq, hearlier]
    | freed pointer =>
      by_cases heq : pointer = some address
      · subst heq
        have hold : phase (some address) earlier = .idle := hallowed
        simp [phase, hearlier, hold]
      · simp [phase, heq, hearlier]
    | used | exchanged => simp [phase, hearlier]

/-- In a proper trace a connection was closed as often as one was made, except for the one
    that is still open. -/
theorem Proper.closed_eq {trace : SessionTrace Address Request} (h : Proper trace)
    (pointer : Option Address) :
    trace.count (.connected pointer) =
      trace.count (.closed pointer) + (phase pointer trace).connections := by
  induction trace with
  | nil => simp [phase]
  | cons call earlier ih =>
    have hearlier := ih h.2
    have hallowed := h.1
    cases call with
    | created address =>
      by_cases heq : some address = pointer
      · subst heq
        have hnew : phase (some address) earlier = .absent := hallowed
        simp [phase, hearlier, hnew]
      · simp [phase, heq, hearlier]
    | connected pointer' | closed pointer' | freed pointer' =>
      by_cases heq : pointer' = pointer
      · subst heq
        simp only [Allowed] at hallowed
        simp [phase, hearlier, hallowed]
      · simp [phase, heq, hearlier]
    | used | exchanged => simp [phase, hearlier]

end

/-! ## A program that holds at most one object -/

/-- What a program's pointer names, given the program's flag for the connection. -/
def heldPhase (connected : Bool) : Option Address → SessionPhase
  | none => .absent
  | some _ => if connected then .open else .idle

/-- After the proper trace the program holds what `pointer` names and nothing else, and
    `connected` tells whether it is connected. -/
structure Owns (trace : SessionTrace Address Request) (pointer : Option Address)
    (connected : Bool) : Prop where
  proper : Proper trace
  /-- A program without an object has no connection. -/
  object : pointer = none → connected = false
  held : phase pointer trace = heldPhase connected pointer
  others : ∀ other, other ≠ pointer → phase other trace = .absent

namespace Owns

variable {trace : SessionTrace Address Request} {pointer : Option Address} {connected : Bool}
  {address : Address}

theorem nil : Owns ([] : SessionTrace Address Request) none false where
  proper := trivial
  object _ := rfl
  held := rfl
  others _ _ := rfl

theorem created (h : Owns trace none false) (address : Address) :
    Owns (.created address :: trace) (some address) false where
  proper := ⟨h.others _ (Option.some_ne_none address), h.proper⟩
  object hnone := absurd hnone (Option.some_ne_none address)
  held := if_pos rfl
  others other hne := by
    rw [phase, if_neg (Ne.symm hne)]
    cases other with
    | none => exact h.held
    | some other => exact h.others _ (Option.some_ne_none other)

theorem used (h : Owns trace (some address) connected) :
    Owns (.used (some address) :: trace) (some address) connected where
  proper := by
    refine ⟨?_, h.proper⟩
    show phase (some address) trace ≠ .absent
    rw [h.held, heldPhase]
    cases connected with
    | false => simp
    | true => simp
  object := h.object
  held := h.held
  others := h.others

theorem connect (h : Owns trace (some address) false) :
    Owns (.connected (some address) :: trace) (some address) true where
  proper := ⟨h.held, h.proper⟩
  object hnone := absurd hnone (Option.some_ne_none address)
  held := if_pos rfl
  others other hne := by
    rw [phase, if_neg (Ne.symm hne)]
    exact h.others other hne

/-- A program that is connected holds an object with an open connection. -/
theorem isOpen (h : Owns trace pointer true) : phase pointer trace = .open := by
  cases pointer with
  | none => exact absurd (h.object rfl) (by simp)
  | some address => exact h.held

theorem exchanged (h : Owns trace pointer true) (request : Request) :
    Owns (.exchanged pointer request :: trace) pointer true where
  proper := ⟨h.isOpen, h.proper⟩
  object := h.object
  held := h.held
  others := h.others

theorem closed (h : Owns trace pointer true) :
    Owns (.closed pointer :: trace) pointer false where
  proper := ⟨h.isOpen, h.proper⟩
  object _ := rfl
  held := by
    rw [phase, if_pos rfl]
    cases pointer with
    | none => exact absurd (h.object rfl) (by simp)
    | some address => rfl
  others other hne := by
    rw [phase, if_neg (Ne.symm hne)]
    exact h.others other hne

theorem freed (h : Owns trace (some address) false) :
    Owns (.freed (some address) :: trace) none false where
  proper := ⟨h.held, h.proper⟩
  object _ := rfl
  held := by
    rw [phase, if_neg (Option.some_ne_none address)]
    exact h.others none (Option.some_ne_none address).symm
  others other _ := by
    rw [phase]
    split
    · rfl
    · rename_i hne
      exact h.others other (Ne.symm hne)

/-- The objects that are still there. -/
theorem objects_eq (h : Owns trace pointer connected) (address : Address) :
    (phase (some address) trace).objects = if pointer = some address then 1 else 0 := by
  split
  · rename_i hheld
    subst hheld
    rw [h.held, heldPhase]
    cases connected with
    | false => rfl
    | true => rfl
  · rename_i hne
    rw [h.others _ (Ne.symm hne)]
    rfl

/-- The connections that are still open. -/
theorem connections_eq (h : Owns trace pointer connected) (address : Address) :
    (phase (some address) trace).connections =
      if pointer = some address ∧ connected then 1 else 0 := by
  by_cases hheld : pointer = some address
  · subst hheld
    rw [h.held, heldPhase]
    cases connected with
    | false => simp
    | true => simp
  · rw [h.others _ (Ne.symm hheld), if_neg (fun hboth => hheld hboth.1)]
    rfl

end Owns

end SessionTrace
