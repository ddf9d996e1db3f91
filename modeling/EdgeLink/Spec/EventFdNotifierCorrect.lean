import Mathlib.Tactic.Tauto
import EdgeLink.ForStd.History
import EdgeLink.Native.EventFdNotifier

/-! # Notifications are counted exactly

What the callback of an `EventFdNotifier` is told, over all runs in which any threads notify
with any counts and the callback is set and taken away at any time.

## Key results

* `notify_cases`, `notify_isTrue_iff`: what `notify` adds, and when it succeeds.
* `handleRead_cases`: a read takes all there is.
* `notifications_exact`: each read is told the sum of the notifications since the one before
  it; nothing is lost or told twice. -/

namespace EdgeLink

namespace EventFdNotifier

variable {Callback : Type} {notifier : EventFdNotifier Callback}

/-- What can be seen of a notifier: a notification that was accepted, and a read with the
    callback that was run for it, if there was one. -/
inductive Event (Callback : Type) where
  | accepted (count : Nat)
  | taken (callback : Option Callback) (count : Nat)
deriving DecidableEq

/-- What is noted of a call. -/
def event (notifier : EventFdNotifier Callback) : NotifierCall Callback → Option (Event Callback)
  | .notify count faults =>
    if (notifier.notify count faults).2 then some (.accepted count.toNat) else none
  | .handleRead faults =>
    (notifier.handleRead faults).2.map fun taken => .taken taken.1 taken.2
  | .setCallback _ => none

/-- The notifications that were accepted since the last read. -/
def pending : List (Event Callback) → Nat
  | [] => 0
  | .accepted count :: earlier => pending earlier + count
  | .taken _ _ :: _ => 0

/-- A count that `notify` can write. -/
def Countable (count : UInt64) : Prop := count ≠ 0 ∧ count.toNat ≠ 2 ^ 64 - 1

instance (count : UInt64) : Decidable (Countable count) := inferInstanceAs (Decidable (_ ∧ _))

theorem writeLoop_eq (eventFd : EventFd) (count : UInt64) (faults : List KernelFault) :
    writeLoop eventFd count faults =
      if .failed ∈ faults then (eventFd, false)
      else ((eventFd.write count.toNat).getD eventFd, (eventFd.write count.toNat).isSome) := by
  induction faults with
  | nil =>
    simp only [writeLoop, List.not_mem_nil, if_false]
    cases eventFd.write count.toNat <;> rfl
  | cons fault rest ih =>
    cases fault with
    | interrupted => simpa [writeLoop] using ih
    | failed => simp [writeLoop]

theorem readLoop_eq (eventFd : EventFd) (faults : List KernelFault) :
    readLoop eventFd faults = if .failed ∈ faults then none else eventFd.read := by
  induction faults with
  | nil => rfl
  | cons fault rest ih =>
    cases fault with
    | interrupted => simpa [readLoop] using ih
    | failed => simp [readLoop]

/-- `notify` adds its count, or fails and adds nothing. -/
theorem notify_cases (notifier : EventFdNotifier Callback) (count : UInt64)
    (faults : List KernelFault) :
    (∃ eventFd, eventFd.counter = notifier.eventFd.counter + count.toNat ∧
        notifier.notify count faults = ({ notifier with eventFd }, true)) ∨
      notifier.notify count faults = (notifier, false) := by
  unfold notify
  split
  · exact .inr rfl
  · by_cases hfailed : .failed ∈ faults
    · rw [writeLoop_eq, if_pos hfailed]
      exact .inr rfl
    · rw [writeLoop_eq, if_neg hfailed]
      cases hwrite : notifier.eventFd.write count.toNat with
      | none => exact .inr rfl
      | some eventFd => exact .inl ⟨eventFd, EventFd.write_eq_some_iff.mp hwrite, rfl⟩

/-- When `notify` succeeds: the count is one that can be written, no call of the kernel fails,
    and the counter does not overflow. -/
theorem notify_isTrue_iff (notifier : EventFdNotifier Callback) (count : UInt64)
    (faults : List KernelFault) :
    (notifier.notify count faults).2 = true ↔
      Countable count ∧ .failed ∉ faults ∧
        notifier.eventFd.counter + count.toNat ≤ 2 ^ 64 - 2 := by
  have hlargest : count = UInt64.ofNat (2 ^ 64 - 1) ↔ count.toNat = 2 ^ 64 - 1 := by
    rw [← UInt64.toNat_inj]
    rfl
  unfold notify Countable
  by_cases hcount : count = 0 ∨ count = UInt64.ofNat (2 ^ 64 - 1)
  · rw [if_pos hcount]
    rw [hlargest] at hcount
    simp only [Bool.false_eq_true, false_iff]
    tauto
  · rw [if_neg hcount]
    rw [hlargest, not_or] at hcount
    by_cases hfailed : .failed ∈ faults
    · rw [writeLoop_eq, if_pos hfailed]
      simp [hfailed]
    · rw [writeLoop_eq, if_neg hfailed]
      cases hwrite : notifier.eventFd.write count.toNat with
      | none =>
        have hfull := EventFd.write_eq_none_iff.mp hwrite
        simp only [Option.isSome_none, Bool.false_eq_true, false_iff]
        omega
      | some eventFd =>
        have hbounded := eventFd.bounded
        rw [EventFd.write_eq_some_iff.mp hwrite] at hbounded
        simp only [Option.isSome_some, true_iff]
        exact ⟨hcount, hfailed, hbounded⟩

/-- `handleRead` takes all there is, or changes nothing. -/
theorem handleRead_cases (notifier : EventFdNotifier Callback) (faults : List KernelFault) :
    (0 < notifier.eventFd.counter ∧
        notifier.handleRead faults =
          ({ notifier with eventFd := .empty },
            some (notifier.callback, notifier.eventFd.counter))) ∨
      notifier.handleRead faults = (notifier, none) := by
  unfold handleRead
  rw [readLoop_eq]
  cases hread : (if KernelFault.failed ∈ faults then none else notifier.eventFd.read) with
  | none => exact .inr rfl
  | some taken =>
    obtain ⟨eventFd, count⟩ := taken
    left
    split at hread
    · exact nomatch hread
    · obtain ⟨hpos, hcounter, rfl⟩ := EventFd.read_eq_some_iff.mp hread
      rw [hcounter]
      exact ⟨hpos, rfl⟩

/-- A read was told what was accepted since the one before it. -/
def ToldAll (past : List (Event Callback)) : Event Callback → Prop
  | .accepted _ => True
  | .taken _ count => count = pending past.reverse ∧ 0 < count

/-- The counter is what was accepted since the last read, and every read was told that. -/
structure Counted (notifier : EventFdNotifier Callback) (events : List (Event Callback)) :
    Prop where
  counter : notifier.eventFd.counter = pending events.reverse
  told : events.Chronicle ToldAll

/-- Nothing is noted. -/
theorem Counted.unchanged {events : List (Event Callback)} (h : notifier.Counted events) :
    notifier.Counted (events ++ (none : Option (Event Callback)).toList) := by
  rw [Option.toList_none, List.append_nil]
  exact h

/-- An event more. -/
theorem Counted.append {events : List (Event Callback)} (h : notifier.Counted events)
    {after : EventFdNotifier Callback} {event : Event Callback}
    (hcounter : after.eventFd.counter = pending (event :: events.reverse))
    (htold : ToldAll events event) : after.Counted (events ++ [event]) := by
  refine ⟨?_, (List.chronicle_append_singleton _ _).mpr ⟨h.told, htold⟩⟩
  rw [List.reverse_append]
  exact hcounter

/-- Every call keeps the count. -/
theorem Counted.step {events : List (Event Callback)} (h : notifier.Counted events)
    {call : NotifierCall Callback} {after : EventFdNotifier Callback}
    (hstep : (notifierSystem Callback).step notifier call = some after) :
    after.Counted (events ++ (notifier.event call).toList) := by
  cases call with
  | notify count faults =>
    obtain rfl := Option.some.inj hstep
    simp only [event]
    obtain ⟨eventFd, hcounter, hnotify⟩ | hnotify := notifier.notify_cases count faults
    · rw [hnotify]
      refine h.append ?_ trivial
      show eventFd.counter = pending events.reverse + count.toNat
      rw [hcounter, h.counter]
    · rw [hnotify]
      exact h.unchanged
  | handleRead faults =>
    obtain rfl := Option.some.inj hstep
    simp only [event]
    obtain ⟨hpos, hread⟩ | hread := notifier.handleRead_cases faults
    · rw [hread]
      exact h.append rfl ⟨h.counter, hpos⟩
    · rw [hread]
      exact h.unchanged
  | setCallback callback =>
    obtain rfl := Option.some.inj hstep
    exact (⟨h.counter, h.told⟩ : Counted (notifier.setCallback callback) events).unchanged

end EventFdNotifier

/-- In every run the counter is the sum of the notifications accepted since the last read, and
    each read, whether or not a callback was set for it, was told the sum of those since the
    read before it, which is never zero. The next `notify` succeeds exactly when its count is
    neither zero nor the largest word, no call of the kernel fails and the counter has room. -/
theorem notifications_exact {Callback : Type} {notifier : EventFdNotifier Callback}
    {events : List (EventFdNotifier.Event Callback)}
    (h : ((notifierSystem Callback).observed EventFdNotifier.event).Reachable
      TransitionSystem.anyStep (notifier, events)) :
    notifier.eventFd.counter = EventFdNotifier.pending events.reverse ∧
      events.Chronicle EventFdNotifier.ToldAll ∧
      ∀ count faults, (notifier.notify count faults).2 = true ↔
        EventFdNotifier.Countable count ∧ .failed ∉ faults ∧
          EventFdNotifier.pending events.reverse + count.toNat ≤ 2 ^ 64 - 2 := by
  have hcounted : notifier.Counted events := by
    refine h.invariant (fun observed => observed.1.Counted observed.2) ?_ ?_
    · rintro ⟨notifier, events⟩ ⟨hinit, hevents⟩
      obtain rfl : notifier = {} := hinit
      obtain rfl : events = [] := hevents
      exact ⟨rfl, List.chronicle_nil⟩
    · rintro ⟨notifier, events⟩ call ⟨notifier', events'⟩ - hcounted - hstep
      obtain ⟨next, hnext, heq⟩ := Option.map_eq_some_iff.mp hstep
      obtain ⟨rfl, rfl⟩ := Prod.mk.inj heq
      exact hcounted.step hnext
  refine ⟨hcounted.counter, hcounted.told, fun count faults => ?_⟩
  rw [notifier.notify_isTrue_iff, hcounted.counter]

/-- Two threads notify before the loop reads once. -/
theorem notifications_exact_sample :
    ∃ notifier : EventFdNotifier Bool,
      [EventFdNotifier.Event.accepted 2, .accepted 3, .taken (some true) 5,
        .accepted 1].Chronicle EventFdNotifier.ToldAll ∧ notifier.eventFd.counter = 1 := by
  have hinit : ((notifierSystem Bool).observed EventFdNotifier.event).init ({}, []) :=
    ⟨rfl, rfl⟩
  obtain ⟨⟨notifier, events⟩, -, hreach, hevents⟩ := TransitionSystem.exists_of_run
    ((notifierSystem Bool).observed EventFdNotifier.event) TransitionSystem.anyStep
    [.setCallback (some true), .notify 2 [], .notify 0 [], .notify 3 [.interrupted],
      .notify 4 [.failed], .handleRead [.interrupted], .handleRead [], .notify 1 []]
    (fun observed => decide (observed.2 = [.accepted 2, .accepted 3, .taken (some true) 5,
      .accepted 1]))
    hinit (by decide +kernel)
  obtain rfl : events = _ := of_decide_eq_true hevents
  have hresult := notifications_exact hreach
  exact ⟨notifier, hresult.2.1, hresult.1⟩

end EdgeLink
