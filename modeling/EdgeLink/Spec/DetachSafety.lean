import Mathlib.Data.Fintype.Basic
import Mathlib.Data.Fintype.Defs
import EdgeLink.Native.BusServices
import EdgeLink.Spec.MessageBusCorrect

/-!
# Detaching from the bus

Whether a service can still be called once its `detachMessageBus` has returned.

`publish` runs a copy of the subscription list, so a publish call that began before the
detach may still have the service ahead in its copy and call it afterwards
(`detached_service_called`). Where no publish call has the service ahead at the moment
of the detach, the service is never called again: new copies are taken from the list of
live subscriptions, and the detach has removed the service from it
(`detach_safe_of_none_ahead`).
-/

namespace EdgeLink

variable {Thread Callback Other : Type}

/-! ## What a step of the bus brings -/

/-- Some publish call in progress will still call the subscription. -/
def Ahead (bus : BusState Thread Callback) (subscription : Subscription Callback) : Prop :=
  ∃ thread, ∃ frame ∈ bus.frames thread, subscription ∈ frame.remaining

variable [DecidableEq Thread]

/-- Frames that replace those of one thread and have nothing new ahead. -/
private theorem ahead_of_update (bus : BusState Thread Callback) (thread : Thread)
    (frames : List (PublishFrame Callback)) (subscription : Subscription Callback)
    (hnew : ∀ frame ∈ frames, subscription ∈ frame.remaining → Ahead bus subscription)
    (h : ∃ thread', ∃ frame ∈ Function.update bus.frames thread frames thread',
      subscription ∈ frame.remaining) : Ahead bus subscription := by
  obtain ⟨thread', frame, hframe, hmem⟩ := h
  by_cases heq : thread' = thread
  · subst heq
    rw [Function.update_self] at hframe
    exact hnew frame hframe hmem
  · rw [Function.update_of_ne heq] at hframe
    exact ⟨thread', frame, hframe, hmem⟩

/-- What is ahead after a step of the bus was ahead before it, or is live: it can be in a
    copy taken by this step. -/
theorem ahead_step {bus bus' : BusState Thread Callback} (hinv : BusInv bus)
    (action : BusAction Thread Callback) (hstep : bus.step action = some bus')
    (subscription : Subscription Callback) (h : Ahead bus' subscription) :
    Ahead bus subscription ∨ ∃ l ∈ live bus.history, l.entry = subscription := by
  obtain ⟨topic, callback, rfl⟩ | ⟨id, rfl⟩ | rfl | ⟨thread, message, rfl⟩ | ⟨thread, hcall⟩ |
    ⟨thread, threw, hfinish⟩ | ⟨thread, hend⟩ := bus.step_cases bus' action hstep
  · left
    simp only [BusState.subscribe] at h
    split at h <;> exact h
  · exact .inl h
  · exact .inl h
  · unfold BusState.publish at h
    dsimp only at h
    split at h
    · exact .inl h
    · split at h
      · exact .inl h
      · rename_i subscriptions hsome
        obtain ⟨thread', frame, hframe, hmem⟩ := h
        dsimp only at hframe
        by_cases heq : thread' = thread
        · subst heq
          rw [Function.update_self] at hframe
          rcases List.mem_cons.mp hframe with rfl | hframe
          · -- the new frame runs the list that is live now
            right
            rw [hinv.represents.eq_of_snapshot hsome] at hmem
            obtain ⟨l, hl, -, hentry⟩ := (mem_subscribersOf _ _ _).mp hmem
            exact ⟨l, hl, hentry⟩
          · exact .inl ⟨thread', frame, hframe, hmem⟩
        · rw [Function.update_of_ne heq] at hframe
          exact .inl ⟨thread', frame, hframe, hmem⟩
  · left
    unfold BusState.call at hcall
    split at hcall
    · rename_i number message next remaining deliveredCount outer hstack
      obtain rfl := Option.some.inj hcall
      -- the frame hands over its next callback; the rest was ahead before
      refine ahead_of_update bus thread _ subscription (fun frame hframe hmem => ?_) h
      rcases List.mem_cons.mp hframe with rfl | hframe
      · exact ⟨thread, _, hstack ▸ List.mem_cons_self, List.mem_cons_of_mem _ hmem⟩
      · exact ⟨thread, frame, hstack ▸ List.mem_cons_of_mem _ hframe, hmem⟩
    · cases hcall
  · left
    unfold BusState.finish at hfinish
    split at hfinish
    · rename_i number message remaining current deliveredCount outer hstack
      obtain rfl := Option.some.inj hfinish
      refine ahead_of_update bus thread _ subscription (fun frame hframe hmem => ?_) h
      rcases List.mem_cons.mp hframe with rfl | hframe
      · exact ⟨thread, ⟨number, message, remaining, some current, deliveredCount⟩,
          hstack ▸ List.mem_cons_self, hmem⟩
      · exact ⟨thread, frame, hstack ▸ List.mem_cons_of_mem _ hframe, hmem⟩
    · cases hfinish
  · left
    unfold BusState.endPublish at hend
    split at hend
    · rename_i number message deliveredCount outer hstack
      obtain rfl := Option.some.inj hend
      refine ahead_of_update bus thread _ subscription (fun frame hframe hmem => ?_) h
      exact ⟨thread, frame, hstack ▸ List.mem_cons_of_mem _ hframe, hmem⟩
    · cases hend

/-- A step of the bus only calls what was ahead. -/
theorem called_step {bus bus' : BusState Thread Callback}
    (action : BusAction Thread Callback) (hstep : bus.step action = some bus') :
    ∃ new, bus'.history = bus.history ++ new ∧
      ∀ publish subscription, .called publish subscription ∈ new → Ahead bus subscription := by
  obtain ⟨topic, callback, rfl⟩ | ⟨id, rfl⟩ | rfl | ⟨thread, message, rfl⟩ | ⟨thread, hcall⟩ |
    ⟨thread, threw, hfinish⟩ | ⟨thread, hend⟩ := bus.step_cases bus' action hstep
  · simp only [BusState.subscribe]
    split
    · exact ⟨[], by simp, by simp⟩
    · exact ⟨_, rfl, by simp⟩
  · exact ⟨_, rfl, by simp⟩
  · exact ⟨_, rfl, by simp⟩
  · unfold BusState.publish
    dsimp only
    split
    · exact ⟨_, List.append_assoc _ _ _, by simp⟩
    · split
      · exact ⟨_, List.append_assoc _ _ _, by simp⟩
      · exact ⟨_, rfl, by simp⟩
  · unfold BusState.call at hcall
    split at hcall
    · rename_i number message next remaining deliveredCount outer hstack
      obtain rfl := Option.some.inj hcall
      refine ⟨_, rfl, fun publish subscription hmem => ?_⟩
      obtain ⟨-, rfl⟩ : publish = ⟨thread, number⟩ ∧ subscription = next := by
        simpa using hmem
      -- only this step calls, and what it calls was the next in its frame
      exact ⟨thread, _, hstack ▸ List.mem_cons_self, List.mem_cons_self⟩
    · cases hcall
  · unfold BusState.finish at hfinish
    split at hfinish
    · obtain rfl := Option.some.inj hfinish
      exact ⟨_, rfl, by simp⟩
    · cases hfinish
  · unfold BusState.endPublish at hend
    split at hend
    · obtain rfl := Option.some.inj hend
      exact ⟨_, rfl, by simp⟩
    · cases hend

/-- A step of the bus makes no subscription live but the one it is asked for. -/
theorem live_step {bus bus' : BusState Thread Callback}
    (action : BusAction Thread Callback) (hstep : bus.step action = some bus')
    (l : LiveSubscription Callback) (h : l ∈ live bus'.history) :
    l ∈ live bus.history ∨ ∃ thread, action = .subscribe thread l.topic (some l.callback) := by
  cases action with
  | subscribe thread topic callback =>
    obtain ⟨-, heq⟩ := Option.ite_none_right_eq_some.mp hstep
    obtain rfl := Option.some.inj heq
    simp only [BusState.subscribe] at h
    split at h
    · exact .inl h
    · rename_i checked hchecked
      rw [live_append_singleton] at h
      rcases List.mem_append.mp h with h | h
      · exact .inl h
      · -- the subscription is the new one
        obtain ⟨-, rfl⟩ : topic ≠ [] ∧ callback = some checked := by
          simpa [MessageBus.checkedCallback] using hchecked
        rw [List.mem_singleton.mp h]
        exact .inr ⟨thread, rfl⟩
  | unsubscribe thread id =>
    obtain ⟨-, heq⟩ := Option.ite_none_right_eq_some.mp hstep
    obtain rfl := Option.some.inj heq
    rw [BusState.unsubscribe, live_append_singleton] at h
    exact .inl (List.mem_of_mem_filter h)
  | clear thread =>
    obtain ⟨-, heq⟩ := Option.ite_none_right_eq_some.mp hstep
    obtain rfl := Option.some.inj heq
    rw [BusState.clear, live_append_singleton] at h
    exact absurd h List.not_mem_nil
  | publish thread message =>
    obtain ⟨-, heq⟩ := Option.ite_none_right_eq_some.mp hstep
    obtain rfl := Option.some.inj heq
    unfold BusState.publish at h
    dsimp only at h
    left
    split at h
    · rwa [live_append_singleton, live_append_singleton] at h
    · split at h
      · rwa [live_append_singleton, live_append_singleton] at h
      · rwa [live_append_singleton] at h
  | call thread =>
    left
    simp only [BusState.step, BusState.call] at hstep
    split at hstep
    · obtain rfl := Option.some.inj hstep
      simpa [applyEvent] using h
    · cases hstep
  | finish thread threw =>
    left
    simp only [BusState.step, BusState.finish] at hstep
    split at hstep
    · obtain rfl := Option.some.inj hstep
      simpa [applyEvent] using h
    · cases hstep
  | endPublish thread =>
    left
    simp only [BusState.step, BusState.endPublish] at hstep
    split at hstep
    · obtain rfl := Option.some.inj hstep
      simpa [applyEvent] using h
    · cases hstep

/-! ## The services -/

/-- What a step of the services can be. -/
theorem ServicesState.step_cases (σ σ' : ServicesState Thread Other)
    (action : ServicesAction Thread Other) (h : σ.step action = some σ') :
    (∃ busAction bus, ServicesState.busAction action = some busAction ∧
      σ.bus.step busAction = some bus ∧ σ' = { σ with bus }) ∨
    (∃ thread service, action = .detach thread service ∧ σ.bus.canCall thread ∧
      σ.attaching service = none ∧ σ' = σ.detachMessageBus service) ∨
    (∃ thread service topic, action = .attach thread service topic ∧ σ.bus.canCall thread ∧
      σ.attaching service = none ∧ σ' = σ.attachMessageBus service topic) ∨
    (∃ thread service topic isOpen, σ.bus.canCall thread ∧
      σ.attaching service = some topic ∧ σ' = σ.attachSubscribe service topic isOpen) := by
  unfold ServicesState.step at h
  split at h
  · rename_i thread service
    obtain ⟨hguard, heq⟩ := Option.ite_none_right_eq_some.mp h
    rw [Bool.and_eq_true, Option.isNone_iff_eq_none] at hguard
    exact .inr (.inl ⟨thread, service, rfl, hguard.1, hguard.2, (Option.some.inj heq).symm⟩)
  · rename_i thread service topic
    obtain ⟨hguard, heq⟩ := Option.ite_none_right_eq_some.mp h
    rw [Bool.and_eq_true, Option.isNone_iff_eq_none] at hguard
    exact .inr (.inr (.inl
      ⟨thread, service, topic, rfl, hguard.1, hguard.2, (Option.some.inj heq).symm⟩))
  · rename_i thread service isOpen
    split at h
    · rename_i topic htopic
      obtain ⟨hguard, heq⟩ := Option.ite_none_right_eq_some.mp h
      exact .inr (.inr (.inr
        ⟨thread, service, topic, isOpen, hguard, htopic, (Option.some.inj heq).symm⟩))
    · exact nomatch h
  · split at h
    · rename_i busAction hbus
      obtain ⟨bus, hstep, rfl⟩ := Option.map_eq_some_iff.mp h
      exact .inl ⟨busAction, bus, hbus, hstep, rfl⟩
    · exact nomatch h

omit [DecidableEq Thread] in
/-- Nothing but the call of a service makes the callback of a service live. -/
theorem ServicesState.busAction_subscribe (action : ServicesAction Thread Other)
    (thread : Thread) (topic : Bytes) (service : BusService) :
    busAction action ≠ some (.subscribe thread topic (some (.service service))) := by
  intro h
  cases action with
  | subscribe thread' topic' callback => cases callback <;> simp [busAction] at h
  | _ => simp [busAction] at h

/-- A step of the services is a step of the bus, or leaves it alone. -/
theorem ServicesState.bus_step (σ σ' : ServicesState Thread Other)
    (action : ServicesAction Thread Other) (h : σ.step action = some σ') :
    σ'.bus = σ.bus ∨ ∃ busAction, σ.bus.step busAction = some σ'.bus := by
  have hdetach (thread : Thread) (service : BusService) (hcan : σ.bus.canCall thread) :
      (σ.detachMessageBus service).bus = σ.bus ∨
        ∃ busAction, σ.bus.step busAction = some (σ.detachMessageBus service).bus := by
    unfold detachMessageBus
    dsimp only
    split
    · exact .inr ⟨.unsubscribe thread _, if_pos hcan⟩
    · exact .inl rfl
  obtain ⟨busAction, bus, -, hstep, rfl⟩ | ⟨thread, service, -, hcan, -, rfl⟩ |
    ⟨thread, service, topic, -, hcan, -, rfl⟩ |
    ⟨thread, service, topic, isOpen, hcan, -, rfl⟩ := σ.step_cases σ' action h
  · exact .inr ⟨busAction, hstep⟩
  · exact hdetach thread service hcan
  · exact hdetach thread service hcan
  · unfold attachSubscribe
    dsimp only
    split
    · exact .inl rfl
    · split <;> exact .inr ⟨.subscribe thread topic _, if_pos hcan⟩

/-- The bus goes through one of its own runs. -/
theorem ServicesState.bus_reachable
    {ok : ServicesState Thread Other → ServicesAction Thread Other → Prop}
    {σ : ServicesState Thread Other} (h : (servicesSystem Thread Other).Reachable ok σ) :
    (busSystem Thread (BusCallback Other)).Reachable TransitionSystem.anyStep σ.bus := by
  refine h.invariant
    (fun σ => (busSystem Thread (BusCallback Other)).Reachable TransitionSystem.anyStep σ.bus)
    ?_ ?_
  · rintro σ rfl
    exact .init rfl
  · intro σ action σ' _ hbus _ hstep
    -- steps that do not touch the bus add nothing to its run
    rcases σ.bus_step σ' action hstep with heq | ⟨busAction, hstep⟩
    · rwa [heq]
    · exact .step hbus trivial hstep

/-! ## Detach safety -/

/-- Whether an event starts the callback of a service. -/
def BusEvent.startsService (service : BusService) :
    BusEvent Thread (BusCallback Other) → Prop
  | .called _ subscription => subscription.callback = .service service
  | _ => False

/-- Since the last return of `detachMessageBus` of a service its callback has not been
    started. -/
def DetachSafe (σ : ServicesState Thread Other) : Prop :=
  ∀ service n, σ.detachedAt service = some n →
    ∀ event ∈ σ.bus.history.drop n, ¬ event.startsService service

/-- No publish call in progress will still call the service. -/
def NoneAhead (bus : BusState Thread (BusCallback Other)) (service : BusService) : Prop :=
  ∀ thread, ∀ frame ∈ bus.frames thread, ∀ subscription ∈ frame.remaining,
    subscription.callback ≠ .service service

/-- The service that a step detaches. -/
def ServicesAction.detaches : ServicesAction Thread Other → Option BusService
  | .detach _ service => some service
  | .attach _ service _ => some service
  | _ => none

/-- A service is detached while no publish call still has it ahead, and the counter of the
    subscription ids has not wrapped. -/
def DetachesWhenNoneAhead (σ : ServicesState Thread Other)
    (action : ServicesAction Thread Other) : Prop :=
  subscriptionCount σ.bus.history < 2 ^ 64 - 1 ∧
    ∀ service ∈ action.detaches, NoneAhead σ.bus service

/-- The invariant behind detach safety. -/
structure DetachInv (σ : ServicesState Thread Other) : Prop where
  attached : ∀ service, ∀ l ∈ live σ.bus.history, l.callback = .service service →
    σ.attachment service = ⟨true, l.id⟩
  attaching : ∀ service topic, σ.attaching service = some topic →
    σ.attachment service = .none
  detached : ∀ service n, σ.detachedAt service = some n → σ.attachment service = .none
  noneAhead : ∀ service n, σ.detachedAt service = some n → NoneAhead σ.bus service
  length : ∀ service n, σ.detachedAt service = some n → n ≤ σ.bus.history.length
  safe : DetachSafe σ

omit [DecidableEq Thread] in
/-- The first state satisfies the invariant. -/
theorem DetachInv.start : DetachInv (ServicesState.start : ServicesState Thread Other) where
  attached := by simp [ServicesState.start, BusState.start, live]
  attaching := by simp [ServicesState.start]
  detached := by simp [ServicesState.start]
  noneAhead := by simp [ServicesState.start]
  length := by simp [ServicesState.start]
  safe := by simp [DetachSafe, ServicesState.start]

/-- A step of the bus that makes no callback of a service live keeps the invariant. -/
theorem DetachInv.busStep {σ : ServicesState Thread Other} (h : DetachInv σ)
    (hinv : BusInv σ.bus) (action : BusAction Thread (BusCallback Other))
    (bus : BusState Thread (BusCallback Other)) (hstep : σ.bus.step action = some bus)
    (hother : ∀ thread topic service,
      action ≠ .subscribe thread topic (some (.service service))) :
    DetachInv { σ with bus } := by
  have hnoneAhead (service : BusService) (n : Nat) (hn : σ.detachedAt service = some n) :
      NoneAhead bus service := by
    intro thread frame hframe subscription hmem hcallback
    rcases ahead_step hinv action hstep subscription ⟨thread, frame, hframe, hmem⟩ with
      ⟨thread', frame', hframe', hmem'⟩ | ⟨l, hl, rfl⟩
    · exact h.noneAhead service n hn thread' frame' hframe' subscription hmem' hcallback
    · -- a live callback of the service contradicts its detachment
      have hattached := h.attached service l hl hcallback
      rw [h.detached service n hn] at hattached
      exact absurd (congrArg Attachment.messageBus hattached) Bool.false_ne_true
  obtain ⟨new, hhistory, hnew⟩ := called_step action hstep
  constructor
  case attaching => exact h.attaching
  case detached => exact h.detached
  case noneAhead => exact hnoneAhead
  case attached =>
    intro service l hl hcallback
    cases live_step action hstep l hl with
    | inl hl => exact h.attached service l hl hcallback
    | inr hsubscribe =>
      obtain ⟨thread, haction⟩ := hsubscribe
      rw [hcallback] at haction
      exact absurd haction (hother thread l.topic service)
  case length =>
    intro service n hn
    dsimp only
    rw [hhistory, List.length_append]
    exact Nat.le_add_right_of_le (h.length service n hn)
  case safe =>
    intro service n hn event hevent hstarts
    dsimp only at hevent
    rw [hhistory, List.drop_append_of_le_length (h.length service n hn)] at hevent
    cases List.mem_append.mp hevent with
    | inl hevent => exact h.safe service n hn event hevent hstarts
    | inr hevent =>
      -- only what is ahead can be called
      cases event with
      | called publish subscription =>
        obtain ⟨thread, frame, hframe, hmem⟩ := hnew publish subscription hevent
        exact h.noneAhead service n hn thread frame hframe subscription hmem hstarts
      | _ => exact hstarts

/-- What `detachMessageBus` does to the bus: frames and started callbacks are as before,
    and the live subscriptions are those of the others. -/
theorem detach_bus {σ : ServicesState Thread Other} (h : DetachInv σ) (hinv : BusInv σ.bus)
    (hcount : subscriptionCount σ.bus.history < 2 ^ 64 - 1) (service : BusService) :
    (σ.detachMessageBus service).bus.frames = σ.bus.frames ∧
      (∃ new, (σ.detachMessageBus service).bus.history = σ.bus.history ++ new ∧
        ∀ event ∈ new, ∀ service', ¬ event.startsService service') ∧
      ∀ l ∈ live (σ.detachMessageBus service).bus.history,
        l ∈ live σ.bus.history ∧ l.callback ≠ .service service := by
  unfold ServicesState.detachMessageBus
  dsimp only
  split
  · -- the id that is removed is the one of every live callback of the service
    refine ⟨rfl, ⟨_, rfl, by simp [BusEvent.startsService]⟩, fun l hl => ?_⟩
    rw [BusState.unsubscribe, live_append_singleton] at hl
    obtain ⟨hl, hid⟩ := List.mem_filter.mp hl
    refine ⟨hl, fun hcallback => ?_⟩
    rw [h.attached service l hl hcallback] at hid
    exact of_decide_eq_true hid rfl
  · rename_i hunsubscribed
    refine ⟨rfl, ⟨[], by simp, by simp⟩, fun l hl => ⟨hl, fun hcallback => hunsubscribed ?_⟩⟩
    -- a live callback has a valid id, so it would have been unsubscribed
    rw [h.attached service l hl hcallback]
    simpa using hinv.live_id_ne_invalid hcount l hl

/-- `detachMessageBus` keeps the invariant where no publish call has the service ahead. -/
theorem DetachInv.detachMessageBus {σ : ServicesState Thread Other} (h : DetachInv σ)
    (hinv : BusInv σ.bus) (hcount : subscriptionCount σ.bus.history < 2 ^ 64 - 1)
    (service : BusService) (hnone : NoneAhead σ.bus service) :
    DetachInv (σ.detachMessageBus service) := by
  obtain ⟨hframes, ⟨new, hhistory, hnew⟩, hlive⟩ := detach_bus h hinv hcount service
  have hattachment (service' : BusService) (hne : service' ≠ service) :
      (σ.detachMessageBus service).attachment service' = σ.attachment service' :=
    Function.update_of_ne hne _ _
  have hself : (σ.detachMessageBus service).attachment service = .none :=
    Function.update_self _ _ _
  have hdetachedAt (service' : BusService) (n : Nat)
      (hn : (σ.detachMessageBus service).detachedAt service' = some n) :
      (service' = service ∧ n = (σ.detachMessageBus service).bus.history.length) ∨
        (service' ≠ service ∧ σ.detachedAt service' = some n) := by
    by_cases heq : service' = service
    · subst heq
      have hlength : (σ.detachMessageBus service').detachedAt service' =
          some (σ.detachMessageBus service').bus.history.length := Function.update_self _ _ _
      rw [hlength] at hn
      exact .inl ⟨rfl, (Option.some.inj hn).symm⟩
    · have hold : (σ.detachMessageBus service).detachedAt service' = σ.detachedAt service' :=
        Function.update_of_ne heq _ _
      exact .inr ⟨heq, hold ▸ hn⟩
  constructor
  case attached =>
    intro service' l hl hcallback
    obtain ⟨hl, hothers⟩ := hlive l hl
    -- a callback of the service is not live any more
    have hne : service' ≠ service := fun heq => hothers (heq ▸ hcallback)
    rw [hattachment service' hne]
    exact h.attached service' l hl hcallback
  case attaching =>
    intro service' topic hattaching
    by_cases heq : service' = service
    · rw [heq, hself]
    · rw [hattachment service' heq]
      exact h.attaching service' topic hattaching
  case detached =>
    intro service' n hn
    rcases hdetachedAt service' n hn with ⟨rfl, -⟩ | ⟨hne, hn⟩
    · exact hself
    · rw [hattachment service' hne]
      exact h.detached service' n hn
  case noneAhead =>
    intro service' n hn thread frame hframe
    rw [hframes] at hframe
    rcases hdetachedAt service' n hn with ⟨rfl, -⟩ | ⟨-, hn⟩
    · exact hnone thread frame hframe
    · exact h.noneAhead service' n hn thread frame hframe
  case length =>
    intro service' n hn
    rcases hdetachedAt service' n hn with ⟨-, rfl⟩ | ⟨-, hn⟩
    · exact Nat.le_refl _
    · rw [hhistory, List.length_append]
      exact Nat.le_add_right_of_le (h.length service' n hn)
  case safe =>
    intro service' n hn event hevent
    rcases hdetachedAt service' n hn with ⟨-, rfl⟩ | ⟨-, hn⟩
    · -- nothing has happened since this detach
      rw [List.drop_length] at hevent
      exact absurd hevent List.not_mem_nil
    · rw [hhistory, List.drop_append_of_le_length (h.length service' n hn)] at hevent
      cases List.mem_append.mp hevent with
      | inl hevent => exact h.safe service' n hn event hevent
      -- the events of the detach itself call nobody
      | inr hevent => exact hnew event hevent service'

/-- The first part of `attachMessageBus` keeps the invariant. -/
theorem DetachInv.attachMessageBus {σ : ServicesState Thread Other} (h : DetachInv σ)
    (hinv : BusInv σ.bus) (hcount : subscriptionCount σ.bus.history < 2 ^ 64 - 1)
    (service : BusService) (topic : Bytes) (hnone : NoneAhead σ.bus service) :
    DetachInv (σ.attachMessageBus service topic) := by
  have hdetached := h.detachMessageBus hinv hcount service hnone
  refine ⟨hdetached.attached, fun service' topic' hattaching => ?_, hdetached.detached,
    hdetached.noneAhead, hdetached.length, hdetached.safe⟩
  -- `attaching` is set for this service only, and it has just been detached
  by_cases heq : service' = service
  · subst heq
    exact Function.update_self _ _ _
  · refine hdetached.attaching service' topic' ?_
    rw [← hattaching]
    exact (Function.update_of_ne heq _ _).symm

omit [DecidableEq Thread] in
/-- Clearing `attaching` keeps the invariant. -/
theorem DetachInv.clearAttaching {σ : ServicesState Thread Other} (h : DetachInv σ)
    (service : BusService) :
    DetachInv { σ with attaching := Function.update σ.attaching service none } := by
  refine ⟨h.attached, fun service' topic hattaching => ?_, h.detached, h.noneAhead, h.length,
    h.safe⟩
  by_cases heq : service' = service
  · subst heq
    simp at hattaching
  · simp only [Function.update_of_ne heq] at hattaching
    exact h.attaching service' topic hattaching

omit [DecidableEq Thread] in
/-- A service that is not attached gets a subscription, and counts as attached from then
    on. -/
theorem DetachInv.subscribed {σ : ServicesState Thread Other} (h : DetachInv σ)
    (service : BusService) (id : UInt64) (topic : Bytes)
    (bus : BusState Thread (BusCallback Other))
    (hbus : bus.frames = σ.bus.frames)
    (hhistory : bus.history = σ.bus.history ++ [.subscribed id topic (.service service)])
    (hattaching : σ.attaching service = none)
    (hdetached : σ.attachment service = .none) :
    DetachInv { σ with
      bus
      attachment := Function.update σ.attachment service ⟨true, id⟩
      detachedAt := Function.update σ.detachedAt service none } := by
  -- what is still detached is another service
  have hdetachedAt (service' : BusService) (n : Nat)
      (hn : Function.update σ.detachedAt service none service' = some n) :
      service' ≠ service ∧ σ.detachedAt service' = some n := by
    by_cases heq : service' = service
    · rw [heq, Function.update_self] at hn
      exact nomatch hn
    · rw [Function.update_of_ne heq] at hn
      exact ⟨heq, hn⟩
  have hattachment (service' : BusService) (hne : service' ≠ service) :
      Function.update σ.attachment service ⟨true, id⟩ service' = σ.attachment service' :=
    Function.update_of_ne hne _ _
  constructor
  case attached =>
    intro service' l hl hcallback
    dsimp only at hl ⊢
    rw [hhistory, live_append_singleton] at hl
    cases List.mem_append.mp hl with
    | inl hl =>
      -- an older subscription is not one of this service, which was not attached
      have hattached := h.attached service' l hl hcallback
      have hne : service' ≠ service := by
        intro heq
        rw [heq, hdetached] at hattached
        exact absurd (congrArg Attachment.messageBus hattached) Bool.false_ne_true
      rw [hattachment service' hne]
      exact hattached
    | inr hl =>
      rw [List.mem_singleton.mp hl] at hcallback ⊢
      obtain rfl := BusCallback.service.inj hcallback
      exact Function.update_self _ _ _
  case attaching =>
    intro service' topic' hattaching'
    have hne : service' ≠ service := by
      intro heq
      rw [heq, hattaching] at hattaching'
      exact nomatch hattaching'
    exact (hattachment service' hne).trans (h.attaching service' topic' hattaching')
  case detached =>
    intro service' n hn
    obtain ⟨hne, hn⟩ := hdetachedAt service' n hn
    exact (hattachment service' hne).trans (h.detached service' n hn)
  case noneAhead =>
    intro service' n hn thread frame hframe
    dsimp only at hframe
    rw [hbus] at hframe
    exact h.noneAhead service' n (hdetachedAt service' n hn).2 thread frame hframe
  case length =>
    intro service' n hn
    dsimp only
    rw [hhistory, List.length_append]
    exact Nat.le_add_right_of_le (h.length service' n (hdetachedAt service' n hn).2)
  case safe =>
    intro service' n hn event hevent
    have hn := (hdetachedAt service' n hn).2
    dsimp only at hevent
    rw [hhistory, List.drop_append_of_le_length (h.length service' n hn)] at hevent
    cases List.mem_append.mp hevent with
    | inl hevent => exact h.safe service' n hn event hevent
    | inr hevent =>
      rw [List.mem_singleton.mp hevent]
      exact not_false

/-- The second part of `attachMessageBus` keeps the invariant. -/
theorem DetachInv.attachSubscribe {σ : ServicesState Thread Other} (h : DetachInv σ)
    (hinv : BusInv σ.bus) (hcount : subscriptionCount σ.bus.history < 2 ^ 64 - 1)
    (service : BusService) (topic : Bytes) (isOpen : Bool)
    (hattaching : σ.attaching service = some topic) :
    DetachInv (σ.attachSubscribe service topic isOpen) := by
  have hcleared := h.clearAttaching service
  cases hchecked : MessageBus.checkedCallback topic (some (.service service) :
      Option (BusCallback Other)) with
  | none =>
    -- an empty topic: the service stays detached
    have hid : (σ.bus.bus.subscribe topic (some (.service service))).2 =
        InvalidSubscriptionId := by
      simp only [MessageBus.subscribe, hchecked]
    simp only [ServicesState.attachSubscribe, hid, σ.bus.subscribe_refused _ _ hchecked]
    split
    · exact hcleared
    · exact hcleared
  | some checked =>
    -- the id is not the failure value, as the counter has not wrapped
    obtain ⟨-, rfl⟩ : topic ≠ [] ∧ BusCallback.service service = checked := by
      simpa [MessageBus.checkedCallback] using hchecked
    have hid : (σ.bus.bus.subscribe topic (some (.service service))).2 =
        σ.bus.bus.nextSubscriptionId := by
      simp only [MessageBus.subscribe, hchecked]
    have hvalid : (σ.bus.bus.nextSubscriptionId == InvalidSubscriptionId) = false := by
      rw [hinv.nextId]
      exact beq_false_of_ne (nthId_ne_invalid _ hcount)
    simp only [ServicesState.attachSubscribe, hid, hvalid,
      σ.bus.subscribe_accepted _ _ _ hchecked]
    split
    · exact hcleared
    · rw [if_neg Bool.false_ne_true]
      exact hcleared.subscribed service σ.bus.bus.nextSubscriptionId topic _ rfl rfl
        (Function.update_self ..) (h.attaching service topic hattaching)

/-- Every step that detaches services only while they are not ahead keeps the
    invariant. -/
theorem DetachInv.step {σ σ' : ServicesState Thread Other} (h : DetachInv σ)
    (hinv : BusInv σ.bus) (action : ServicesAction Thread Other)
    (hok : DetachesWhenNoneAhead σ action) (hstep : σ.step action = some σ') :
    DetachInv σ' := by
  obtain ⟨hcount, hnone⟩ := hok
  obtain ⟨busAction, bus, hbus, hbusStep, rfl⟩ | ⟨thread, service, rfl, -, -, rfl⟩ |
    ⟨thread, service, topic, rfl, -, -, rfl⟩ |
    ⟨thread, service, topic, isOpen, -, hattaching, rfl⟩ := σ.step_cases σ' action hstep
  · refine h.busStep hinv busAction bus hbusStep fun thread topic service heq => ?_
    exact ServicesState.busAction_subscribe action thread topic service (heq ▸ hbus)
  · exact h.detachMessageBus hinv hcount service (hnone service rfl)
  · exact h.attachMessageBus hinv hcount service topic (hnone service rfl)
  · exact h.attachSubscribe hinv hcount service topic isOpen hattaching

/-- In every run that detaches a service only while no publish call has it ahead, a
    service that `detachMessageBus` has detached is not called any more. -/
theorem detach_safe_of_none_ahead (σ : ServicesState Thread Other)
    (hreach : (servicesSystem Thread Other).Reachable DetachesWhenNoneAhead σ) :
    DetachSafe σ := by
  refine DetachInv.safe (hreach.invariant DetachInv ?_ ?_)
  · rintro σ rfl
    exact DetachInv.start
  · intro σ action σ' hreach hinv hok hstep
    have hbus := busInv_of_reachable (ServicesState.bus_reachable hreach) hok.1
    exact hinv.step hbus action hok hstep

/-! ## Runs -/

variable [DecidableEq Other]

omit [DecidableEq Thread] in
instance (service : BusService) :
    DecidablePred
      (BusEvent.startsService service : BusEvent Thread (BusCallback Other) → Prop) := fun
  | .called _ subscription =>
    inferInstanceAs (Decidable (subscription.callback = .service service))
  | .subscribed _ _ _ | .unsubscribed _ _ | .cleared | .started _ _ | .finished _ _
  | .returned _ _ => inferInstanceAs (Decidable False)

instance [Fintype Thread] (bus : BusState Thread (BusCallback Other)) (service : BusService) :
    Decidable (NoneAhead bus service) :=
  inferInstanceAs (Decidable (∀ thread, ∀ frame ∈ bus.frames thread,
    ∀ subscription ∈ frame.remaining, subscription.callback ≠ .service service))

instance [Fintype Thread] (σ : ServicesState Thread Other)
    (action : ServicesAction Thread Other) : Decidable (DetachesWhenNoneAhead σ action) :=
  inferInstanceAs (Decidable (_ ∧ ∀ service ∈ action.detaches, NoneAhead σ.bus service))

/-- A storage and an MQTT service are attached to the topic of a message. -/
def attachSteps : List (ServicesAction Bool Unit) :=
  [.attach false (.storage 0) topicMessage.topic, .attachSubscribe false (.storage 0) true,
    .attach false (.mqtt 0) topicMessage.topic, .attachSubscribe false (.mqtt 0) true]

/-- Both services are detached after a publish call has taken its snapshot. -/
def detachTooEarlySteps : List (ServicesAction Bool Unit) :=
  [attachSteps, [.publish true topicMessage, .detach false (.mqtt 0),
    .detach false (.storage 0), .call true, .finish true false, .call true]].flatten

/-- The publish call then calls both of them. -/
theorem detached_service_called :
    ∃ σ : ServicesState Bool Unit,
      (servicesSystem Bool Unit).Reachable TransitionSystem.anyStep σ ∧ ¬ DetachSafe σ ∧
      σ.bus.history.drop 5 = [.called ⟨true, 0⟩ ⟨1, .service (.storage 0)⟩,
        .finished ⟨true, 0⟩ false, .called ⟨true, 0⟩ ⟨2, .service (.mqtt 0)⟩] ∧
      σ.detachedAt (.storage 0) = some 5 ∧ σ.detachedAt (.mqtt 0) = some 4 := by
  obtain ⟨σ, -, hreach, hσ⟩ := TransitionSystem.exists_of_run
    (servicesSystem Bool Unit) TransitionSystem.anyStep detachTooEarlySteps
    (fun σ => σ.bus.history.drop 5 = [.called ⟨true, 0⟩ ⟨1, .service (.storage 0)⟩,
        .finished ⟨true, 0⟩ false, .called ⟨true, 0⟩ ⟨2, .service (.mqtt 0)⟩] ∧
      σ.detachedAt (.storage 0) = some 5 ∧ σ.detachedAt (.mqtt 0) = some 4)
    rfl (by decide)
  rw [decide_eq_true_eq] at hσ
  obtain ⟨hcalled, hstorage, hmqtt⟩ := hσ
  refine ⟨σ, hreach, fun hsafe => ?_, hcalled, hstorage, hmqtt⟩
  exact hsafe (.storage 0) 5 hstorage (.called ⟨true, 0⟩ ⟨1, .service (.storage 0)⟩)
    (hcalled ▸ List.mem_cons_self) rfl

/-- A publish call that is past both services when they are detached, and one that begins
    after that. -/
def twoPublishesSteps : List (ServicesAction Bool Unit) :=
  [attachSteps, [.publish true topicMessage, .call true, .finish true false, .call true,
    .detach false (.mqtt 0), .detach false (.storage 0), .finish true false,
    .endPublish true, .publish true topicMessage]].flatten

/-- Neither of them calls a detached service. -/
theorem detach_safe_of_none_ahead_two_publishes :
    ∃ σ, (servicesSystem Bool Unit).run DetachesWhenNoneAhead .start twoPublishesSteps =
        some σ ∧
      σ.detachedAt (.mqtt 0) = some 7 ∧ σ.bus.history.length = 12 ∧ DetachSafe σ := by
  obtain ⟨σ, hrun, hreach, hσ⟩ := TransitionSystem.exists_of_run
    (servicesSystem Bool Unit) DetachesWhenNoneAhead twoPublishesSteps
    (fun σ => σ.detachedAt (.mqtt 0) = some 7 ∧ σ.bus.history.length = 12)
    rfl (by decide)
  rw [decide_eq_true_eq] at hσ
  exact ⟨σ, hrun, hσ.1, hσ.2, detach_safe_of_none_ahead σ hreach⟩

end EdgeLink
