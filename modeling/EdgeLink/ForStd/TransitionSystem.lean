import Mathlib.Data.Option.Basic

/-!
# Transition systems with executable steps

A system is a set of initial states and a partial step function. The action resolves
all nondeterminism (which thread moves, what the environment answers), so a run is a
list of actions and can be replayed.

* `Reachable ok`: the states of all runs whose every step satisfies `ok`. With `ok`
  always true these are all reachable states; with another `ok` they are those of the
  runs that meet an assumption at each step.
* `Reachable.invariant`: what holds initially and is preserved by each such step holds
  in every reachable state.
* `run`: replay of a list of actions, and `run_reachable`, its end is reachable.
* `startedIn`: the runs that go on from a given state.
* `observed`: the system with a record of its steps.
* `EveryStep p`: each step of a run satisfies `p` in the state before it.
* `everyStep_iff_of_invariant`: two properties of a step that agree under an invariant
  agree over every run that keeps it.
-/

/-- A transition system: initial states and a step function that is `none` where the
    action is not enabled. -/
structure TransitionSystem (State Action : Type) where
  init : State → Prop
  step : State → Action → Option State

namespace TransitionSystem

variable {State Action : Type} (S : TransitionSystem State Action)

/-- No assumption on the steps of a run. -/
abbrev anyStep (_ : State) (_ : Action) : Prop := True

/-- The states reached by runs whose steps all satisfy `ok` in the state before them. -/
inductive Reachable (ok : State → Action → Prop) : State → Prop
  | init {s : State} (hinit : S.init s) : Reachable ok s
  | step {s s' : State} {a : Action} (hreach : Reachable ok s) (hok : ok s a)
      (hstep : S.step s a = some s') : Reachable ok s'

variable {S} {ok : State → Action → Prop}

/-- An invariant of the initial states that every step from a reachable state
    preserves holds in all reachable states. -/
theorem Reachable.invariant (Inv : State → Prop)
    (hinit : ∀ s, S.init s → Inv s)
    (hstep : ∀ s a s', S.Reachable ok s → Inv s → ok s a → S.step s a = some s' → Inv s')
    {s : State} (h : S.Reachable ok s) : Inv s := by
  induction h with
  | init h => exact hinit _ h
  | step hreach hok hs ih => exact hstep _ _ _ hreach ih hok hs

variable (S)

/-- Replay `actions` from `s`, checking the assumption at every step. -/
def run (ok : State → Action → Prop) [∀ s a, Decidable (ok s a)] :
    State → List Action → Option State
  | s, [] => some s
  | s, a :: actions =>
    if ok s a then
      match S.step s a with
      | some s' => run ok s' actions
      | none => none
    else none

variable {S}

/-- A replay that starts in a reachable state ends in one. -/
theorem run_reachable [∀ s a, Decidable (ok s a)] (actions : List Action) {s s' : State}
    (hs : S.Reachable ok s) (h : S.run ok s actions = some s') : S.Reachable ok s' := by
  induction actions generalizing s with
  | nil => obtain rfl := Option.some.inj h; exact hs
  | cons a actions ih =>
    simp only [run] at h
    split at h
    · rename_i hok
      split at h
      · rename_i s₁ hstep
        exact ih (.step hs hok hstep) h
      · exact nomatch h
    · exact nomatch h

/-- A replay under an assumption is one under a weaker assumption. -/
theorem run_of_imp {ok' : State → Action → Prop} [∀ s a, Decidable (ok s a)]
    [∀ s a, Decidable (ok' s a)] (himp : ∀ s a, ok' s a → ok s a) (actions : List Action)
    {s s' : State} (h : S.run ok' s actions = some s') : S.run ok s actions = some s' := by
  induction actions generalizing s with
  | nil => exact h
  | cons a actions ih =>
    simp only [run] at h ⊢
    split at h
    · rename_i hok
      rw [if_pos (himp s a hok)]
      split at h
      · exact ih h
      · exact nomatch h
    · exact nomatch h

variable (S) in
/-- Every action of the run from `s` that can be taken satisfies `p` in the state before
    it. -/
def EveryStep (p : State → Action → Prop) : State → List Action → Prop
  | _, [] => True
  | s, a :: actions => p s a ∧ ∀ s', S.step s a = some s' → EveryStep p s' actions

instance decidableEveryStep {p : State → Action → Prop} [∀ s a, Decidable (p s a)] :
    ∀ (actions : List Action) (s : State), Decidable (S.EveryStep p s actions)
  | [], _ => inferInstanceAs (Decidable True)
  | a :: actions, s =>
    have := decidableEveryStep (p := p) actions
    inferInstanceAs (Decidable (p s a ∧ ∀ s' ∈ S.step s a, S.EveryStep p s' actions))

/-- Over a run that keeps an invariant and whose steps all satisfy `r`, two properties of a
    step agree if they agree where the invariant and `r` hold. -/
theorem everyStep_iff_of_invariant (Inv : State → Prop) {p q r : State → Action → Prop}
    (hiff : ∀ s a, Inv s → r s a → (p s a ↔ q s a))
    (hstep : ∀ s a s', Inv s → r s a → p s a → S.step s a = some s' → Inv s')
    (actions : List Action) {s : State} (hs : Inv s) (hr : S.EveryStep r s actions) :
    S.EveryStep p s actions ↔ S.EveryStep q s actions := by
  induction actions generalizing s with
  | nil => exact Iff.rfl
  | cons a actions ih =>
    simp only [EveryStep]
    rw [← hiff s a hs hr.1]
    apply and_congr_right
    intro hp
    apply forall_congr'
    intro s'
    apply imp_congr_right
    intro hs'
    exact ih (hstep s a s' hs hr.1 hp hs') (hr.2 s' hs')

/-- What holds of every step holds of every step of a run. -/
theorem everyStep_of_forall {p : State → Action → Prop} (h : ∀ s a, p s a)
    (actions : List Action) (s : State) : S.EveryStep p s actions := by
  induction actions generalizing s with
  | nil => trivial
  | cons a actions ih => exact ⟨h s a, fun s' _ => ih s'⟩

/-- Two properties of a step that agree in every state agree over every run. -/
theorem everyStep_congr {p q : State → Action → Prop} (h : ∀ s a, p s a ↔ q s a)
    (actions : List Action) (s : State) :
    S.EveryStep p s actions ↔ S.EveryStep q s actions :=
  everyStep_iff_of_invariant (fun _ => True) (fun s a _ _ => h s a)
    (fun _ _ _ _ _ _ _ => trivial) actions trivial
    (everyStep_of_forall (fun _ _ => trivial) actions s : S.EveryStep anyStep s actions)

/-- The same system, started in `s`. -/
def startedIn (S : TransitionSystem State Action) (s : State) :
    TransitionSystem State Action where
  init := (· = s)
  step := S.step

/-- A run that goes on from a reachable state ends in a reachable state. -/
theorem Reachable.trans {ok' : State → Action → Prop} {s s' : State}
    (h : S.Reachable ok s) (himp : ∀ s a, ok' s a → ok s a)
    (h' : (S.startedIn s).Reachable ok' s') : S.Reachable ok s' := by
  induction h' with
  | init hinit =>
    obtain rfl := hinit
    exact h
  | step hreach hok hstep ih => exact .step ih (himp _ _ hok) hstep

/-- The system together with what an observer has noted of the steps so far. -/
def observed {Event : Type} (S : TransitionSystem State Action)
    (observe : State → Action → Option Event) :
    TransitionSystem (State × List Event) Action where
  init s := S.init s.1 ∧ s.2 = []
  step s a := (S.step s.1 a).map fun s' => (s', s.2 ++ (observe s.1 a).toList)

variable (S ok)

/-- A replay from an initial state whose end satisfies a decidable property. -/
theorem exists_of_run [∀ s a, Decidable (ok s a)] (actions : List Action)
    (p : State → Bool) {s : State} (hinit : S.init s)
    (h : (S.run ok s actions).any p = true) :
    ∃ s', S.run ok s actions = some s' ∧ S.Reachable ok s' ∧ p s' = true := by
  cases hrun : S.run ok s actions with
  | none => rw [hrun] at h; exact nomatch h
  | some s' =>
    rw [hrun] at h
    exact ⟨s', rfl, run_reachable actions (.init hinit) hrun, h⟩

end TransitionSystem
