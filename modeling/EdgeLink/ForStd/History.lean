import Mathlib.Data.List.Basic

/-!
# Histories

A history is the list of events of a run, oldest first. `Chronicle P` says that every
event was justified, in the sense of `P`, by the events before it; a run keeps it by
checking each new event once (`chronicle_append_singleton`). `flag` is what a switch shows
that some events turn on and some turn off.
-/

namespace List

variable {Event : Type}

/-- Every event of the history satisfies `P` together with the events before it. -/
def Chronicle (P : List Event → Event → Prop) (history : List Event) : Prop :=
  ∀ past event future, history = past ++ event :: future → P past event

variable {P : List Event → Event → Prop}

/-- Nothing is left to explain in an empty history. -/
theorem chronicle_nil : Chronicle P [] := by
  intro past event future h
  simp at h

/-- A history with one event before all others. -/
theorem chronicle_cons (event : Event) (history : List Event) :
    Chronicle P (event :: history) ↔
      P [] event ∧ Chronicle (fun past => P (event :: past)) history := by
  constructor
  · intro h
    refine ⟨h [] event history rfl, fun past e future heq => ?_⟩
    exact h (event :: past) e future (by simp [heq])
  · rintro ⟨hfirst, hrest⟩ past e future heq
    cases past with
    | nil =>
      obtain ⟨rfl, -⟩ := cons.inj heq
      exact hfirst
    | cons e' past =>
      obtain ⟨rfl, hhistory⟩ := cons.inj heq
      exact hrest past e future hhistory

/-- A history with one more event: the older events are explained, and the new one is
    explained by all of them. -/
theorem chronicle_append_singleton (history : List Event) (event : Event) :
    Chronicle P (history ++ [event]) ↔ Chronicle P history ∧ P history event := by
  constructor
  · intro h
    refine ⟨fun past e future heq => h past e (future ++ [event]) (by simp [heq]), ?_⟩
    exact h history event [] rfl
  · intro ⟨hold, hnew⟩ past e future heq
    rcases eq_nil_or_concat future with rfl | ⟨future, last, rfl⟩
    · obtain ⟨rfl, hlast⟩ := append_inj' heq rfl
      obtain rfl := (cons.inj hlast).1
      exact hnew
    · have heq' : history ++ [event] = (past ++ e :: future) ++ [last] := by
        rw [heq]; simp
      exact hold past e future (append_inj' heq' rfl).1

/-- Whether the last event that turned the switch turned it on; it is off at first. -/
def flag (on off : Event → Bool) (history : List Event) : Bool :=
  history.foldl (fun shown event => on event || (shown && !off event)) false

@[simp] theorem flag_nil (on off : Event → Bool) : flag on off [] = false := rfl

@[simp] theorem flag_append_singleton (on off : Event → Bool) (history : List Event)
    (event : Event) :
    flag on off (history ++ [event]) = (on event || (flag on off history && !off event)) := by
  simp [flag]

end List
