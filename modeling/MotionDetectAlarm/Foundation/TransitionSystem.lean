import Mathlib.Data.List.Induction

namespace Foundation

universe u v

/-!
# Runs of a labelled transition system

A system is given by its labelled step relation.  A run lists the labels in
the order in which they happened, newest last, so that the history of a run
grows at the same end as a log kept in the state.

An assumption on the environment (a bound that always holds, a step that is
never scheduled at a bad moment) is a stronger step relation, written with
`Guarded`.  The invariant rules are stated for any step relation and so cover
the guarded systems as well.
-/

/-- The states reached from `start`, each with the labels that led there. -/
inductive Run {State : Type u} {Label : Type v} (step : State -> Label -> State -> Prop)
    (start : State) : List Label -> State -> Prop
  | nil : Run step start [] start
  | snoc {labels : List Label} {middle final : State} {label : Label} :
      Run step start labels middle -> step middle label final ->
      Run step start (labels ++ [label]) final

/-- Keep only the steps that meet a condition on both ends and the label. -/
def Guarded {State : Type u} {Label : Type v} (step : State -> Label -> State -> Prop)
    (condition : State -> Label -> State -> Prop) (before : State) (label : Label)
    (after : State) : Prop :=
  step before label after ∧ condition before label after

namespace Run

variable {State : Type u} {Label : Type v} {step : State -> Label -> State -> Prop} {start : State}

/-- What holds at the start and is kept by every step holds in every run. -/
theorem invariant (Holds : State -> Prop) (initial : Holds start)
    (keeps : forall before label after, Holds before -> step before label after -> Holds after)
    {labels : List Label} {final : State} (run : Run step start labels final) : Holds final := by
  induction run with
  | nil => exact initial
  | snoc _ stepped ih => exact keeps _ _ _ ih stepped

/-- The same rule for a property that also speaks of the history. -/
theorem invariant_history (Holds : List Label -> State -> Prop) (initial : Holds [] start)
    (keeps : forall labels before label after, Holds labels before -> step before label after ->
      Holds (labels ++ [label]) after)
    {labels : List Label} {final : State} (run : Run step start labels final) :
    Holds labels final := by
  induction run with
  | nil => exact initial
  | snoc _ stepped ih => exact keeps _ _ _ _ ih stepped

/-- A run of a system with fewer steps is a run of the larger system. -/
theorem weaken {larger : State -> Label -> State -> Prop}
    (included : forall before label after, step before label after -> larger before label after)
    {labels : List Label} {final : State} (run : Run step start labels final) :
    Run larger start labels final := by
  induction run with
  | nil => exact .nil
  | snoc _ stepped ih => exact .snoc ih (included _ _ _ stepped)

/-- Runs compose. -/
theorem append {labels later : List Label} {middle final : State}
    (run : Run step start labels middle) (rest : Run step middle later final) :
    Run step start (labels ++ later) final := by
  induction rest with
  | nil => simpa using run
  | snoc _ stepped ih => simpa using Run.snoc ih stepped

/-- A run is cut where its labels are. -/
theorem split {labels later : List Label} {final : State} (run : Run step start (labels ++ later) final) :
    exists middle, Run step start labels middle ∧ Run step middle later final := by
  induction later using List.reverseRecOn generalizing final with
  | nil =>
      rw [List.append_nil] at run
      exact ⟨final, run, .nil⟩
  | append_singleton later label ih =>
      generalize whole : labels ++ (later ++ [label]) = all at run
      cases run with
      | nil => simp at whole
      | snoc before stepped =>
          rw [← List.append_assoc] at whole
          rcases List.append_inj' whole rfl with ⟨same, last⟩
          cases last
          subst same
          rcases ih before with ⟨middle, front, back⟩
          exact ⟨middle, front, back.snoc stepped⟩

/-- A schedule that a deterministic step function carries out is a run. -/
theorem of_foldlM {Error : Type u} {next : State -> Label -> Except Error State}
    {labels : List Label} {final : State} (executed : labels.foldlM next start = .ok final) :
    Run (fun before label after => next before label = .ok after) start labels final := by
  induction labels using List.reverseRecOn generalizing final with
  | nil =>
      cases executed
      exact .nil
  | append_singleton labels label ih =>
      rw [List.foldlM_append] at executed
      cases reached : labels.foldlM next start with
      | error failure =>
          rw [reached] at executed
          cases executed
      | ok middle =>
          rw [reached] at executed
          have last : [label].foldlM next middle = .ok final := executed
          rw [List.foldlM_cons] at last
          simp only [List.foldlM_nil, bind_pure] at last
          exact .snoc (ih reached) last

/-- The same for a step function that may have no step. -/
theorem of_foldlM_some {next : State -> Label -> Option State} {labels : List Label} {final : State}
    (executed : labels.foldlM next start = some final) :
    Run (fun before label after => next before label = some after) start labels final := by
  induction labels using List.reverseRecOn generalizing final with
  | nil =>
      cases executed
      exact .nil
  | append_singleton labels label ih =>
      rw [List.foldlM_append] at executed
      rcases Option.bind_eq_some_iff.mp executed with ⟨middle, reached, last⟩
      rw [List.foldlM_cons] at last
      simp only [List.foldlM_nil, bind_pure] at last
      exact .snoc (ih reached) last

end Run

/-- Carry out a step and check it. -/
def checked {State : Type u} {Label : Type v} {Error : Type u} (next : State -> Label -> Except Error State)
    (refused : Error) (condition : State -> Label -> State -> Bool) (before : State) (label : Label) :
    Except Error State :=
  match next before label with
  | .error failure => .error failure
  | .ok after => if condition before label after then .ok after else .error refused

/-- A schedule whose every step passes the check is a run of the guarded
system. -/
theorem Run.of_checked {State : Type u} {Label : Type v} {Error : Type u} {start : State}
    {next : State -> Label -> Except Error State} {refused : Error}
    {condition : State -> Label -> State -> Bool} {labels : List Label} {final : State}
    (executed : labels.foldlM (checked next refused condition) start = .ok final) :
    Run (Guarded (fun before label after => next before label = .ok after)
      (fun before label after => condition before label after = true)) start labels final := by
  refine (Run.of_foldlM executed).weaken ?_
  intro before label after stepped
  simp only [checked] at stepped
  cases reached : next before label with
  | error failure =>
      rw [reached] at stepped
      cases stepped
  | ok state =>
      rw [reached] at stepped
      simp only at stepped
      split at stepped
      · rename_i passed
        cases stepped
        exact ⟨reached, passed⟩
      · cases stepped

end Foundation
