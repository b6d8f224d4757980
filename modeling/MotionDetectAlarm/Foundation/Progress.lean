import Mathlib.Algebra.Order.Ring.Nat
import MotionDetectAlarm.Foundation.TransitionSystem

namespace Foundation

universe u v

/-!
# Progress of a run

A work function says how many counted steps a state is away from one with
nothing left to do.  A counted step takes some of the work away while there is
any, and no other step adds to it.  A run in which enough steps are counted then
passes a state with no work left, wherever the other steps stand among them.

Nothing is assumed of the schedule but how often the counted steps occur, so the
rules cover an environment that interferes as often as it likes.
-/

/-- What no step brings back has held all along when it holds at the end. -/
theorem Run.of_lasting {State : Type u} {Label : Type v} {step : State -> Label -> State -> Prop} {start final : State}
    {labels : List Label} {Lasting : State -> Prop}
    (lost : forall {before label after}, step before label after -> Lasting after -> Lasting before)
    (run : Run step start labels final) (last : Lasting final) :
    Run (Guarded step (fun before _ _ => Lasting before)) start labels final := by
  induction run with
  | nil => exact .nil
  | snoc _ stepped ih => exact (ih (lost stepped last)).snoc ⟨stepped, lost stepped last⟩

/-- A potential that every counted step spends from, and that other steps raise by
no more than what is granted for them, bounds the counted steps of a run. -/
theorem Run.spends {State : Type u} {Label : Type v} {step : State -> Label -> State -> Prop} {start final : State}
    {labels : List Label} {potential : State -> Nat} {counted : Label -> Bool} {granted : Label -> Nat}
    (spent : forall {before label after}, step before label after ->
      potential after + (if counted label then 1 else 0) ≤ potential before + granted label)
    (run : Run step start labels final) :
    potential final + labels.countP counted ≤ potential start + (labels.map granted).sum := by
  induction run with
  | nil => exact Nat.le_refl _
  | snoc _ stepped ih =>
      have last := spent stepped
      rw [List.countP_append, List.countP_singleton, List.map_append, List.sum_append, List.map_singleton,
        List.sum_singleton]
      omega

/-- The states of an invariant in which counted steps bring the work down. -/
structure Countdown {State : Type u} {Label : Type v} (step : State -> Label -> State -> Prop)
    (Holds : State -> Prop) (counted : Label -> Bool) (work : State -> Nat) : Prop where
  keeps : forall {before label after}, Holds before -> step before label after -> Holds after
  lowers : forall {before label after}, Holds before -> step before label after -> counted label = true ->
    0 < work before -> work after < work before
  bounds : forall {before label after}, Holds before -> step before label after -> counted label = false ->
    work after ≤ work before

namespace Countdown

variable {State : Type u} {Label : Type v} {step : State -> Label -> State -> Prop} {Holds : State -> Prop}
  {counted : Label -> Bool} {work : State -> Nat} {start final : State} {labels : List Label}

theorem holds (countdown : Countdown step Holds counted work) (initial : Holds start)
    (run : Run step start labels final) : Holds final :=
  run.invariant Holds initial (fun _ _ _ before stepped => countdown.keeps before stepped)

/-- Either some state of the run had no work left, or every counted step has
taken its part. -/
theorem passed_or_lowered (countdown : Countdown step Holds counted work) (initial : Holds start)
    (run : Run step start labels final) :
    (exists front back middle, labels = front ++ back ∧ Run step start front middle ∧ Run step middle back final ∧
        work middle = 0 ∧ front.countP counted ≤ work start) ∨
      work final + labels.countP counted ≤ work start := by
  induction run with
  | nil => exact Or.inr (Nat.le_refl _)
  | @snoc labels middle final label run stepped ih =>
      rcases ih with ⟨front, back, passed, rfl, before, behind, done, few⟩ | lowered
      · exact Or.inl ⟨front, back ++ [label], passed, List.append_assoc _ _ _, before, behind.snoc stepped, done, few⟩
      · rcases Nat.eq_zero_or_pos (work middle) with done | some_work
        · refine Or.inl ⟨labels, [label], middle, rfl, run, Run.nil.snoc stepped, done, ?_⟩
          omega
        · refine Or.inr ?_
          have here := countdown.holds initial run
          rw [List.countP_append, List.countP_singleton]
          cases step_counted : counted label with
          | true =>
              have less := countdown.lowers here stepped step_counted some_work
              simp only [if_true]
              omega
          | false =>
              have same := countdown.bounds here stepped step_counted
              simp only [Bool.false_eq_true, if_false]
              omega

/-- With as many counted steps as there is work at the start, the run passes a
state with none left. -/
theorem passes (countdown : Countdown step Holds counted work) (initial : Holds start)
    (run : Run step start labels final) (enough : work start ≤ labels.countP counted) :
    exists front back middle, labels = front ++ back ∧ Run step start front middle ∧ Run step middle back final ∧
      work middle = 0 ∧ front.countP counted ≤ work start := by
  rcases countdown.passed_or_lowered initial run with passed | lowered
  · exact passed
  · exact ⟨labels, [], final, (List.append_nil _).symm, run, .nil, by omega, by omega⟩

end Countdown

end Foundation
