import Mathlib.Algebra.Order.Ring.Nat
import MotionDetectAlarm.Foundation.TransitionSystem

namespace Foundation

universe u

/-!
# The first-in first-out queue

The abstract queue that an implementation with indices, counters and a shared
array may be compared with.  Its state is the list of waiting entries, oldest
first.  An operation carries what its caller observes, so that a run of the
queue is a specification of observations: a count is the length, a reading at
an index is the entry at that index, and a release takes the oldest entries.
-/

/-- An operation of the queue with its observed values. -/
inductive FifoOp (Entry : Type u) where
  | arrive (entry : Entry)
  | count (number : Nat)
  | peek (index : Nat) (entry : Entry)
  | release (number : Nat)
  deriving DecidableEq

namespace FifoOp

variable {Entry : Type u}

/-- The operations a queue with these waiting entries allows. -/
def step (queue : List Entry) : FifoOp Entry -> List Entry -> Prop
  | arrive entry, next => next = queue ++ [entry]
  | count number, next => number = queue.length ∧ next = queue
  | peek index entry, next => queue[index]? = some entry ∧ next = queue
  | release number, next => number ≤ queue.length ∧ next = queue.drop number

/-- The entries that arrived, oldest first. -/
def arrived (ops : List (FifoOp Entry)) : List Entry :=
  ops.filterMap (fun op => match op with
    | arrive entry => some entry
    | _ => none)

/-- The number of entries taken out. -/
def taken (ops : List (FifoOp Entry)) : Nat :=
  (ops.map (fun op => match op with
    | release number => number
    | _ => 0)).sum

theorem arrived_append (ops later : List (FifoOp Entry)) : arrived (ops ++ later) = arrived ops ++ arrived later :=
  List.filterMap_append

theorem taken_append (ops later : List (FifoOp Entry)) : taken (ops ++ later) = taken ops + taken later := by
  rw [taken, List.map_append, List.sum_append]
  rfl

/-- Nothing is lost, repeated or reordered: what waits is what arrived behind
the entries that were taken. -/
theorem conservation {ops : List (FifoOp Entry)} {queue : List Entry}
    (run : Run step [] ops queue) :
    taken ops ≤ (arrived ops).length ∧ queue = (arrived ops).drop (taken ops) := by
  refine run.invariant_history
    (fun ops queue => taken ops ≤ (arrived ops).length ∧ queue = (arrived ops).drop (taken ops))
    ⟨Nat.le_refl 0, rfl⟩ ?_
  intro ops before op after held stepped
  rcases held with ⟨le, same⟩
  cases op with
  | arrive entry =>
      cases stepped
      rw [arrived_append, taken_append, show arrived [arrive entry] = [entry] from rfl,
        show taken [arrive entry] = 0 from rfl, Nat.add_zero, List.length_append]
      refine ⟨Nat.le_add_right_of_le le, ?_⟩
      rw [same, List.drop_append_of_le_length le]
  | count number =>
      rcases stepped with ⟨-, rfl⟩
      rw [arrived_append, taken_append, show arrived [count number] = ([] : List Entry) from rfl,
        show taken [count number] = 0 from rfl, List.append_nil]
      exact ⟨le, same⟩
  | peek index entry =>
      rcases stepped with ⟨-, rfl⟩
      rw [arrived_append, taken_append, show arrived [peek index entry] = [] from rfl,
        show taken [peek index entry] = 0 from rfl, List.append_nil]
      exact ⟨le, same⟩
  | release number =>
      rcases stepped with ⟨enough, rfl⟩
      have length := congrArg List.length same
      rw [List.length_drop] at length
      rw [arrived_append, taken_append, show arrived [release number] = ([] : List Entry) from rfl,
        show taken [release number] = number from rfl, List.append_nil]
      refine ⟨by omega, ?_⟩
      rw [same, List.drop_drop]

end FifoOp

end Foundation
