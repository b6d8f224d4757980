import Mathlib.Algebra.Order.Ring.Nat
import Mathlib.Control.Monad.Basic
import Mathlib.Tactic.Common

namespace Foundation

universe u v w

/-!
# Faults and fuelled loops

An imperative function can fail to hand back a value in three ways that its
type does not show: a library call throws, an array is indexed outside its
bounds, or a loop never leaves.  `Fault` names the three, and a modelled
function returns `Except Fault`.

A `while` or `for` loop whose counter can wrap need not end.  `loop` runs one
round at a time on a supply of fuel and reports `diverges` when the supply is
used up.  Two rules make the report exact.  `loop_of_measure` gives a result
once the fuel exceeds a decreasing measure, and `loop_diverges` shows that an
invariant which never lets a round leave exhausts every supply.
-/

/-- Why a call does not return. -/
inductive Fault where
  /-- A library call throws and nothing catches it. -/
  | outOfRange
  /-- An array access outside its bounds, undefined in the source language. -/
  | outOfBounds
  /-- A loop that never leaves. -/
  | diverges
  deriving DecidableEq, Repr

/-- What a successful call with a mapped result did. -/
theorem exists_of_map_eq_ok {Error : Type u} {Value : Type u} {Image : Type v} {call : Except Error Value}
    {view : Value -> Image} {image : Image} (mapped : call.map view = .ok image) :
    exists value, call = .ok value ∧ view value = image := by
  cases call with
  | error fault => cases mapped
  | ok value => exact ⟨value, rfl, Except.ok.inj mapped⟩

/-- A call with a mapped result fails as the call does. -/
theorem eq_error_of_map_eq_error {Error : Type u} {Value : Type u} {Image : Type v} {call : Except Error Value}
    {view : Value -> Image} {failure : Error} (failed : call.map view = .error failure) : call = .error failure := by
  cases call with
  | error fault => exact congrArg Except.error (Except.error.inj failed)
  | ok value => cases failed

/-- A call with a renamed failure succeeds as the call does. -/
theorem eq_ok_of_mapError_eq_ok {Error : Type u} {Other : Type u} {Value : Type v} {call : Except Error Value}
    {rename : Error -> Other} {value : Value} (done : call.mapError rename = .ok value) : call = .ok value := by
  cases call with
  | error fault => cases done
  | ok result => exact congrArg Except.ok (Except.ok.inj done)

/-- A call that has succeeded hands its result on. -/
theorem ok_bind {Error : Type u} {Value : Type v} {Result : Type v} (value : Value)
    (rest : Value -> Except Error Result) : (Except.ok value >>= rest) = rest value := rfl

/-- What a successful call followed by another did. -/
theorem exists_of_bind_eq_ok {Error : Type u} {Value : Type v} {Result : Type v} {call : Except Error Value}
    {rest : Value -> Except Error Result} {result : Result} (done : call >>= rest = .ok result) :
    exists value, call = .ok value ∧ rest value = .ok result := by
  cases call with
  | error fault => cases done
  | ok value => exact ⟨value, rfl, done⟩

/-- A loop over a list whose rounds return returns. -/
theorem foldlM_returns {Error : Type u} {State : Type v} {Label : Type w} {round : State -> Label -> Except Error State}
    {labels : List Label}
    (returns : forall label, label ∈ labels -> forall state, exists after, round state label = .ok after) (state : State) :
    exists after, labels.foldlM round state = .ok after := by
  induction labels generalizing state with
  | nil => exact ⟨state, rfl⟩
  | cons label labels ih =>
      rcases returns label List.mem_cons_self state with ⟨middle, rounded⟩
      rw [List.foldlM_cons, rounded, ok_bind]
      exact ih (fun other member => returns other (List.mem_cons_of_mem _ member)) middle

/-- A 32-bit counter below a bound that it can count to does not wrap. -/
theorem counter_succ_toNat {i : UInt32} {bound : Nat} (below : i.toNat < bound) (countable : bound < 2 ^ 32) :
    (i + 1).toNat = i.toNat + 1 := by
  rw [UInt32.toNat_add]
  exact Nat.mod_eq_of_lt (Nat.lt_of_le_of_lt below countable)

/-- A round of a loop goes round again or leaves with a result. -/
inductive Round (State : Type u) (Result : Type v) where
  | again (state : State)
  | leave (result : Result)

/-- Run rounds until one leaves, at most `fuel` of them. -/
def loop {State : Type u} {Result : Type v} (round : State -> Except Fault (Round State Result)) :
    Nat -> State -> Except Fault Result
  | 0, _ => .error .diverges
  | fuel + 1, state =>
      match round state with
      | .error fault => .error fault
      | .ok (.leave result) => .ok result
      | .ok (.again next) => loop round fuel next

section Rules

variable {State : Type u} {Result : Type v} {round : State -> Except Fault (Round State Result)}

theorem loop_leave {state : State} {result : Result} (left : round state = .ok (.leave result))
    (fuel : Nat) : loop round (fuel + 1) state = .ok result := by
  rw [loop, left]

theorem loop_again {state next : State} (continued : round state = .ok (.again next))
    (fuel : Nat) : loop round (fuel + 1) state = loop round fuel next := by
  rw [loop, continued]

/-- Total correctness.  Each round keeps the invariant and lowers the
measure, or leaves with a result that meets the postcondition. -/
theorem loop_of_measure (Invariant : State -> Prop) (Post : Result -> Prop) (measure : State -> Nat)
    (advance : forall state, Invariant state ->
      (exists result, round state = .ok (.leave result) ∧ Post result) ∨
      (exists next, round state = .ok (.again next) ∧ Invariant next ∧ measure next < measure state))
    (fuel : Nat) (state : State) (enough : measure state < fuel) (holds : Invariant state) :
    exists result, loop round fuel state = .ok result ∧ Post result := by
  induction fuel generalizing state with
  | zero => exact absurd enough (Nat.not_lt_zero _)
  | succ fuel ih =>
      rcases advance state holds with ⟨result, left, post⟩ | ⟨next, continued, kept, lower⟩
      · exact ⟨result, loop_leave left fuel, post⟩
      · rw [loop_again continued]
        exact ih next (by omega) kept

/-- An invariant under which every round goes round again exhausts any fuel. -/
theorem loop_diverges (Invariant : State -> Prop)
    (stuck : forall state, Invariant state ->
      exists next, round state = .ok (.again next) ∧ Invariant next)
    (fuel : Nat) (state : State) (holds : Invariant state) :
    loop round fuel state = .error .diverges := by
  induction fuel generalizing state with
  | zero => rfl
  | succ fuel ih =>
      rcases stuck state holds with ⟨next, continued, kept⟩
      rw [loop_again continued]
      exact ih next kept

/-- A property kept by every round, and handed to the result by the round
that leaves, holds of whatever the loop returns. -/
theorem loop_result (Invariant : State -> Prop) (Post : Result -> Prop)
    (keeps : forall state next, Invariant state -> round state = .ok (.again next) -> Invariant next)
    (leaves : forall state result, Invariant state -> round state = .ok (.leave result) -> Post result)
    (fuel : Nat) (state : State) (holds : Invariant state) (result : Result)
    (returned : loop round fuel state = .ok result) : Post result := by
  induction fuel generalizing state with
  | zero => cases returned
  | succ fuel ih =>
      rw [loop] at returned
      split at returned
      · cases returned
      · rename_i value left
        cases returned
        exact leaves state result holds left
      · rename_i next continued
        exact ih next (keeps state next holds continued) returned

/-- A loop fails because a round fails or because it never leaves. -/
theorem loop_error {fuel : Nat} {state : State} {fault : Fault} (failed : loop round fuel state = .error fault) :
    fault = .diverges ∨ exists state, round state = .error fault := by
  induction fuel generalizing state with
  | zero =>
      cases failed
      exact Or.inl rfl
  | succ fuel ih =>
      rw [loop] at failed
      split at failed
      · rename_i thrown here
        cases failed
        exact Or.inr ⟨state, here⟩
      · cases failed
      · exact ih failed

end Rules

end Foundation
