import MotionDetectAlarm.Foundation.TransitionSystem

namespace Foundation

universe u v w

/-!
# Simulation

Two programs that are carried out side by side stay related when each round
keeps them related or ends both in the same way.  A system whose every step is
a run of another one has no runs but those of the other system.
-/

/-- Two calls that fail in the same way or hand back related values. -/
inductive Alike {Error : Type u} {First Second : Type v} (Related : First -> Second -> Prop) :
    Except Error First -> Except Error Second -> Prop
  | failed (failure : Error) : Alike Related (.error failure) (.error failure)
  | returned {first : First} {second : Second} : Related first second -> Alike Related (.ok first) (.ok second)

namespace Alike

variable {Error : Type u} {First Second : Type v} {Label : Type w} {Related : First -> Second -> Prop}
  {firstCall : Except Error First} {secondCall : Except Error Second}

theorem same (call : Except Error First) : Alike Eq call call := by
  cases call with
  | error failure => exact .failed failure
  | ok value => exact .returned rfl

theorem error_iff (alike : Alike Related firstCall secondCall) {failure : Error} :
    firstCall = .error failure ↔ secondCall = .error failure := by
  cases alike with
  | failed _ => rw [Except.error.injEq, Except.error.injEq]
  | returned _ => exact iff_of_false nofun nofun

theorem exists_first (alike : Alike Related firstCall secondCall) {second : Second} (done : secondCall = .ok second) :
    exists first, firstCall = .ok first ∧ Related first second := by
  cases alike with
  | failed _ => cases done
  | returned related =>
      cases done
      exact ⟨_, rfl, related⟩

/-- Calls that go on alike end alike. -/
theorem bind {FirstResult SecondResult : Type v} {Result : FirstResult -> SecondResult -> Prop}
    {firstRest : First -> Except Error FirstResult} {secondRest : Second -> Except Error SecondResult}
    (alike : Alike Related firstCall secondCall)
    (rest : forall {first second}, Related first second -> Alike Result (firstRest first) (secondRest second)) :
    Alike Result (firstCall >>= firstRest) (secondCall >>= secondRest) := by
  cases alike with
  | failed failure => exact .failed failure
  | returned related => exact rest related

/-- Loops over the same labels end alike when their rounds do. -/
theorem foldlM {firstRound : First -> Label -> Except Error First} {secondRound : Second -> Label -> Except Error Second}
    (round : forall {first second} label, Related first second ->
      Alike Related (firstRound first label) (secondRound second label))
    (labels : List Label) {first : First} {second : Second} (related : Related first second) :
    Alike Related (labels.foldlM firstRound first) (labels.foldlM secondRound second) := by
  induction labels generalizing first second with
  | nil => exact .returned related
  | cons label labels ih =>
      rw [List.foldlM_cons, List.foldlM_cons]
      exact (round label related).bind ih

end Alike

/-- A system whose every step is matched by a run of another one, in a relation that
may speak of both histories, is matched by it over whole runs. -/
theorem Run.simulated {State : Type u} {Label : Type v} {Other : Type u} {OtherLabel : Type v}
    {step : State -> Label -> State -> Prop} {matching : Other -> OtherLabel -> Other -> Prop}
    {start final : State} {origin : Other} {labels : List Label}
    (Related : List Label -> State -> List OtherLabel -> Other -> Prop) (initial : Related [] start [] origin)
    (keeps : forall labels before label after others other, Related labels before others other ->
      step before label after -> exists more next, Run matching other more next ∧
        Related (labels ++ [label]) after (others ++ more) next)
    (run : Run step start labels final) :
    exists others other, Run matching origin others other ∧ Related labels final others other := by
  induction run with
  | nil => exact ⟨[], origin, .nil, initial⟩
  | snoc _ stepped ih =>
      rcases ih with ⟨others, other, matched, related⟩
      rcases keeps _ _ _ _ _ _ related stepped with ⟨more, next, further, kept⟩
      exact ⟨others ++ more, next, matched.append further, kept⟩

end Foundation
