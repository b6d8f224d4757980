import MotionDetectAlarm.Foundation.Lines
import MotionDetectAlarm.Foundation.Separated

namespace Foundation

universe u v

/-!
# Records sent line by line

A sender that ends every record with a terminator, and writes no other, can be
cut off anywhere: the lines that have arrived in full are the first records, and
the rest is the start of the next one.

A reader takes a record apart by its constant parts.  `behind` is the step over
such a part.
-/

section Lines

variable {Item : Type u} [DecidableEq Item] {terminator : Item}

/-- The lines that have arrived in full, without their terminators. -/
def completeLines (terminator : Item) (stream : List Item) : List (List Item) :=
  (stream.splitOn terminator).dropLast

theorem completeLines_clean {stream : List Item} (clean : terminator ∉ stream) :
    completeLines terminator stream = [] := by
  rw [completeLines, List.splitOn_eq_singleton clean]
  rfl

theorem completeLines_cons {body : List Item} (clean : terminator ∉ body) (rest : List Item) :
    completeLines terminator (body ++ terminator :: rest) = body :: completeLines terminator rest := by
  rw [completeLines, List.splitOn_append_cons_self_of_not_mem clean,
    List.dropLast_cons_of_ne_nil (List.splitOn_ne_nil _ _), completeLines]

/-- What has arrived of a sequence of lines is a number of them in full and a
part of the next one. -/
theorem completeLines_of_prefix {lines : List (List Item)} {front : List Item}
    (all : forall line, line ∈ lines -> IsLine terminator line) (arrived : front <+: lines.flatten) :
    exists number, number ≤ lines.length ∧
      completeLines terminator front = (lines.take number).map List.dropLast ∧
      (front = lines.flatten -> number = lines.length) := by
  induction lines generalizing front with
  | nil =>
      rw [List.flatten_nil, List.prefix_nil] at arrived
      subst arrived
      exact ⟨0, Nat.le_refl 0, rfl, fun _ => rfl⟩
  | cons line lines ih =>
      rcases all line List.mem_cons_self with ⟨body, ends, clean⟩
      have later := fun other member => all other (List.mem_cons_of_mem line member)
      rcases arrived with ⟨missing, whole⟩
      rw [List.flatten_cons, ends, List.append_assoc] at whole
      rcases List.append_eq_append_iff.mp whole with ⟨gap, inside, -⟩ | ⟨more, outside, behind⟩
      · -- the arrived part ends inside the body of the line
        have unended : terminator ∉ front := fun member => clean (inside ▸ List.mem_append_left _ member)
        refine ⟨0, Nat.zero_le _, completeLines_clean unended, ?_⟩
        intro complete
        rw [complete, List.flatten_cons, ends] at unended
        exact absurd (List.mem_append_left _ (List.mem_append_right _ (List.mem_singleton_self _))) unended
      · cases more with
        | nil =>
            rw [List.append_nil] at outside
            refine ⟨0, Nat.zero_le _, completeLines_clean (outside ▸ clean), ?_⟩
            intro complete
            rw [outside, List.flatten_cons, ends, List.append_assoc] at complete
            exact absurd (congrArg List.length complete) (by simp)
        | cons item more =>
            rw [List.singleton_append, List.cons_append, List.cons.injEq] at behind
            rcases behind with ⟨same, remaining⟩
            subst same
            rcases ih later ⟨missing, remaining.symm⟩ with ⟨number, few, read, all_read⟩
            refine ⟨number + 1, Nat.succ_le_succ few, ?_, ?_⟩
            · rw [outside, completeLines_cons clean, read, ends, List.take_succ_cons, List.map_cons,
                List.dropLast_concat]
            · intro complete
              rw [outside, List.flatten_cons, ends, List.append_assoc] at complete
              have tail : more = lines.flatten := List.cons.inj (List.append_cancel_left complete) |>.2
              rw [all_read tail, List.length_cons]

end Lines

/-! ## Constant parts -/

section Parts

variable {Item : Type u} [DecidableEq Item]

/-- The text behind a constant part, if it starts with that part. -/
def behind (part text : List Item) : Option (List Item) :=
  if part.isPrefixOf text then some (text.drop part.length) else none

theorem behind_append (part rest : List Item) : behind part (part ++ rest) = some rest := by
  have found : part.isPrefixOf (part ++ rest) = true := List.isPrefixOf_iff_prefix.mpr (List.prefix_append _ _)
  rw [behind, if_pos found, List.drop_left]

end Parts

section Related

variable {Item : Type u} {Other : Type v} {Relation : Item -> Other -> Prop}

/-- Lists that are related element by element are so as far as the second is read. -/
theorem forall₂_read {items : List Item} {others : List Other} {Read : Type*} {read : Other -> Option Read}
    {Carries : Item -> Read -> Prop} (related : List.Forall₂ Relation items others)
    (reads : forall item other, Relation item other -> exists value, read other = some value ∧ Carries item value) :
    exists values, others.map read = values.map some ∧ List.Forall₂ Carries items values := by
  induction related with
  | nil => exact ⟨[], rfl, .nil⟩
  | cons here _ ih =>
      rcases reads _ _ here with ⟨value, value_read, carries⟩
      rcases ih with ⟨values, rest_read, later⟩
      exact ⟨value :: values, by rw [List.map_cons, value_read, rest_read, List.map_cons], .cons carries later⟩

end Related

end Foundation
