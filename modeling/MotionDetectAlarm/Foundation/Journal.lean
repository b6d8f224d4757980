import Mathlib.Data.List.Basic

namespace Foundation

universe u v w

/-!
# Journals

A journal is written block by block, one block for each item that is handled.
Which blocks an item may have depends on what has been written before it, as it
does when the entries are calls of another party and the answers to them decide
which call comes next.

An entry of a journal is found in the block of one item, behind a journal of the
items before it.  What holds of a view on every block holds of the view on the
whole journal.
-/

/-- The journals in which every block is allowed by what stands before it. -/
inductive Journal {Item : Type u} {Entry : Type v} (Allowed : List Entry -> Item -> List Entry -> Prop) :
    List Item -> List Entry -> Prop
  | nil : Journal Allowed [] []
  | snoc {items : List Item} {entries block : List Entry} {item : Item} :
      Journal Allowed items entries -> Allowed entries item block ->
      Journal Allowed (items ++ [item]) (entries ++ block)

namespace Journal

variable {Item : Type u} {Entry : Type v} {Allowed : List Entry -> Item -> List Entry -> Prop} {items : List Item}
  {entries : List Entry}

/-- An entry stands in the block of an item. -/
theorem locate (journal : Journal Allowed items entries) {front back : List Entry} {entry : Entry}
    (whole : entries = front ++ entry :: back) :
    exists before item block part rest,
      Allowed before item block ∧ block = part ++ entry :: rest ∧ front = before ++ part := by
  induction journal generalizing back with
  | nil => exact absurd (List.append_eq_nil_iff.mp whole.symm).2 (List.cons_ne_nil _ _)
  | @snoc items entries block item _ allowed ih =>
      rcases List.append_eq_append_iff.mp whole with ⟨part, cut, rest⟩ | ⟨part, cut, rest⟩
      · exact ⟨entries, item, block, part, back, allowed, rest, cut⟩
      · cases part with
        | nil =>
            rw [List.append_nil] at cut
            exact ⟨entries, item, block, [], back, allowed, rest.symm, by rw [cut, List.append_nil]⟩
        | cons first part =>
            rw [List.cons_append, List.cons.injEq] at rest
            rw [← rest.1] at cut
            exact ih cut

/-- A view that shows one thing of every block shows the items of the journal. -/
theorem filterMap_eq {Shown : Type w} {view : Entry -> Option Shown} {show_item : Item -> Shown}
    (once : forall {entries item block}, Allowed entries item block -> block.filterMap view = [show_item item])
    (journal : Journal Allowed items entries) : entries.filterMap view = items.map show_item := by
  induction journal with
  | nil => rfl
  | snoc _ allowed ih => rw [List.filterMap_append, ih, once allowed, List.map_append, List.map_singleton]

end Journal

/-- An entry that does not stand further in front stands at the end. -/
theorem eq_of_append_last {Entry : Type v} {front part rest : List Entry} {last entry : Entry}
    (whole : front ++ [last] = part ++ entry :: rest) (fresh : entry ∉ front) : part = front ∧ entry = last := by
  rcases List.append_eq_append_iff.mp whole with ⟨between, cut, single⟩ | ⟨between, cut, single⟩
  · cases between with
    | nil =>
        rw [List.append_nil] at cut
        exact ⟨cut, (List.cons.inj single).1.symm⟩
    | cons first between => simp at single
  · cases between with
    | nil =>
        rw [List.append_nil] at cut
        exact ⟨cut.symm, (List.cons.inj single).1⟩
    | cons first between =>
        rw [List.cons_append, List.cons.injEq] at single
        rw [cut, ← single.1] at fresh
        exact absurd (List.mem_append_right _ List.mem_cons_self) fresh

end Foundation
