import Mathlib.Data.List.Basic
import Mathlib.Logic.Function.Basic

namespace Foundation

universe u

/-!
# Parts of an array

An array whose bounds are no question is a function of the position.  `slice`
shows a part of it as a list, and the rules say what a part shows after items
have been stored in the array or copied within it.
-/

section Slice

variable {Item : Type u} {array other : Nat -> Item} {first middle last : Nat}

/-- The items from a position up to another. -/
def slice (array : Nat -> Item) (first last : Nat) : List Item :=
  (List.range' first (last - first)).map array

/-- The array with some items stored from a position on. -/
def store (array : Nat -> Item) (offset : Nat) (items : List Item) : Nat -> Item :=
  fun i => if offset ≤ i then items[i - offset]?.getD (array i) else array i

/-- The array with some of its items copied from one position to another. -/
def copy (array : Nat -> Item) (target source number : Nat) : Nat -> Item :=
  fun i => if target ≤ i ∧ i < target + number then array (source + (i - target)) else array i

@[simp] theorem slice_length : (slice array first last).length = last - first := by
  simp [slice]

theorem slice_self : slice array first first = [] := by
  simp [slice]

theorem slice_getElem? {k : Nat} (inside : first + k < last) : (slice array first last)[k]? = some (array (first + k)) := by
  have inRange : k < last - first := by omega
  rw [slice, List.getElem?_map, List.getElem?_range' inRange, Nat.one_mul]
  rfl

/-- Parts that show the same items are equal, wherever they stand. -/
theorem slice_ext {otherFirst otherLast : Nat} (size : last - first = otherLast - otherFirst)
    (same : forall k, first + k < last -> array (first + k) = other (otherFirst + k)) :
    slice array first last = slice other otherFirst otherLast := by
  apply List.ext_getElem?
  intro k
  rcases Nat.lt_or_ge k (last - first) with inside | past
  · rw [slice_getElem? (by omega), slice_getElem? (by omega), same k (by omega)]
  · rw [List.getElem?_eq_none (by rw [slice_length]; exact past),
      List.getElem?_eq_none (by rw [slice_length]; omega)]

theorem slice_congr (same : forall i, first ≤ i -> i < last -> array i = other i) :
    slice array first last = slice other first last :=
  slice_ext rfl (fun _ inside => same _ (Nat.le_add_right _ _) inside)

theorem slice_append (ordered : first ≤ middle) (ordered_last : middle ≤ last) :
    slice array first middle ++ slice array middle last = slice array first last := by
  have start : middle = first + 1 * (middle - first) := by omega
  have size : last - first = (middle - first) + (last - middle) := by omega
  rw [slice, slice, slice, size, ← List.range'_append, ← start, List.map_append]

theorem slice_succ (ordered : first ≤ last) : slice array first (last + 1) = slice array first last ++ [array last] := by
  rw [← slice_append ordered (Nat.le_succ last)]
  simp [slice]

theorem slice_cons (below : first < last) : slice array first last = array first :: slice array (first + 1) last := by
  rw [← slice_append (Nat.le_succ first) below, slice_succ (Nat.le_refl first), slice_self, List.nil_append,
    List.singleton_append]

/-- A part without its first items is the part that starts behind them. -/
theorem slice_drop {number : Nat} (inside : first + number ≤ last) :
    (slice array first last).drop number = slice array (first + number) last := by
  have size : (slice array first (first + number)).length = number := by
    rw [slice_length, Nat.add_sub_cancel_left]
  rw [← slice_append (Nat.le_add_right first number) inside, List.drop_left' size]

theorem store_getElem? {items : List Item} {k : Nat} (inside : k < items.length) (offset : Nat) :
    items[k]? = some (store array offset items (offset + k)) := by
  rw [store, if_pos (Nat.le_add_right _ _), Nat.add_sub_cancel_left, List.getElem?_eq_getElem inside,
    Option.getD_some]

/-- What has been stored is shown where it was stored. -/
theorem slice_store (items : List Item) (offset : Nat) :
    slice (store array offset items) offset (offset + items.length) = items := by
  apply List.ext_getElem?
  intro k
  rcases Nat.lt_or_ge k items.length with inside | past
  · rw [slice_getElem? (by omega), ← store_getElem? inside]
  · rw [List.getElem?_eq_none (by rw [slice_length]; omega), List.getElem?_eq_none past]

/-- A copy shows the items that were copied. -/
theorem slice_copy {target source number : Nat} {k size : Nat} (inside : k + size ≤ number) :
    slice (copy array target source number) (target + k) (target + k + size) =
      slice array (source + k) (source + k + size) := by
  refine slice_ext (by omega) ?_
  intro i below
  have here : target ≤ target + k + i ∧ target + k + i < target + number := by omega
  rw [copy, if_pos here]
  congr 1
  omega

/-- Outside the stored items an array stays as it was. -/
theorem store_before {offset i : Nat} (before : i < offset) (items : List Item) :
    store array offset items i = array i :=
  if_neg (Nat.not_le.mpr before)

theorem copy_outside {target source number i : Nat} (outside : ¬ (target ≤ i ∧ i < target + number)) :
    copy array target source number i = array i :=
  if_neg outside

/-- A single item may be changed outside a part. -/
theorem slice_update {position : Nat} (outside : position < first ∨ last ≤ position) (item : Item) :
    slice (Function.update array position item) first last = slice array first last := by
  apply slice_congr
  intro i above below
  exact Function.update_of_ne (by omega) _ _

end Slice

end Foundation
