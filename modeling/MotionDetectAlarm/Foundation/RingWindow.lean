import Mathlib.Data.Nat.ModEq

namespace Foundation

universe u

/-!
# A log kept in a circular array

Let entry number `k` of an unbounded log be stored in slot `k % size` of an
array.  `Window slots log first` says that every entry from number `first` on
is still where it was put.  Counting entries from the beginning of the log,
instead of from a moving read index, leaves all wrapping to one fact: two
entries closer than `size` have different slots.
-/

/-- The entries of the log from number `first` on are in their slots. -/
def Window {Entry : Type u} {size : Nat} (slots : Vector Entry size) (log : List Entry)
    (first : Nat) : Prop :=
  forall k, first ≤ k -> k < log.length -> slots[k % size]? = log[k]?

/-- Two numbers closer than the size fall into different slots. -/
theorem slot_ne_of_lt {size k later : Nat} (before : k < later) (close : later < k + size) :
    later % size ≠ k % size := by
  intro same
  have divides : size ∣ later - k :=
    (Nat.modEq_iff_dvd' (Nat.le_of_lt before)).mp (Nat.ModEq.symm same)
  have small := Nat.le_of_dvd (by omega) divides
  omega

/-- The slot of a number less than the size further on: it has moved by the
distance, or has wrapped once. -/
theorem slot_of_near {size first k : Nat} (le : first ≤ k) (near : k < first + size) :
    k % size = first % size + (k - first) ∨
      k % size + size = first % size + (k - first) ∧ k % size < first % size := by
  have positive : 0 < size := by omega
  have inArray := Nat.mod_lt first positive
  have sum : k % size = (first % size + (k - first)) % size := by
    rw [Nat.mod_add_mod, Nat.add_sub_cancel' le]
  rcases Nat.lt_or_ge (first % size + (k - first)) size with inside | past
  · exact Or.inl (sum.trans (Nat.mod_eq_of_lt inside))
  · have wrapped : k % size = first % size + (k - first) - size := by
      rw [sum, Nat.mod_eq_sub_mod past]
      exact Nat.mod_eq_of_lt (by omega)
    omega

namespace Window

variable {Entry : Type u} {size : Nat} {slots : Vector Entry size} {log : List Entry} {first : Nat}

/-- An empty log is stored in any array. -/
theorem nil (slots : Vector Entry size) (first : Nat) : Window slots [] first := by
  intro k _ inLog
  exact absurd inLog (Nat.not_lt_zero k)

/-- Giving up entries at the old end keeps the rest. -/
theorem mono (window : Window slots log first) {later : Nat} (le : first ≤ later) :
    Window slots log later := by
  intro k reached inLog
  exact window k (Nat.le_trans le reached) inLog

/-- Writing the slot of the entry to come disturbs no entry while fewer than
`size` are kept. -/
theorem set_next (window : Window slots log first) (room : log.length < first + size)
    (value : Entry) {slot : Nat} (next : slot = log.length % size) (inArray : slot < size) :
    Window (slots.set slot value inArray) log first := by
  intro k reached inLog
  have different : slot ≠ k % size := by
    rw [next]
    exact slot_ne_of_lt inLog (by omega)
  rw [Vector.getElem?_set_ne inArray different]
  exact window k reached inLog

/-- Once its slot holds it, the next entry may be appended to the log. -/
theorem push (window : Window slots log first) {entry : Entry}
    (stored : slots[log.length % size]? = some entry) :
    Window slots (log ++ [entry]) first := by
  intro k reached inLog
  by_cases old : k < log.length
  · rw [List.getElem?_append_left old]
    exact window k reached old
  · have last : k = log.length := by
      simp only [List.length_append, List.length_singleton] at inLog
      omega
    rw [last, List.getElem?_concat_length]
    exact stored

/-- Write the next entry into its slot and append it to the log. -/
theorem store (window : Window slots log first) (room : log.length < first + size)
    (entry : Entry) {slot : Nat} (next : slot = log.length % size) (inArray : slot < size) :
    Window (slots.set slot entry inArray) (log ++ [entry]) first := by
  apply (window.set_next room entry next inArray).push
  rw [← next]
  exact Vector.getElem?_set_self inArray

end Window

end Foundation
