import Mathlib.Data.List.Basic
import Mathlib.Data.List.TakeWhile

namespace Foundation

universe u

/-!
# Texts with a separator

A list of entries is written as one text by putting a separator between them.
The text tells the entries apart when none of them holds the separator, and
every text is written so in exactly one way.  `Entries` says this as a relation
between the text and its entries; a reader that cuts a text at its separators
meets it, and whatever meets it is what such a reader gives.
-/

section Separated

variable {Item : Type u} {separator : Item}

/-- The entries that a text is written from. -/
structure Entries (separator : Item) (text : List Item) (entries : List (List Item)) : Prop where
  some_entry : entries ≠ []
  clean : forall entry, entry ∈ entries -> separator ∉ entry
  joined : [separator].intercalate entries = text

variable [DecidableEq Item]

/-- No piece of a cut text holds the separator. -/
theorem not_mem_of_mem_splitOn {text entry : List Item} (member : entry ∈ text.splitOn separator) :
    separator ∉ entry := by
  induction text generalizing entry with
  | nil =>
      rw [List.splitOn_nil, List.mem_singleton] at member
      exact member ▸ List.not_mem_nil
  | cons item rest ih =>
      rw [List.splitOn_cons_eq_if_modifyHead] at member
      split at member
      · rcases List.mem_cons.mp member with first | later
        · exact first ▸ List.not_mem_nil
        · exact ih later
      · rename_i other
        rcases List.exists_cons_of_ne_nil (List.splitOn_ne_nil separator rest) with ⟨head, tail, pieces⟩
        rw [pieces, List.modifyHead_cons] at member
        rcases List.mem_cons.mp member with first | later
        · have clean := ih (pieces ▸ List.mem_cons_self)
          rw [first, List.mem_cons, not_or]
          exact ⟨fun same => other (beq_iff_eq.mpr same.symm), clean⟩
        · exact ih (pieces ▸ List.mem_cons_of_mem _ later)

/-- The search for a separator stops at one. -/
theorem eq_of_dropWhile_ne {item : Item} {text rest : List Item}
    (found : text.dropWhile (fun item => item ≠ separator) = item :: rest) : item = separator := by
  have head := List.head?_dropWhile_not (fun item => decide (item ≠ separator)) text
  rw [found] at head
  simpa using head

theorem takeWhile_ne_eq_self {text : List Item} (clean : separator ∉ text) :
    text.takeWhile (fun item => item ≠ separator) = text := by
  apply List.takeWhile_eq_self_iff.mpr
  intro item member
  exact decide_eq_true (fun same => clean (same ▸ member))

/-- What stands behind a separator does not matter before it. -/
theorem takeWhile_ne_append_cons (front back : List Item) :
    (front ++ separator :: back).takeWhile (fun item => item ≠ separator) =
      front.takeWhile (fun item => item ≠ separator) := by
  induction front with
  | nil => simp
  | cons item front ih => rw [List.cons_append, List.takeWhile_cons, List.takeWhile_cons, ih]

/-- The first piece ends at the first separator, and the others are the pieces
of what follows it. -/
theorem splitOn_eq_takeWhile_cons (text : List Item) :
    text.splitOn separator = text.takeWhile (fun item => item ≠ separator) ::
      match text.dropWhile (fun item => item ≠ separator) with
      | [] => []
      | _ :: rest => rest.splitOn separator := by
  have clean : separator ∉ text.takeWhile (fun item => item ≠ separator) := by
    intro member
    have passed := List.all_eq_true.mp List.all_takeWhile separator member
    simp at passed
  have whole : text.takeWhile (fun item => item ≠ separator) ++ text.dropWhile (fun item => item ≠ separator) = text :=
    List.takeWhile_append_dropWhile
  cases found : text.dropWhile (fun item => item ≠ separator) with
  | nil =>
      rw [found, List.append_nil] at whole
      rw [whole] at clean ⊢
      exact List.splitOn_eq_singleton clean
  | cons item rest =>
      rw [found, eq_of_dropWhile_ne found] at whole
      calc
        text.splitOn separator
            = (text.takeWhile (fun item => item ≠ separator) ++ separator :: rest).splitOn separator := by rw [whole]
        _ = _ := List.splitOn_append_cons_self_of_not_mem clean rest

omit [DecidableEq Item] in
/-- An item that is neither the separator nor in an entry is not in the text. -/
theorem not_mem_intercalate {item : Item} (other : item ≠ separator) {entries : List (List Item)}
    (absent : forall entry, entry ∈ entries -> item ∉ entry) : item ∉ [separator].intercalate entries := by
  induction entries with
  | nil => exact List.not_mem_nil
  | cons first rest ih =>
      have here := absent first List.mem_cons_self
      have later := ih (fun entry member => absent entry (List.mem_cons_of_mem _ member))
      cases rest with
      | nil => rwa [List.intercalate_singleton]
      | cons second rest =>
          rw [List.intercalate_cons_cons, List.mem_append, List.mem_append, List.mem_singleton, not_or, not_or]
          exact ⟨⟨here, other⟩, later⟩

theorem splitOn_length (text : List Item) : (text.splitOn separator).length = text.count separator + 1 := by
  induction text with
  | nil => rfl
  | cons item rest ih =>
      rw [List.splitOn_cons_eq_if_modifyHead, List.count_cons]
      split
      · rw [List.length_cons, ih]
      · rw [List.length_modifyHead, ih, Nat.add_zero]

namespace Entries

variable {text : List Item} {entries others : List (List Item)}

/-- The pieces of a cut text are its entries. -/
theorem of_splitOn (text : List Item) : Entries separator text (text.splitOn separator) where
  some_entry := List.splitOn_ne_nil separator text
  clean := fun _ member => not_mem_of_mem_splitOn member
  joined := List.intercalate_splitOn separator

theorem splitOn_eq (written : Entries separator text entries) : text.splitOn separator = entries := by
  rw [← written.joined, List.splitOn_intercalate separator written.clean written.some_entry]

/-- A text is written from one list of entries only. -/
theorem unique (written : Entries separator text entries) (again : Entries separator text others) :
    entries = others :=
  written.splitOn_eq.symm.trans again.splitOn_eq

/-- There is one entry more than there are separators. -/
theorem length (written : Entries separator text entries) : entries.length = text.count separator + 1 := by
  rw [← written.splitOn_eq, splitOn_length]

end Entries

end Separated

end Foundation
