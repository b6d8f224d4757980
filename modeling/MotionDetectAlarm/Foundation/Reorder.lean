import Mathlib.Data.List.Induction
import Mathlib.Data.List.Perm.Basic
import Mathlib.Tactic.Common

namespace Foundation

universe u v

/-!
# Reading by name from reordered columns

A record may be kept as a list of values beside a list of names.  Where a name
occurs once, reading by that name is membership of the pair, and membership
does not depend on the order.  `reorder` puts a list into another order of its
positions; names and values that are reordered together give the same pairs.
-/

section Lookup

variable {Key : Type u} {Value : Type v} [BEq Key] [LawfulBEq Key]

/-- Under a name that occurs once stands the value that is paired with it. -/
theorem lookup_eq_some_iff_mem {pairs : List (Key × Value)} {key : Key} {value : Value}
    (once : (pairs.map Prod.fst).count key = 1) : pairs.lookup key = some value ↔ (key, value) ∈ pairs := by
  induction pairs with
  | nil => cases once
  | cons pair rest ih =>
      rcases pair with ⟨name, content⟩
      by_cases same : name = key
      · subst same
        have elsewhere : name ∉ rest.map Prod.fst := by
          rw [List.map_cons, List.count_cons_self] at once
          exact List.count_eq_zero.mp (Nat.succ_inj.mp once)
        have absent : (name, value) ∉ rest := fun member => elsewhere (List.mem_map_of_mem member)
        simp [List.lookup_cons_self, absent, eq_comm]
      · have later : (rest.map Prod.fst).count key = 1 := by
          rwa [List.map_cons, List.count_cons_of_ne same] at once
        have different : (key == name) = false := beq_false_of_ne (Ne.symm same)
        simp only [List.lookup_cons, different, ih later, List.mem_cons, Prod.mk.injEq, Ne.symm same, false_and,
          false_or]

/-- Reading by a name that occurs once does not depend on the order. -/
theorem lookup_eq_of_perm {left right : List (Key × Value)} (same : left.Perm right) {key : Key}
    (once : (left.map Prod.fst).count key = 1) : left.lookup key = right.lookup key := by
  have onceRight : (right.map Prod.fst).count key = 1 := by
    rw [← (same.map Prod.fst).count_eq]
    exact once
  apply Option.ext
  intro value
  rw [lookup_eq_some_iff_mem once, lookup_eq_some_iff_mem onceRight, same.mem_iff]

/-- Read from the back, a name gives the value at its last position. -/
theorem lookup_reverse_zip {names : List Key} {values : List Value} {key : Key} {k : Nat}
    (wide : values.length = names.length) (named : names[k]? = some key) (last : key ∉ names.drop (k + 1)) :
    (names.zip values).reverse.lookup key = values[k]? := by
  rcases List.getElem?_eq_some_iff.mp named with ⟨inNames, at_k⟩
  have inValues : k < values.length := wide ▸ inNames
  have inPairs : k < (names.zip values).length := by
    rw [List.length_zip]
    omega
  have pair : (names.zip values)[k] = (key, values[k]) := by
    rw [List.getElem_zip, at_k]
  rw [List.getElem?_eq_getElem inValues, List.lookup_eq_some_iff]
  refine ⟨((names.zip values).drop (k + 1)).reverse, ((names.zip values).take k).reverse, ?_, ?_⟩
  · calc
      (names.zip values).reverse
          = ((names.zip values).take k ++ (names.zip values)[k] :: (names.zip values).drop (k + 1)).reverse := by
            rw [← List.drop_eq_getElem_cons inPairs, List.take_append_drop]
      _ = ((names.zip values).drop (k + 1)).reverse ++ (key, values[k]) :: ((names.zip values).take k).reverse := by
            rw [List.reverse_append, List.reverse_cons, List.append_assoc, List.singleton_append, pair]
  · intro other member
    rw [List.mem_reverse, List.zip, List.drop_zipWith] at member
    have named_later : other.1 ∈ names.drop (k + 1) := (List.of_mem_zip member).1
    have different : key ≠ other.1 := fun same => last (same ▸ named_later)
    simpa using different

theorem lookup_zip_eq_none {names : List Key} {values : List Value} {key : Key} (absent : key ∉ names) :
    (names.zip values).reverse.lookup key = none := by
  rw [List.lookup_eq_none_iff]
  intro other member
  rw [List.mem_reverse] at member
  have different : key ≠ other.1 := fun same => absent (same ▸ (List.of_mem_zip member).1)
  simpa using different

end Lookup

/-- A value is found where it was before all values were mapped. -/
theorem lookup_map_snd {Key : Type u} {Value Image : Type v} [DecidableEq Key] (view : Value -> Image) (key : Key)
    (pairs : List (Key × Value)) : (pairs.map (Prod.map id view)).lookup key = (pairs.lookup key).map view := by
  induction pairs with
  | nil => rfl
  | cons pair rest ih =>
      rw [List.map_cons, List.lookup_cons, List.lookup_cons, ih]
      change (match key == pair.1 with | true => some (view pair.2) | false => (rest.lookup key).map view) = _
      cases key == pair.1 <;> rfl

/-- A loop that acts on the entry under a name, over entries with different
names, acts once on the value that is found there. -/
theorem foldl_lookup {Key : Type u} {Value State : Type v} [DecidableEq Key] (act : Value -> State -> State) (key : Key)
    (entries : List (Key × Value)) (different : (entries.map Prod.fst).Nodup) (state : State) :
    entries.foldl (fun state entry => if key = entry.1 then act entry.2 state else state) state =
      (entries.lookup key).elim state (fun value => act value state) := by
  induction entries generalizing state with
  | nil => rfl
  | cons entry rest ih =>
      rw [List.map_cons, List.nodup_cons] at different
      rw [List.foldl_cons, ih different.2, List.lookup_cons]
      by_cases named : key = entry.1
      · have absent : rest.lookup key = none := by
          rw [List.lookup_eq_none_iff]
          intro other member
          rw [bne_iff_ne, named]
          exact fun same => different.1 (same ▸ List.mem_map_of_mem member)
        rw [absent, if_pos named, named, beq_self_eq_true]
        rfl
      · rw [if_neg named, beq_false_of_ne named]

section Reorder

variable {Item : Type u} {Other : Type v}

/-- The items at these positions. -/
def reorder (order : List Nat) (items : List Item) : List Item :=
  order.filterMap (fun position => items[position]?)

theorem map_reorder (view : Item -> Other) (order : List Nat) (items : List Item) :
    (reorder order items).map view = reorder order (items.map view) := by
  simp only [reorder, List.map_filterMap, List.getElem?_map]

theorem reorder_range (items : List Item) : reorder (List.range items.length) items = items := by
  induction items using List.reverseRecOn with
  | nil => rfl
  | append_singleton items last ih =>
      have front : (List.range items.length).filterMap (fun position => (items ++ [last])[position]?) =
          reorder (List.range items.length) items := by
        apply List.filterMap_congr
        intro position member
        exact List.getElem?_append_left (List.mem_range.mp member)
      rw [reorder, List.length_append, List.length_singleton, List.range_succ, List.filterMap_append, front, ih]
      simp

/-- All positions in another order give all items in another order. -/
theorem reorder_perm {order : List Nat} {items : List Item} (all : order.Perm (List.range items.length)) :
    (reorder order items).Perm items := by
  have moved : (reorder order items).Perm (reorder (List.range items.length) items) := all.filterMap _
  rwa [reorder_range] at moved

/-- Names and values that are reordered together stay paired. -/
theorem zip_reorder {order : List Nat} {items : List Item} {others : List Other}
    (wide : others.length = items.length) (inside : forall position, position ∈ order -> position < items.length) :
    (reorder order items).zip (reorder order others) = reorder order (items.zip others) := by
  induction order with
  | nil => rfl
  | cons position rest ih =>
      have here := inside position List.mem_cons_self
      have hereOther : position < others.length := wide ▸ here
      have herePair : position < (items.zip others).length := by
        rw [List.length_zip]
        omega
      have later := ih (fun other member => inside other (List.mem_cons_of_mem _ member))
      simp only [reorder] at later ⊢
      rw [List.filterMap_cons_some (List.getElem?_eq_getElem here),
        List.filterMap_cons_some (List.getElem?_eq_getElem hereOther),
        List.filterMap_cons_some (List.getElem?_eq_getElem herePair), List.zip_cons_cons, later, List.getElem_zip]

end Reorder

end Foundation
