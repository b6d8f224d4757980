import Mathlib.Algebra.Order.Ring.Nat
import Mathlib.Data.List.DropRight
import MotionDetectAlarm.Foundation.TransitionSystem

namespace Foundation

universe u

/-!
# Lines of a stream

A reader collects a stream in a buffer of bounded capacity and hands it out
line by line, each line with its terminator.  What such a reader is for is said
by a run of calls on the pending items alone: a call appends what arrives
during it and takes the first line off, if there is one.  Nothing is lost,
repeated or reordered in such a run, and no line is longer than the capacity.

The price of the bounded capacity is that a line may not fit.  Pending items
that fill the buffer without a terminator leave no room for one to arrive, and
the reader never returns a line again.

An implementation keeps the pending items in an array that it writes into.
`overlay` is such a write, and its rules say what is read back.
-/

section Overlay

variable {Item : Type u} {items written : List Item} {offset : Nat}

/-- The list with some items written over it, from an offset on. -/
def overlay (items : List Item) (offset : Nat) (written : List Item) : List Item :=
  items.take offset ++ written ++ items.drop (offset + written.length)

theorem overlay_length (room : offset + written.length ≤ items.length) :
    (overlay items offset written).length = items.length := by
  simp only [overlay, List.length_append, List.length_take, List.length_drop]
  omega

/-- Up to its end a write shows what was before it and what it wrote. -/
theorem overlay_take (room : offset ≤ items.length) (written : List Item) :
    (overlay items offset written).take (offset + written.length) = items.take offset ++ written := by
  have size : (items.take offset ++ written).length = offset + written.length := by
    rw [List.length_append, List.length_take, Nat.min_eq_left room]
  rw [overlay, ← size, List.take_left]

/-- Before its offset a write changes nothing. -/
theorem overlay_take_before (room : offset ≤ items.length) :
    (overlay items offset written).take offset = items.take offset := by
  have size : (items.take offset).length = offset := by
    rw [List.length_take, Nat.min_eq_left room]
  rw [overlay, List.append_assoc, List.take_left' size]

/-- Behind its end a write changes nothing. -/
theorem overlay_drop {position : Nat} (room : offset ≤ items.length) (behind : offset + written.length ≤ position) :
    (overlay items offset written).drop position = items.drop position := by
  have size : (items.take offset ++ written).length = offset + written.length := by
    rw [List.length_append, List.length_take, Nat.min_eq_left room]
  rcases Nat.exists_eq_add_of_le behind with ⟨further, rfl⟩
  rw [overlay, ← List.drop_drop, List.drop_left' size, List.drop_drop]

end Overlay

section Lines

variable {Item : Type u}

/-- A line: its terminator stands at its end and nowhere else. -/
def IsLine (terminator : Item) (line : List Item) : Prop :=
  exists body, line = body ++ [terminator] ∧ terminator ∉ body

variable [DecidableEq Item]

/-- The first line of a stream and what follows it. -/
def firstLine (terminator : Item) : List Item -> Option (List Item × List Item)
  | [] => none
  | item :: rest =>
      if item = terminator then some ([item], rest)
      else (firstLine terminator rest).map (fun cut => (item :: cut.1, cut.2))

/-- The items behind the last terminator of a stream. -/
def unfinished (terminator : Item) (stream : List Item) : List Item :=
  stream.rtakeWhile (fun item => item ≠ terminator)

variable {terminator : Item} {stream line rest : List Item}

theorem firstLine_some (found : firstLine terminator stream = some (line, rest)) :
    stream = line ++ rest ∧ IsLine terminator line := by
  induction stream generalizing line rest with
  | nil => cases found
  | cons item stream ih =>
      rw [firstLine] at found
      split at found
      · rename_i last
        cases found
        exact ⟨rfl, [], by rw [last]; rfl, List.not_mem_nil⟩
      · rename_i other
        rcases Option.map_eq_some_iff.mp found with ⟨⟨tail, later⟩, inner, same⟩
        cases same
        rcases ih inner with ⟨whole, body, ends, clean⟩
        refine ⟨by rw [whole]; rfl, item :: body, by rw [ends]; rfl, ?_⟩
        exact fun member => (List.mem_cons.mp member).elim (fun same => other same.symm) clean

theorem firstLine_none : firstLine terminator stream = none ↔ terminator ∉ stream := by
  induction stream with
  | nil => simp [firstLine]
  | cons item stream ih =>
      rw [firstLine]
      split
      · rename_i last
        simp [last]
      · rename_i other
        simp [ih, Ne.symm other]

theorem unfinished_append_clean {front back : List Item} (clean : terminator ∉ back) :
    unfinished terminator (front ++ back) = unfinished terminator front ++ back := by
  induction back using List.reverseRecOn with
  | nil => simp
  | append_singleton back item ih =>
      rw [List.mem_append, List.mem_singleton, not_or] at clean
      rw [← List.append_assoc, unfinished, List.rtakeWhile_concat, if_pos (by simpa using Ne.symm clean.2),
        ← unfinished, ih clean.1, List.append_assoc]

theorem unfinished_concat_terminator (front : List Item) : unfinished terminator (front ++ [terminator]) = [] := by
  rw [unfinished, List.rtakeWhile_concat, if_neg (by simp)]

/-- Lines leave nothing unfinished. -/
theorem unfinished_lines {lines : List (List Item)} (all : forall line, line ∈ lines -> IsLine terminator line) :
    unfinished terminator lines.flatten = [] := by
  cases lines using List.reverseRecOn with
  | nil => rfl
  | append_singleton lines line =>
      rcases all line (List.mem_append_right _ (List.mem_singleton_self _)) with ⟨body, ends, -⟩
      rw [List.flatten_append, List.flatten_singleton, ends, ← List.append_assoc, unfinished_concat_terminator]

/-- What stands behind the last terminator of a stream with one is shorter than
the stream. -/
theorem unfinished_length_lt (front : List Item) {back : List Item} (present : terminator ∈ back) :
    (unfinished terminator (front ++ back)).length < back.length := by
  induction back using List.reverseRecOn with
  | nil => cases present
  | append_singleton back item ih =>
      rw [← List.append_assoc, unfinished, List.rtakeWhile_concat]
      split
      · rename_i other
        have earlier : terminator ∈ back := by
          rcases List.mem_append.mp present with inside | last
          · exact inside
          · exact absurd (List.mem_singleton.mp last).symm (by simpa using other)
        rw [List.length_append, List.length_append]
        exact Nat.add_lt_add_right (ih earlier) _
      · rw [List.length_append]
        exact Nat.succ_pos _

end Lines

/-- One call of a line reader as its caller sees it: what arrived during it and
the line that it returned. -/
structure LineCall (Item : Type u) where
  arrived : List Item
  returned : Option (List Item)

namespace LineCall

variable {Item : Type u} [DecidableEq Item]

/-- A call appends what arrives to what is pending and takes the first line
off. -/
def step (terminator : Item) (capacity : Nat) (pending : List Item) (call : LineCall Item)
    (next : List Item) : Prop :=
  (pending ++ call.arrived).length ≤ capacity ∧
    match firstLine terminator (pending ++ call.arrived) with
    | some (line, rest) => call.returned = some line ∧ next = rest
    | none => call.returned = none ∧ next = pending ++ call.arrived

/-- Everything that arrived. -/
def received (calls : List (LineCall Item)) : List Item :=
  calls.flatMap LineCall.arrived

/-- The lines that were returned. -/
def lines (calls : List (LineCall Item)) : List (List Item) :=
  calls.filterMap LineCall.returned

variable {terminator : Item} {capacity : Nat} {calls : List (LineCall Item)} {call : LineCall Item}
  {pending next : List Item}

theorem step_cases (stepped : step terminator capacity pending call next) :
    (exists line, call.returned = some line ∧ IsLine terminator line ∧ pending ++ call.arrived = line ++ next) ∨
      (call.returned = none ∧ next = pending ++ call.arrived) := by
  rcases stepped with ⟨-, outcome⟩
  split at outcome
  · rename_i line rest found
    rcases firstLine_some found with ⟨whole, one⟩
    exact Or.inl ⟨line, outcome.1, one, outcome.2 ▸ whole⟩
  · exact Or.inr outcome

/-- With a terminator among the pending and the arriving items a line is
returned. -/
theorem step_returns (present : terminator ∈ pending ++ call.arrived)
    (stepped : step terminator capacity pending call next) : exists line, call.returned = some line := by
  rcases stepped with ⟨-, outcome⟩
  split at outcome
  · exact ⟨_, outcome.1⟩
  · rename_i none_there
    exact absurd present (firstLine_none.mp none_there)

/-- Returned lines and pending items together are what arrived, in order. -/
theorem conservation (run : Run (step terminator capacity) [] calls pending) :
    (lines calls).flatten ++ pending = received calls ∧ pending.length ≤ capacity ∧
      forall line, line ∈ lines calls -> IsLine terminator line ∧ line.length ≤ capacity := by
  refine run.invariant_history
    (fun calls pending => (lines calls).flatten ++ pending = received calls ∧ pending.length ≤ capacity ∧
      forall line, line ∈ lines calls -> IsLine terminator line ∧ line.length ≤ capacity)
    ⟨rfl, Nat.zero_le _, fun _ member => absurd member List.not_mem_nil⟩ ?_
  rintro calls before call after ⟨same, -, all⟩ stepped
  have bounded := stepped.1
  have arrives : received (calls ++ [call]) = received calls ++ call.arrived := by
    rw [received, List.flatMap_append, List.flatMap_singleton, received]
  have returns : lines (calls ++ [call]) = lines calls ++ call.returned.toList := by
    rw [lines, List.filterMap_append]
    cases out : call.returned <;> simp [lines, out]
  rw [arrives, returns, ← same]
  rcases step_cases stepped with ⟨line, out, one, cut⟩ | ⟨out, kept⟩
  · rw [cut, List.length_append] at bounded
    rw [out, Option.toList_some]
    refine ⟨?_, Nat.le_trans (Nat.le_add_left _ _) bounded, ?_⟩
    · rw [List.flatten_append, List.flatten_singleton, List.append_assoc, ← cut, List.append_assoc]
    · intro other member
      rcases List.mem_append.mp member with earlier | new
      · exact all other earlier
      · cases List.mem_singleton.mp new
        exact ⟨one, Nat.le_trans (Nat.le_add_right _ _) bounded⟩
  · rw [out, Option.toList_none, List.append_nil, kept]
    exact ⟨(List.append_assoc _ _ _).symm, bounded, all⟩

/-- A full buffer without a terminator stays as it is, and nothing is
returned. -/
theorem full_stuck (full : pending.length = capacity) (clean : terminator ∉ pending)
    (stepped : step terminator capacity pending call next) : call.returned = none ∧ next = pending := by
  have nothing : call.arrived = [] := by
    have bounded := stepped.1
    rw [List.length_append] at bounded
    exact List.length_eq_zero_iff.mp (by omega)
  rcases stepped with ⟨-, outcome⟩
  rw [nothing, List.append_nil, firstLine_none.mpr clean] at outcome
  exact outcome

/-- The buffer is full without a terminator exactly when as many items have
come behind the last terminator as it holds. -/
theorem full_iff (run : Run (step terminator capacity) [] calls pending) :
    (unfinished terminator (received calls)).length < capacity ↔
      ¬ (pending.length = capacity ∧ terminator ∉ pending) := by
  rcases conservation run with ⟨same, bounded, all⟩
  rw [← same]
  by_cases present : terminator ∈ pending
  · have short := unfinished_length_lt (lines calls).flatten present
    exact iff_of_true (Nat.lt_of_lt_of_le short bounded) (fun full => full.2 present)
  · rw [unfinished_append_clean present, unfinished_lines (fun line member => (all line member).1), List.nil_append]
    constructor
    · exact fun short full => Nat.ne_of_lt short full.1
    · exact fun room => Nat.lt_of_le_of_ne bounded (fun full => room ⟨full, present⟩)

end LineCall

end Foundation
