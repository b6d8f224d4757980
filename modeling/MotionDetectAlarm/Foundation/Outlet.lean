import Mathlib.Tactic.Common

namespace Foundation

universe u

/-!
# An outlet that can be emptied

Items are accepted at one end, wait, and are sent from the other end at any
time.  An operation exists that throws the waiting items away.  An outlet is
`Kept` when everything accepted has been sent or still waits, in order, and
`Short` when items are missing.  Every operation leads from a kept outlet to a
kept or a short one, and a short outlet stays short: what was thrown away does
not come back, so that a look at the final state tells whether anything was
ever lost.
-/

/-- The items sent, waiting, and accepted so far. -/
structure Outlet (Item : Type u) where
  sent : List Item
  waiting : List Item
  accepted : List Item

namespace Outlet

variable {Item : Type u}

def accept (outlet : Outlet Item) (items : List Item) : Outlet Item :=
  { outlet with waiting := outlet.waiting ++ items, accepted := outlet.accepted ++ items }

def send (outlet : Outlet Item) (number : Nat) : Outlet Item :=
  { outlet with
    sent := outlet.sent ++ outlet.waiting.take number
    waiting := outlet.waiting.drop number }

def discard (outlet : Outlet Item) : Outlet Item :=
  { outlet with waiting := [] }

/-- Everything accepted has been sent or waits, in order. -/
def Kept (outlet : Outlet Item) : Prop :=
  outlet.sent ++ outlet.waiting = outlet.accepted

/-- Fewer items are left than were accepted. -/
def Short (outlet : Outlet Item) : Prop :=
  outlet.sent.length + outlet.waiting.length < outlet.accepted.length

variable {outlet : Outlet Item}

theorem Kept.accept (kept : outlet.Kept) (items : List Item) : (outlet.accept items).Kept := by
  unfold Kept at kept ⊢
  simp only [Outlet.accept]
  rw [← List.append_assoc, kept]

theorem Kept.send (kept : outlet.Kept) (number : Nat) : (outlet.send number).Kept := by
  unfold Kept at kept ⊢
  simp only [Outlet.send]
  rw [List.append_assoc, List.take_append_drop, kept]

/-- Emptying an outlet in which nothing waits does no harm. -/
theorem Kept.discard (kept : outlet.Kept) (nothing : outlet.waiting = []) : outlet.discard.Kept := by
  unfold Kept at kept ⊢
  simp only [Outlet.discard]
  rw [← nothing]
  exact kept

/-- Emptying it with items waiting loses them. -/
theorem Kept.discard_short (kept : outlet.Kept) (some_waiting : outlet.waiting ≠ []) : outlet.discard.Short := by
  have positive := List.length_pos_iff.mpr some_waiting
  have length := congrArg List.length kept
  rw [List.length_append] at length
  change outlet.sent.length + 0 < outlet.accepted.length
  omega

theorem Short.accept (short : outlet.Short) (items : List Item) : (outlet.accept items).Short := by
  unfold Short at short ⊢
  simp only [Outlet.accept, List.length_append]
  omega

theorem Short.send (short : outlet.Short) (number : Nat) : (outlet.send number).Short := by
  unfold Short at short ⊢
  simp only [Outlet.send, List.length_append, List.length_take, List.length_drop]
  omega

theorem Short.discard (short : outlet.Short) : outlet.discard.Short := by
  unfold Short at short ⊢
  change outlet.sent.length + 0 < outlet.accepted.length
  omega

/-- A short outlet is not kept. -/
theorem Short.not_kept (short : outlet.Short) : ¬ outlet.Kept := by
  intro kept
  have length := congrArg List.length kept
  rw [List.length_append] at length
  unfold Short at short
  omega

end Outlet

end Foundation
