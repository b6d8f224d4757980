import Mathlib.Tactic.Common

namespace Foundation

/-!
# Flag words

A word of flags is changed by setting some bits and clearing others, and is
read under a mask.  A change is confined to a mask when it can be seen under
that mask only.  Setting and clearing bits of a mask are confined to it, and
confined changes follow one another, so a reader whose mask is apart from all of
them reads what was there before.
-/

section Flags

variable {word added cleared own mask : UInt32}

/-- Bits that lie in one mask are not read under another that is apart from it. -/
theorem outside_of_inside (inside : added &&& own = added) (apart : own &&& mask = 0) : added &&& mask = 0 := by
  rw [← inside, UInt32.and_assoc, apart, UInt32.and_zero]

theorem read_set (word added mask : UInt32) : (word ||| added) &&& mask = word &&& mask ||| added &&& mask :=
  UInt32.toBitVec_inj.mp BitVec.and_or_distrib_right

/-- Where nothing was set before, the set bits are read. -/
theorem read_set_inside (empty : word &&& mask = 0) (inside : added &&& mask = added) :
    (word ||| added) &&& mask = added := by
  rw [read_set, empty, inside, UInt32.zero_or]

/-- A mask of bits that are all set is read as such. -/
theorem read_set_all (word : UInt32) (all : added &&& mask = mask) : (word ||| added) &&& mask = mask := by
  rw [read_set, all]
  apply UInt32.toBitVec_inj.mp
  apply BitVec.eq_of_getElem_eq
  intro i bound
  simp only [UInt32.toBitVec_or, UInt32.toBitVec_and, BitVec.getElem_or, BitVec.getElem_and]
  cases word.toBitVec[i] <;> cases mask.toBitVec[i] <;> rfl

/-- Nothing is read where all bits are cleared. -/
theorem read_clear_inside (inside : mask &&& cleared = mask) : (word &&& ~~~cleared) &&& mask = 0 := by
  have apart : ~~~cleared &&& (mask &&& cleared) = 0 := by
    rw [UInt32.and_comm mask, ← UInt32.and_assoc, UInt32.not_and_self, UInt32.zero_and]
  rw [← inside, UInt32.and_assoc, apart, UInt32.and_zero]

/-- The two words are read alike under every mask apart from this one. -/
def Confined (own before after : UInt32) : Prop :=
  forall mask, own &&& mask = 0 -> after &&& mask = before &&& mask

namespace Confined

variable {first second third : UInt32}

theorem refl (own word : UInt32) : Confined own word word :=
  fun _ _ => rfl

theorem trans (earlier : Confined own first second) (later : Confined own second third) : Confined own first third :=
  fun mask apart => (later mask apart).trans (earlier mask apart)

theorem set (word : UInt32) (inside : added &&& own = added) : Confined own word (word ||| added) := by
  intro mask apart
  rw [read_set, outside_of_inside inside apart, UInt32.or_zero]

theorem clear (word : UInt32) (inside : cleared &&& own = cleared) : Confined own word (word &&& ~~~cleared) := by
  intro mask apart
  have unseen := outside_of_inside inside apart
  apply UInt32.toBitVec_inj.mp
  apply BitVec.eq_of_getElem_eq
  intro i bound
  have here : (cleared &&& mask).toBitVec[i] = (0 : UInt32).toBitVec[i] := by simp only [unseen]
  simp only [UInt32.toBitVec_and, UInt32.toBitVec_not, UInt32.toBitVec_ofNat, BitVec.getElem_and, BitVec.getElem_not,
    BitVec.getElem_zero] at here ⊢
  revert here
  cases word.toBitVec[i] <;> cases cleared.toBitVec[i] <;> cases mask.toBitVec[i] <;> decide

end Confined

end Flags

end Foundation
