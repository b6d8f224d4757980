import MotionDetectAlarm.Foundation.Execution

namespace Foundation

/-!
# Byte strings

A `std::string` is a list of bytes of any content.  A `char` array that holds
C text is read up to its first NUL, so a value of `CharArray size` is that
text together with the two facts that make it one: it has no NUL of its own
and leaves room for the terminator.
-/

/-- The contents of a byte string. -/
abbrev Bytes := List UInt8

/-- The bytes of a literal whose characters are all ASCII. -/
def ascii (text : String) : Bytes :=
  text.toList.map (fun character => UInt8.ofNat character.toNat)

/-- A check of every item of a list. -/
theorem forall_mem_of_all {Item : Type} {Holds : Item -> Prop} [DecidablePred Holds] {items : List Item}
    (checked : items.all (fun item => decide (Holds item)) = true) :
    forall item, item ∈ items -> Holds item := by
  intro item member
  exact of_decide_eq_true (List.all_eq_true.mp checked item member)

/-- The text behind a `const char *`: all bytes before the terminator. -/
structure CText where
  text : Bytes
  noNul : (0 : UInt8) ∉ text
  deriving DecidableEq

/-- The text in a NUL-terminated `char[size]`. -/
structure CharArray (size : Nat) where
  text : Bytes
  noNul : (0 : UInt8) ∉ text
  fits : text.length < size
  deriving DecidableEq

/-- The text that `c_str` shows of a string: all bytes before the first NUL. -/
def cStr (text : Bytes) : CText where
  text := text.takeWhile (fun byte => byte ≠ 0)
  noNul := by
    intro member
    have passed := List.all_eq_true.mp List.all_takeWhile 0 member
    simp at passed

namespace CharArray

/-- A zeroed array holds the empty text. -/
def zeroed {size : Nat} (positive : 0 < size) : CharArray size where
  text := []
  noNul := List.not_mem_nil
  fits := positive

end CharArray

/-- `strcpy` into an array, which checks nothing. -/
def strcpy {size : Nat} (source : CText) : Except Fault (CharArray size) :=
  if fits : source.text.length < size then .ok ⟨source.text, source.noNul, fits⟩ else .error .outOfBounds

/-- `std::string::insert`, which throws when the position is past the end. -/
def insertAt (text : Bytes) (pos : Nat) (inserted : Bytes) : Except Fault Bytes :=
  if pos ≤ text.length then .ok (text.take pos ++ inserted ++ text.drop pos)
  else .error .outOfRange

/-- Inserting at the seam of two known parts. -/
theorem insertAt_append (front back inserted : Bytes) {pos : Nat} (seam : pos = front.length) :
    insertAt (front ++ back) pos inserted = .ok (front ++ inserted ++ back) := by
  subst seam
  simp [insertAt]

theorem insertAt_throws_iff {text inserted : Bytes} {pos : Nat} :
    insertAt text pos inserted = .error .outOfRange ↔ text.length < pos := by
  unfold insertAt
  split
  · rename_i inside
    exact iff_of_false (fun thrown => nomatch thrown) (Nat.not_lt.mpr inside)
  · rename_i past
    exact iff_of_true rfl (Nat.lt_of_not_le past)

theorem insertAt_length {text inserted result : Bytes} {pos : Nat} (done : insertAt text pos inserted = .ok result) :
    result.length = text.length + inserted.length := by
  unfold insertAt at done
  split at done
  · cases done
    simp only [List.length_append, List.length_take, List.length_drop]
    omega
  · cases done

end Foundation
