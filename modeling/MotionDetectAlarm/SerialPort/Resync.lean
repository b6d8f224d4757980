import MotionDetectAlarm.SerialPort.Transcoder

namespace MotionDetectAlarm
namespace SerialPort

open Foundation

/-!
# Cutting a text before it is transcoded

The walk of `ConvertToUtf16Be` looks ahead for tail bytes only, and what it
passes over at once is a lead byte with its tail.  A cut in front of a byte that
is not a tail byte is therefore a place where the walk starts anew: whatever
stands before it, well formed or not, the part behind it gives the same codes.

The walk by recursion has this law for all texts.  The loop has it as long as
its index does: two parts that it can transcode one by one may be too long
together.
-/

/-- The text does not go on with a character that began before it. -/
def Fresh (text : Bytes) : Prop :=
  forall first, text.head? = some first -> ¬ IsTail first

instance : DecidablePred Fresh
  | [] => isTrue (fun _ absurd => nomatch absurd)
  | first :: _ => decidable_of_iff (¬ IsTail first)
      ⟨fun fresh _ same => Option.some.inj same ▸ fresh, fun fresh => fresh first rfl⟩

/-! ## The look-ahead at the cut -/

/-- Without a tail byte behind the lead byte the other two do not matter. -/
theorem utf16Code_no_second {second : UInt16} (no_tail : ¬ second >>> 6 = 0x02) (first third : UInt16) :
    utf16Code first second third = utf16Code first 0 0 := by
  have zero : ¬ (0 : UInt16) >>> 6 = 0x02 := by decide
  simp only [utf16Code, no_tail, zero, and_false, false_and, if_false]

/-- Without a second tail byte the third does not matter. -/
theorem utf16Code_no_third {third : UInt16} (no_tail : ¬ third >>> 6 = 0x02) (first second : UInt16) :
    utf16Code first second third = utf16Code first second 0 := by
  have zero : ¬ (0 : UInt16) >>> 6 = 0x02 := by decide
  simp only [utf16Code, no_tail, zero, and_false, if_false]

theorem Fresh.charIn_zero {text : Bytes} (fresh : Fresh text) : ¬ charIn text 0 >>> 6 = 0x02 := by
  cases text with
  | nil => decide
  | cons first rest =>
      intro tail
      exact fresh first rfl ((byte_classes first).2.2.2.mp tail)

/-- One step of the walk reads the same with a fresh text behind the cut, and
does not pass over it. -/
theorem utf16Code_append {back : Bytes} (fresh : Fresh back) (first : UInt8) (rest : Bytes) :
    utf16Code first.toUInt16 (charIn (rest ++ back) 0) (charIn (rest ++ back) 1) =
        utf16Code first.toUInt16 (charIn rest 0) (charIn rest 1) ∧
      (utf16Code first.toUInt16 (charIn rest 0) (charIn rest 1)).2.toNat - 1 ≤ rest.length := by
  constructor
  · match rest with
    | [] => exact utf16Code_no_second fresh.charIn_zero _ _
    | [second] => exact utf16Code_no_third fresh.charIn_zero _ _
    | second :: third :: later => rfl
  · rcases utf16Code_used first.toUInt16 (charIn rest 0) (charIn rest 1) with one | ⟨two, second⟩ | ⟨three, -, third⟩
    · rw [one]
      exact Nat.zero_le _
    · rw [two]
      exact charIn_ne_zero second
    · rw [three]
      exact charIn_ne_zero third

/-! ## The law -/

theorem units_append {back : Bytes} (fresh : Fresh back) (front : Bytes) :
    units (front ++ back) = units front ++ units back := by
  fun_induction units front with
  | case1 => rfl
  | case2 first rest read ih =>
      rcases utf16Code_append fresh first rest with ⟨same, inside⟩
      rw [List.cons_append, units_cons, same, List.drop_append_of_le_length inside, ih, List.append_assoc]

/-- What is appended for a text is appended part by part. -/
theorem transcode_append {back : Bytes} (fresh : Fresh back) (front : Bytes) :
    transcode (front ++ back) = transcode front ++ transcode back := by
  rw [transcode, units_append fresh, List.flatMap_append]
  rfl

/-- A text is transcoded as its two parts, one after the other, exactly when it
is short enough for the index or one of the parts alone is too long. -/
theorem convertToUtf16Be_append_iff {back : Bytes} (fresh : Fresh back) (front strOut : Bytes) :
    convertToUtf16Be (front ++ back) strOut = (convertToUtf16Be front strOut >>= convertToUtf16Be back) ↔
      front.length + back.length < 2 ^ 32 ∨ 2 ^ 32 ≤ front.length ∨ 2 ^ 32 ≤ back.length := by
  rcases Nat.lt_or_ge front.length (2 ^ 32) with shortFront | longFront
  · rw [convertToUtf16Be_short shortFront, ok_bind]
    rcases Nat.lt_or_ge back.length (2 ^ 32) with shortBack | longBack
    · rw [convertToUtf16Be_short shortBack]
      rcases Nat.lt_or_ge (front ++ back).length (2 ^ 32) with short | long
      · rw [convertToUtf16Be_short short, transcode_append fresh, ← List.append_assoc]
        exact iff_of_true rfl (Or.inl (List.length_append ▸ short))
      · rw [convertToUtf16Be_long long]
        rw [List.length_append] at long
        exact iff_of_false (fun same => nomatch same) (by omega)
    · have long : 2 ^ 32 ≤ (front ++ back).length := by
        rw [List.length_append]
        omega
      rw [convertToUtf16Be_long longBack, convertToUtf16Be_long long]
      exact iff_of_true rfl (Or.inr (Or.inr longBack))
  · have long : 2 ^ 32 ≤ (front ++ back).length := by
      rw [List.length_append]
      omega
    rw [convertToUtf16Be_long longFront, convertToUtf16Be_long long]
    exact iff_of_true rfl (Or.inr (Or.inl longFront))

/-- The ideograph U+5927 without its last byte, and a letter behind it. -/
theorem torn_text_transcoded :
    convertToUtf16Be ([0xE5, 0xA4] ++ ascii "A") [] = (convertToUtf16Be [0xE5, 0xA4] [] >>= convertToUtf16Be (ascii "A")) :=
  (convertToUtf16Be_append_iff (by decide) _ _).mpr (Or.inl (by decide))

/-- The letters that are one too few to wrap the index. -/
def lastIndexed : Bytes := List.replicate (2 ^ 32 - 1) 0x41

/-- One letter more is transcoded alone, and not behind them. -/
theorem wrapped_index_diverges :
    Fresh (ascii "A") ∧
      (exists front back, convertToUtf16Be lastIndexed [] = .ok front ∧ convertToUtf16Be (ascii "A") front = .ok back) ∧
      convertToUtf16Be (lastIndexed ++ ascii "A") [] = .error .diverges := by
  have length : lastIndexed.length = 2 ^ 32 - 1 := List.length_replicate
  have short : lastIndexed.length < 2 ^ 32 := by omega
  have long : 2 ^ 32 ≤ (lastIndexed ++ ascii "A").length := by
    rw [List.length_append, length]
    decide
  exact ⟨by decide, ⟨_, _, convertToUtf16Be_short short [], convertToUtf16Be_short (by decide) _⟩,
    convertToUtf16Be_long long []⟩

end SerialPort
end MotionDetectAlarm
