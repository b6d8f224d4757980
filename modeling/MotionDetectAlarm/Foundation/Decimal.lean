import MotionDetectAlarm.Foundation.Bytes

namespace Foundation

/-!
# Decimal numerals

The value of a text of decimal digits, and what a reader computes that keeps
its partial value in a machine word: the value modulo the size of the word.
-/

/-- The value of a decimal digit. -/
def digitValue (byte : UInt8) : Option Nat :=
  if 0x30 ≤ byte ∧ byte ≤ 0x39 then some (byte.toNat - 0x30) else none

/-- Read digits behind a value already read. -/
def readDigits : Bytes -> Nat -> Option Nat
  | [], value => some value
  | byte :: rest, value =>
      match digitValue byte with
      | none => none
      | some digit => readDigits rest (value * 10 + digit)

/-- The value of a numeral: a text of digits that is not empty. -/
def numeralValue (text : Bytes) : Option Nat :=
  if text = [] then none else readDigits text 0

theorem numeralValue_eq_some_iff {text : Bytes} {value : Nat} :
    numeralValue text = some value ↔ text ≠ [] ∧ readDigits text 0 = some value := by
  by_cases empty : text = []
  · simp [numeralValue, empty]
  · simp [numeralValue, empty]

/-- The digits of a number, as the bytes of its decimal text. -/
def decimalText (number : Nat) : Bytes :=
  (Nat.toDigits 10 number).map (fun digit => UInt8.ofNat digit.toNat)

theorem decimalText_ne_nil (number : Nat) : decimalText number ≠ [] :=
  List.map_eq_nil_iff.not.mpr (Nat.toDigits_ne_nil)

/-- A digit character as a byte has its value. -/
theorem digitValue_digit {digit : Char} (isDigit : digit.isDigit) :
    digitValue (UInt8.ofNat digit.toNat) = some (digit.toNat - '0'.toNat) := by
  have bounds : 48 ≤ digit.toNat ∧ digit.toNat ≤ 57 := by
    rw [Char.isDigit, Bool.and_eq_true, decide_eq_true_eq, decide_eq_true_eq] at isDigit
    exact ⟨UInt32.le_iff_toNat_le.mp isDigit.1, UInt32.le_iff_toNat_le.mp isDigit.2⟩
  have small : (UInt8.ofNat digit.toNat).toNat = digit.toNat :=
    UInt8.toNat_ofNat_of_lt' (Nat.lt_of_le_of_lt bounds.2 (by decide))
  rw [digitValue, if_pos ⟨UInt8.le_iff_toNat_le.mpr (by rw [small]; exact bounds.1),
    UInt8.le_iff_toNat_le.mpr (by rw [small]; exact bounds.2)⟩, small]
  rfl

theorem readDigits_map {digits : List Char} (all : forall digit, digit ∈ digits -> digit.isDigit) (value : Nat) :
    readDigits (digits.map (fun digit => UInt8.ofNat digit.toNat)) value = some (Nat.ofDigitChars 10 digits value) := by
  induction digits generalizing value with
  | nil => rw [Nat.ofDigitChars_nil]; rfl
  | cons digit digits ih =>
      rw [List.map_cons, readDigits, digitValue_digit (all digit List.mem_cons_self), Nat.ofDigitChars_cons,
        Nat.mul_comm 10 value]
      exact ih (fun other member => all other (List.mem_cons_of_mem _ member)) _

/-- The decimal text of a number reads back as the number. -/
theorem numeralValue_decimalText (number : Nat) : numeralValue (decimalText number) = some number := by
  apply numeralValue_eq_some_iff.mpr
  refine ⟨decimalText_ne_nil number, ?_⟩
  rw [decimalText, readDigits_map (fun digit member => Nat.isDigit_of_mem_toDigits (by decide) (by decide) member),
    Nat.ofDigitChars_ten_toDigits]

/-- A word takes in one more digit. -/
theorem word_digit {uint : UInt32} {value digit : Nat} {byte : UInt8} (word : uint.toNat = value % 2 ^ 32)
    (read : digitValue byte = some digit) :
    (uint * 10 + byte.toUInt32 - 0x30).toNat = (value * 10 + digit) % 2 ^ 32 := by
  unfold digitValue at read
  split at read
  · rename_i digits
    have low := UInt8.le_iff_toNat_le.mp digits.1
    have value_eq := Option.some.inj read
    have small := byte.toNat_lt
    simp only [UInt8.reduceToNat] at low
    rw [UInt32.toNat_sub, UInt32.toNat_add, UInt32.toNat_mul, UInt8.toNat_toUInt32]
    simp only [UInt32.reduceToNat]
    omega
  · cases read

end Foundation
