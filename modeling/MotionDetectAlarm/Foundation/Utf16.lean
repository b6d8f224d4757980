import MotionDetectAlarm.Foundation.Bytes

namespace Foundation

/-!
# UTF-16 written in hexadecimal

A text may be carried in a channel that accepts only digits and letters: each
UTF-16 unit is written as four hexadecimal digits, the most significant first.
`hexGroup` writes one unit.  `readUtf16Be` reads a whole text, in groups of
four digits and then by characters, with surrogate pairs.  The two round trips
are stated one below the other, so that a writer only has to be compared with
`hexGroup`.
-/

/-! ## Digits -/

/-- The digit of a value below sixteen. -/
def hexDigit (value : Nat) : UInt8 :=
  if value < 10 then UInt8.ofNat (0x30 + value) else UInt8.ofNat (0x37 + value)

/-- The value of a digit of either case. -/
def hexValue (digit : UInt8) : Option Nat :=
  if 0x30 ≤ digit ∧ digit ≤ 0x39 then some (digit.toNat - 0x30)
  else if 0x41 ≤ digit ∧ digit ≤ 0x46 then some (digit.toNat - 0x37)
  else if 0x61 ≤ digit ∧ digit ≤ 0x66 then some (digit.toNat - 0x57)
  else none

/-- The characters `0` to `9` and `A` to `F`. -/
def IsHexDigit (byte : UInt8) : Prop :=
  0x30 ≤ byte ∧ byte ≤ 0x39 ∨ 0x41 ≤ byte ∧ byte ≤ 0x46

instance (byte : UInt8) : Decidable (IsHexDigit byte) :=
  inferInstanceAs (Decidable (_ ∨ _))

theorem hexValue_hexDigit {value : Nat} (small : value < 16) : hexValue (hexDigit value) = some value := by
  have all : forall v : Fin 16, hexValue (hexDigit v.val) = some v.val := by decide
  exact all ⟨value, small⟩

theorem isHexDigit_hexDigit {value : Nat} (small : value < 16) : IsHexDigit (hexDigit value) := by
  have all : forall v : Fin 16, IsHexDigit (hexDigit v.val) := by decide
  exact all ⟨value, small⟩

/-! ## Units -/

/-- The four digits of a unit. -/
def hexGroup (unit : UInt16) : Bytes :=
  [hexDigit (unit.toNat / 4096), hexDigit (unit.toNat / 256 % 16), hexDigit (unit.toNat / 16 % 16),
    hexDigit (unit.toNat % 16)]

/-- Read groups of four digits. -/
def readUnits : Bytes -> Option (List UInt16)
  | [] => some []
  | first :: second :: third :: fourth :: rest =>
      match hexValue first, hexValue second, hexValue third, hexValue fourth, readUnits rest with
      | some a, some b, some c, some d, some units =>
          some (UInt16.ofNat (a * 4096 + b * 256 + c * 16 + d) :: units)
      | _, _, _, _, _ => none
  | _ => none

theorem readUnits_hexGroup (unit : UInt16) (rest : Bytes) :
    readUnits (hexGroup unit ++ rest) = (readUnits rest).map (fun units => unit :: units) := by
  have bound := unit.toNat_lt
  have sum : unit.toNat / 4096 * 4096 + unit.toNat / 256 % 16 * 256 + unit.toNat / 16 % 16 * 16 +
      unit.toNat % 16 = unit.toNat := by
    omega
  simp only [hexGroup, List.cons_append, List.nil_append, readUnits]
  rw [hexValue_hexDigit (by omega), hexValue_hexDigit (by omega), hexValue_hexDigit (by omega),
    hexValue_hexDigit (by omega)]
  cases readUnits rest with
  | none => rfl
  | some units => simp only [Option.map_some, sum, UInt16.ofNat_toNat]

/-- Reading what was written gives the units back. -/
theorem readUnits_flatMap (units : List UInt16) : readUnits (units.flatMap hexGroup) = some units := by
  induction units with
  | nil => rfl
  | cons unit rest ih => rw [List.flatMap_cons, readUnits_hexGroup, ih, Option.map_some]

/-- Units are told apart by their digits. -/
theorem flatMap_hexGroup_injective {units others : List UInt16}
    (same : units.flatMap hexGroup = others.flatMap hexGroup) : units = others := by
  have read := congrArg readUnits same
  rw [readUnits_flatMap, readUnits_flatMap] at read
  exact Option.some.inj read

theorem length_flatMap_hexGroup (units : List UInt16) : (units.flatMap hexGroup).length = 4 * units.length := by
  induction units with
  | nil => rfl
  | cons unit rest ih =>
      rw [List.flatMap_cons, List.length_append, ih, List.length_cons]
      change 4 + 4 * rest.length = 4 * (rest.length + 1)
      omega

theorem isHexDigit_of_mem_hexGroup {unit : UInt16} {byte : UInt8} (member : byte ∈ hexGroup unit) :
    IsHexDigit byte := by
  have bound := unit.toNat_lt
  simp only [hexGroup, List.mem_cons, List.not_mem_nil, or_false] at member
  rcases member with rfl | rfl | rfl | rfl <;> exact isHexDigit_hexDigit (by omega)

theorem isHexDigit_of_mem_flatMap {units : List UInt16} {byte : UInt8}
    (member : byte ∈ units.flatMap hexGroup) : IsHexDigit byte := by
  rcases List.mem_flatMap.mp member with ⟨unit, -, inGroup⟩
  exact isHexDigit_of_mem_hexGroup inGroup

/-! ## Characters -/

/-- Read characters from units.  A unit outside the surrogate range is one
character, and a high surrogate needs a low one behind it. -/
def readChars : List UInt16 -> Option (List Char)
  | [] => some []
  | unit :: rest =>
      if unit < 0xD800 ∨ 0xE000 ≤ unit then
        (readChars rest).map (fun characters => Char.ofNat unit.toNat :: characters)
      else
        match rest with
        | [] => none
        | low :: later =>
            if unit < 0xDC00 ∧ 0xDC00 ≤ low ∧ low < 0xE000 then
              (readChars later).map (fun characters =>
                Char.ofNat (0x10000 + (unit.toNat - 0xD800) * 0x400 + (low.toNat - 0xDC00)) :: characters)
            else none

theorem readChars_scalar {unit : UInt16} (scalar : unit < 0xD800 ∨ 0xE000 ≤ unit) (rest : List UInt16) :
    readChars (unit :: rest) = (readChars rest).map (fun characters => Char.ofNat unit.toNat :: characters) := by
  cases rest <;> simp only [readChars, if_pos scalar]

/-- The UTF-8 bytes of a text. -/
def utf8 (characters : List Char) : Bytes :=
  characters.flatMap String.utf8EncodeChar

/-- The unit of a character of the basic plane. -/
def charUnit (character : Char) : UInt16 :=
  UInt16.ofNat character.toNat

theorem charUnit_toNat {character : Char} (basic : character.toNat < 2 ^ 16) :
    (charUnit character).toNat = character.toNat := by
  rw [charUnit, UInt16.toNat_ofNat']
  exact Nat.mod_eq_of_lt basic

/-- Reading the units of characters of the basic plane gives them back. -/
theorem readChars_charUnit (characters : List Char)
    (basic : forall character, character ∈ characters -> character.toNat < 2 ^ 16) :
    readChars (characters.map charUnit) = some characters := by
  induction characters with
  | nil => rfl
  | cons character rest ih =>
      have value := charUnit_toNat (basic character List.mem_cons_self)
      have scalar : charUnit character < 0xD800 ∨ 0xE000 ≤ charUnit character := by
        have valid : character.toNat < 0xD800 ∨ 0xDFFF < character.toNat ∧ character.toNat < 0x110000 :=
          character.valid
        rcases valid with below | ⟨above, -⟩
        · refine Or.inl (UInt16.lt_iff_toNat_lt.mpr ?_)
          rw [value]
          exact below
        · refine Or.inr (UInt16.le_iff_toNat_le.mpr ?_)
          rw [value]
          exact above
      rw [List.map_cons, readChars_scalar scalar, value, Char.ofNat_toNat,
        ih (fun other member => basic other (List.mem_cons_of_mem _ member)), Option.map_some]

/-- Read a text of hexadecimal digits as UTF-16BE. -/
def readUtf16Be (text : Bytes) : Option (List Char) :=
  (readUnits text).bind readChars

/-- What is written unit by unit reads back as the same characters. -/
theorem readUtf16Be_write (characters : List Char)
    (basic : forall character, character ∈ characters -> character.toNat < 2 ^ 16) :
    readUtf16Be ((characters.map charUnit).flatMap hexGroup) = some characters := by
  rw [readUtf16Be, readUnits_flatMap, Option.bind_some, readChars_charUnit characters basic]

end Foundation
