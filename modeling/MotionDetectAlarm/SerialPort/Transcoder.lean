import MotionDetectAlarm.Foundation.Utf16

namespace MotionDetectAlarm
namespace SerialPort

open Foundation

/-!
# From UTF-8 to hexadecimal UTF-16

`ConvertToUtf16Be` walks over a byte string with a 32-bit index, looks at up
to three bytes, and appends four hexadecimal digits for each character of one,
two or three bytes.  A byte that starts none of these is skipped.

The loop is embedded with its index: the look-ahead indices `i + 1` and
`i + 2` wrap at 32 bits, and so does the index itself.  `units` is the same
walk by recursion on the text that is left.  For a text shorter than `2 ^ 32`
bytes the loop computes it; on a longer one the index never reaches the end
and the loop does not leave.
-/

/-! ## Digits -/

def toChar (val : UInt8) : UInt8 :=
  if val < 0xA then val + 0x30 else val + 0x37

/-- The four characters pushed for `Utf16Code`, read through a `char` pointer
on a little-endian host. -/
def unitDigits (code : UInt16) : Bytes :=
  let highChar := (code >>> 8).toUInt8
  let lowChar := code.toUInt8
  [toChar ((highChar >>> 4) &&& 0x0f), toChar (highChar &&& 0x0f),
    toChar ((lowChar >>> 4) &&& 0x0f), toChar (lowChar &&& 0x0f)]

theorem toChar_eq_hexDigit {val : UInt8} (small : val.toNat < 16) : toChar val = hexDigit val.toNat := by
  have all : forall v : Fin 16, toChar (UInt8.ofNat v.val) = hexDigit v.val := by decide
  have here := all ⟨val.toNat, small⟩
  rwa [UInt8.ofNat_toNat] at here

theorem low_nibble (byte : UInt8) : (byte &&& 0x0f).toNat = byte.toNat % 16 := by
  rw [UInt8.toNat_and]
  exact Nat.and_two_pow_sub_one_eq_mod byte.toNat 4

theorem high_nibble (byte : UInt8) : ((byte >>> 4) &&& 0x0f).toNat = byte.toNat / 16 := by
  have bound := byte.toNat_lt
  rw [low_nibble, UInt8.toNat_shiftRight]
  simp only [UInt8.reduceToNat, Nat.reduceMod, Nat.shiftRight_eq_div_pow, Nat.reducePow]
  omega

/-- The pushed characters are the digits of the code. -/
theorem unitDigits_eq (code : UInt16) : unitDigits code = hexGroup code := by
  have bound := code.toNat_lt
  have high : (code >>> 8).toUInt8.toNat = code.toNat / 256 := by
    rw [UInt16.toNat_toUInt8, UInt16.toNat_shiftRight]
    simp only [UInt16.reduceToNat, Nat.reduceMod, Nat.shiftRight_eq_div_pow, Nat.reducePow]
    omega
  have low : code.toUInt8.toNat = code.toNat % 256 := UInt16.toNat_toUInt8 _
  unfold unitDigits hexGroup
  simp only
  rw [toChar_eq_hexDigit (by rw [high_nibble]; omega), toChar_eq_hexDigit (by rw [low_nibble]; omega),
    toChar_eq_hexDigit (by rw [high_nibble]; omega), toChar_eq_hexDigit (by rw [low_nibble]; omega),
    high_nibble, low_nibble, high_nibble, low_nibble, high, low]
  have first : code.toNat / 256 / 16 = code.toNat / 4096 := by omega
  have third : code.toNat % 256 / 16 = code.toNat / 16 % 16 := by omega
  have fourth : code.toNat % 256 % 16 = code.toNat % 16 := by omega
  rw [first, third, fourth]

/-! ## The loop -/

/-- `CharInFirst`, `CharInSecond` and `CharInThird`: the byte at an index, zero
past the end. -/
def charIn (strIn : Bytes) (index : Nat) : UInt16 :=
  match strIn[index]? with
  | some byte => byte.toUInt16
  | none => 0

/-- The branches on the three bytes: the code, if they start a character, and
how far the index moves.  The marker bits of the lead byte are shifted out of
the 16 bits, or stay below them. -/
def utf16Code (charInFirst charInSecond charInThird : UInt16) : Option UInt16 × UInt32 :=
  if charInFirst &&& 0x0080 = 0 then (some charInFirst, 1)
  else if charInFirst >>> 5 = 0x06 ∧ charInSecond >>> 6 = 0x02 then
    (some ((charInFirst <<< 6) ||| (charInSecond &&& 0x3F)), 2)
  else if charInFirst >>> 4 = 0x0E ∧ charInSecond >>> 6 = 0x02 ∧ charInThird >>> 6 = 0x02 then
    (some ((charInFirst <<< 12) ||| ((charInSecond &&& 0x3F) <<< 6) ||| (charInThird &&& 0x3F)), 3)
  else (none, 1)

/-- One round of the loop, on the index and the output. -/
def convertRound (strIn : Bytes) (state : UInt32 × Bytes) : Except Fault (Round (UInt32 × Bytes) Bytes) :=
  let (i, strOut) := state
  if i.toNat < strIn.length then
    let (code, used) := utf16Code (charIn strIn i.toNat) (charIn strIn (i + 1).toNat) (charIn strIn (i + 2).toNat)
    .ok (.again (i + used, strOut ++ code.toList.flatMap unitDigits))
  else .ok (.leave strOut)

/-- `ConvertToUtf16Be`, which appends to `strOut`.  The fuel is one round for
each byte and one to leave. -/
def convertToUtf16Be (strIn strOut : Bytes) : Except Fault Bytes :=
  loop (convertRound strIn) (strIn.length + 1) (0, strOut)

/-! ## The branches -/

/-- The index moves by one, two or three, and by more than one only over bytes
that are there. -/
theorem utf16Code_used (charInFirst charInSecond charInThird : UInt16) :
    (utf16Code charInFirst charInSecond charInThird).2 = 1 ∨
    (utf16Code charInFirst charInSecond charInThird).2 = 2 ∧ charInSecond ≠ 0 ∨
    (utf16Code charInFirst charInSecond charInThird).2 = 3 ∧ charInSecond ≠ 0 ∧ charInThird ≠ 0 := by
  unfold utf16Code
  split
  · exact Or.inl rfl
  · split
    · rename_i two
      refine Or.inr (Or.inl ⟨rfl, ?_⟩)
      rintro rfl
      exact absurd two.2 (by decide)
    · split
      · rename_i three
        refine Or.inr (Or.inr ⟨rfl, ?_, ?_⟩)
        · rintro rfl
          exact absurd three.2.1 (by decide)
        · rintro rfl
          exact absurd three.2.2 (by decide)
      · exact Or.inl rfl

/-- Without a second byte the third does not matter. -/
theorem utf16Code_single (charInFirst charInThird : UInt16) :
    utf16Code charInFirst 0 charInThird = utf16Code charInFirst 0 0 := by
  have no_tail : ¬ (0 : UInt16) >>> 6 = 0x02 := by decide
  simp only [utf16Code, no_tail, and_false, false_and, if_false]

theorem charIn_ne_zero {text : Bytes} {index : Nat} (present : charIn text index ≠ 0) : index < text.length := by
  by_contra past
  rw [charIn, List.getElem?_eq_none (Nat.le_of_not_lt past)] at present
  exact present rfl

theorem charIn_drop (text : Bytes) (start index : Nat) :
    charIn (text.drop start) index = charIn text (start + index) := by
  rw [charIn, charIn, List.getElem?_drop]

/-! ## The walk by recursion -/

/-- The codes that a text gives, in order. -/
def units : Bytes -> List UInt16
  | [] => []
  | first :: rest =>
      let read := utf16Code first.toUInt16 (charIn rest 0) (charIn rest 1)
      read.1.toList ++ units (rest.drop (read.2.toNat - 1))
termination_by text => text.length
decreasing_by
  simp only [List.length_drop, List.length_cons]
  omega

/-- What `ConvertToUtf16Be` appends for a text. -/
def transcode (text : Bytes) : Bytes :=
  (units text).flatMap unitDigits

theorem transcode_nil : transcode [] = [] := by
  rw [transcode, units, List.flatMap_nil]

theorem transcode_cons (first : UInt8) (rest : Bytes) :
    transcode (first :: rest) =
      (utf16Code first.toUInt16 (charIn rest 0) (charIn rest 1)).1.toList.flatMap unitDigits ++
        transcode (rest.drop ((utf16Code first.toUInt16 (charIn rest 0) (charIn rest 1)).2.toNat - 1)) := by
  rw [transcode, units, List.flatMap_append]
  rfl

/-- The same step, at an index into the whole text. -/
theorem transcode_drop {strIn : Bytes} {k : Nat} (inText : k < strIn.length) :
    transcode (strIn.drop k) =
      (utf16Code (charIn strIn k) (charIn strIn (k + 1)) (charIn strIn (k + 2))).1.toList.flatMap unitDigits ++
        transcode (strIn.drop
          (k + (utf16Code (charIn strIn k) (charIn strIn (k + 1)) (charIn strIn (k + 2))).2.toNat)) := by
  have here : charIn strIn k = (strIn[k]).toUInt16 := by
    rw [charIn, List.getElem?_eq_getElem inText]
  have second : charIn (strIn.drop (k + 1)) 0 = charIn strIn (k + 1) := charIn_drop strIn (k + 1) 0
  have third : charIn (strIn.drop (k + 1)) 1 = charIn strIn (k + 2) := charIn_drop strIn (k + 1) 1
  rw [List.drop_eq_getElem_cons inText, transcode_cons, second, third, ← here, List.drop_drop]
  -- the index moves by at least one
  have moved : 1 ≤ (utf16Code (charIn strIn k) (charIn strIn (k + 1)) (charIn strIn (k + 2))).2.toNat := by
    rcases utf16Code_used (charIn strIn k) (charIn strIn (k + 1)) (charIn strIn (k + 2)) with
      one | ⟨two, -⟩ | ⟨three, -, -⟩
    · rw [one]
      decide
    · rw [two]
      decide
    · rw [three]
      decide
  congr 3
  omega

/-! ## The loop and the walk -/

theorem index_add {i used : UInt32} (fits : i.toNat + used.toNat < 2 ^ 32) :
    (i + used).toNat = i.toNat + used.toNat := by
  rw [UInt32.toNat_add]
  exact Nat.mod_eq_of_lt fits

/-- Below `2 ^ 32` bytes the wrapped look-ahead reads what the walk reads.  The
index of the third byte can wrap only at the last byte, where there is no
second one. -/
theorem lookahead_short {strIn : Bytes} (short : strIn.length < 2 ^ 32) {i : UInt32}
    (inText : i.toNat < strIn.length) :
    utf16Code (charIn strIn i.toNat) (charIn strIn (i + 1).toNat) (charIn strIn (i + 2).toNat) =
      utf16Code (charIn strIn i.toNat) (charIn strIn (i.toNat + 1)) (charIn strIn (i.toNat + 2)) := by
  have second : (i + 1).toNat = i.toNat + 1 := index_add (by simp only [UInt32.reduceToNat]; omega)
  rw [second]
  by_cases fits : i.toNat + 2 < 2 ^ 32
  · have third : (i + 2).toNat = i.toNat + 2 := index_add fits
    rw [third]
  · have no_second : charIn strIn (i.toNat + 1) = 0 := by
      by_contra present
      have := charIn_ne_zero present
      omega
    rw [no_second, utf16Code_single, utf16Code_single _ (charIn strIn (i.toNat + 2))]

/-- One round moves the index on inside the text and appends what the walk
gives for the bytes passed. -/
theorem convertRound_short {strIn : Bytes} (short : strIn.length < 2 ^ 32) {i : UInt32}
    (strOut : Bytes) (inText : i.toNat < strIn.length) :
    exists next, convertRound strIn (i, strOut) = .ok (.again next) ∧
      next.1.toNat ≤ strIn.length ∧ i.toNat < next.1.toNat ∧
      next.2 ++ transcode (strIn.drop next.1.toNat) = strOut ++ transcode (strIn.drop i.toNat) := by
  refine ⟨_, by rw [convertRound, if_pos inText], ?_⟩
  rw [lookahead_short short inText, transcode_drop inText]
  have moved : exists k, (utf16Code (charIn strIn i.toNat) (charIn strIn (i.toNat + 1))
      (charIn strIn (i.toNat + 2))).2.toNat = k ∧ 0 < k ∧ i.toNat + k ≤ strIn.length := by
    rcases utf16Code_used (charIn strIn i.toNat) (charIn strIn (i.toNat + 1)) (charIn strIn (i.toNat + 2)) with
      one | ⟨two, second⟩ | ⟨three, -, third⟩
    · exact ⟨1, by rw [one]; rfl, by decide, inText⟩
    · exact ⟨2, by rw [two]; rfl, by decide, charIn_ne_zero second⟩
    · exact ⟨3, by rw [three]; rfl, by decide, charIn_ne_zero third⟩
  rcases moved with ⟨k, value, positive, within⟩
  have index : (i + (utf16Code (charIn strIn i.toNat) (charIn strIn (i.toNat + 1))
      (charIn strIn (i.toNat + 2))).2).toNat = i.toNat + k := by
    rw [← value]
    exact index_add (by omega)
  simp only [index, value]
  exact ⟨within, by omega, List.append_assoc _ _ _⟩

/-- On a text shorter than `2 ^ 32` bytes the loop leaves with what the walk
gives. -/
theorem convertToUtf16Be_short {strIn : Bytes} (short : strIn.length < 2 ^ 32) (strOut : Bytes) :
    convertToUtf16Be strIn strOut = .ok (strOut ++ transcode strIn) := by
  have total : exists result, convertToUtf16Be strIn strOut = .ok result ∧
      result = strOut ++ transcode strIn := by
    refine loop_of_measure (fun state => state.1.toNat ≤ strIn.length ∧
        state.2 ++ transcode (strIn.drop state.1.toNat) = strOut ++ transcode strIn)
      (fun result => result = strOut ++ transcode strIn) (fun state => strIn.length - state.1.toNat)
      ?_ _ (0, strOut) ?_ ⟨Nat.zero_le _, rfl⟩
    · rintro ⟨i, out⟩ ⟨within, appended⟩
      simp only at within appended
      by_cases inText : i.toNat < strIn.length
      · rcases convertRound_short short out inText with ⟨next, continued, inside, further, same⟩
        exact Or.inr ⟨next, continued, ⟨inside, same.trans appended⟩, by simp only; omega⟩
      · refine Or.inl ⟨out, by rw [convertRound, if_neg inText], ?_⟩
        rw [List.drop_eq_nil_of_le (Nat.le_of_not_lt inText), transcode_nil, List.append_nil] at appended
        exact appended
    · simp only [UInt32.reduceToNat]
      omega
  rcases total with ⟨result, returned, rfl⟩
  exact returned

/-- On a longer text the index wraps before the end and no number of rounds is
enough. -/
theorem convertRound_diverges {strIn : Bytes} (long : 2 ^ 32 ≤ strIn.length) (fuel : Nat) (state : UInt32 × Bytes) :
    loop (convertRound strIn) fuel state = .error .diverges := by
  refine loop_diverges (fun _ => True) ?_ fuel state trivial
  rintro ⟨i, out⟩ -
  have inText : i.toNat < strIn.length := Nat.lt_of_lt_of_le i.toNat_lt long
  exact ⟨_, by rw [convertRound, if_pos inText], trivial⟩

theorem convertToUtf16Be_long {strIn : Bytes} (long : 2 ^ 32 ≤ strIn.length) (strOut : Bytes) :
    convertToUtf16Be strIn strOut = .error .diverges :=
  convertRound_diverges long _ _

/-! ## What is appended -/

theorem transcode_eq (text : Bytes) : transcode text = (units text).flatMap hexGroup := by
  have digits : unitDigits = hexGroup := funext unitDigits_eq
  rw [transcode, digits]

theorem units_cons (first : UInt8) (rest : Bytes) :
    units (first :: rest) = (utf16Code first.toUInt16 (charIn rest 0) (charIn rest 1)).1.toList ++
      units (rest.drop ((utf16Code first.toUInt16 (charIn rest 0) (charIn rest 1)).2.toNat - 1)) := by
  rw [units]

/-- A byte gives at most one code. -/
theorem length_units_le (text : Bytes) : (units text).length ≤ text.length := by
  fun_induction units text with
  | case1 => exact Nat.le_refl 0
  | case2 first rest read ih =>
      have code : read.1.toList.length ≤ 1 := by
        cases read.1 <;> simp
      simp only [List.length_append, List.length_cons, List.length_drop] at ih ⊢
      omega

/-! ## How many codes there are -/

/-- A byte that goes on with a character. -/
def IsTail (byte : UInt8) : Prop :=
  0x80 ≤ byte ∧ byte < 0xC0

instance : DecidablePred IsTail :=
  fun _ => inferInstanceAs (Decidable (_ ∧ _))

/-- The text goes on with so many tail bytes. -/
def Continues (number : Nat) (text : Bytes) : Prop :=
  number ≤ text.length ∧ forall byte, byte ∈ text.take number -> IsTail byte

instance (number : Nat) (text : Bytes) : Decidable (Continues number text) :=
  inferInstanceAs (Decidable (_ ∧ _))

/-- A sequence of one, two or three bytes stands at the front of the text. -/
def StartsCharacter (first : UInt8) (rest : Bytes) : Prop :=
  first < 0x80 ∨ (0xC0 ≤ first ∧ first < 0xE0) ∧ Continues 1 rest ∨
    (0xE0 ≤ first ∧ first < 0xF0) ∧ Continues 2 rest

instance (first : UInt8) (rest : Bytes) : Decidable (StartsCharacter first rest) :=
  inferInstanceAs (Decidable (_ ∨ _))

/-- The number of places in a text where such a sequence starts. -/
def characterCount : Bytes -> Nat
  | [] => 0
  | first :: rest => (if StartsCharacter first rest then 1 else 0) + characterCount rest

/-- What the masks and shifts tell about a byte. -/
theorem byte_classes (byte : UInt8) :
    (byte.toUInt16 &&& 0x0080 = 0 ↔ byte < 0x80) ∧
      (byte.toUInt16 >>> 5 = 0x06 ↔ 0xC0 ≤ byte ∧ byte < 0xE0) ∧
      (byte.toUInt16 >>> 4 = 0x0E ↔ 0xE0 ≤ byte ∧ byte < 0xF0) ∧
      (byte.toUInt16 >>> 6 = 0x02 ↔ IsTail byte) := by
  have all : forall v : Fin 256,
      ((UInt8.ofNat v.val).toUInt16 &&& 0x0080 = 0 ↔ UInt8.ofNat v.val < 0x80) ∧
      ((UInt8.ofNat v.val).toUInt16 >>> 5 = 0x06 ↔ 0xC0 ≤ UInt8.ofNat v.val ∧ UInt8.ofNat v.val < 0xE0) ∧
      ((UInt8.ofNat v.val).toUInt16 >>> 4 = 0x0E ↔ 0xE0 ≤ UInt8.ofNat v.val ∧ UInt8.ofNat v.val < 0xF0) ∧
      ((UInt8.ofNat v.val).toUInt16 >>> 6 = 0x02 ↔ IsTail (UInt8.ofNat v.val)) := by
    decide +kernel
  have here := all ⟨byte.toNat, byte.toNat_lt⟩
  rwa [UInt8.ofNat_toNat] at here

/-- The look-ahead sees tail bytes where the text goes on with them. -/
theorem lookahead_iff (rest : Bytes) :
    (charIn rest 0 >>> 6 = 0x02 ↔ Continues 1 rest) ∧
      (charIn rest 0 >>> 6 = 0x02 ∧ charIn rest 1 >>> 6 = 0x02 ↔ Continues 2 rest) := by
  match rest with
  | [] => simp [charIn, Continues]
  | [second] =>
      have tail := (byte_classes second).2.2.2
      simp [charIn, Continues, tail]
  | second :: third :: later =>
      have tail := (byte_classes second).2.2.2
      have further := (byte_classes third).2.2.2
      simp [charIn, Continues, tail, further]

/-- Tail bytes start nothing. -/
theorem characterCount_drop {number : Nat} {text : Bytes} (goes_on : Continues number text) :
    characterCount (text.drop number) = characterCount text := by
  induction number generalizing text with
  | zero => rfl
  | succ number ih =>
      cases text with
      | nil => exact absurd goes_on.1 (Nat.not_succ_le_zero _)
      | cons byte rest =>
          rcases goes_on with ⟨enough, tails⟩
          rw [List.take_succ_cons] at tails
          have tail : IsTail byte := tails byte List.mem_cons_self
          have nothing : ¬ StartsCharacter byte rest := by
            simp only [IsTail, UInt8.le_iff_toNat_le, UInt8.lt_iff_toNat_lt, UInt8.reduceToNat] at tail
            simp only [StartsCharacter, UInt8.le_iff_toNat_le, UInt8.lt_iff_toNat_lt, UInt8.reduceToNat]
            omega
          have later : Continues number rest :=
            ⟨Nat.le_of_succ_le_succ enough, fun other member => tails other (List.mem_cons_of_mem _ member)⟩
          rw [List.drop_succ_cons, ih later, characterCount, if_neg nothing, Nat.zero_add]

/-- One step of the walk gives one code where a character starts, and passes
over its tail bytes only. -/
theorem utf16Code_counts (first : UInt8) (rest : Bytes) :
    (utf16Code first.toUInt16 (charIn rest 0) (charIn rest 1)).1.toList.length =
        (if StartsCharacter first rest then 1 else 0) ∧
      characterCount (rest.drop ((utf16Code first.toUInt16 (charIn rest 0) (charIn rest 1)).2.toNat - 1)) =
        characterCount rest := by
  rcases byte_classes first with ⟨one, two, three, -⟩
  rcases lookahead_iff rest with ⟨second, both⟩
  unfold utf16Code
  split
  · rename_i plain
    have starts : StartsCharacter first rest := Or.inl (one.mp plain)
    exact ⟨(if_pos starts).symm, rfl⟩
  · rename_i marked
    split
    · rename_i pair
      have goes_on := second.mp pair.2
      have starts : StartsCharacter first rest := Or.inr (Or.inl ⟨two.mp pair.1, goes_on⟩)
      exact ⟨(if_pos starts).symm, characterCount_drop goes_on⟩
    · rename_i no_pair
      split
      · rename_i triple
        have goes_on := both.mp triple.2
        have starts : StartsCharacter first rest := Or.inr (Or.inr ⟨three.mp triple.1, goes_on⟩)
        exact ⟨(if_pos starts).symm, characterCount_drop goes_on⟩
      · rename_i no_triple
        have nothing : ¬ StartsCharacter first rest := by
          rintro (plain | ⟨lead, goes_on⟩ | ⟨lead, goes_on⟩)
          · exact marked (one.mpr plain)
          · exact no_pair ⟨two.mpr lead, second.mpr goes_on⟩
          · exact no_triple ⟨three.mpr lead, both.mpr goes_on⟩
        exact ⟨(if_neg nothing).symm, rfl⟩

/-- A text gives as many codes as characters start in it. -/
theorem length_units (text : Bytes) : (units text).length = characterCount text := by
  fun_induction units text with
  | case1 => rfl
  | case2 first rest read ih =>
      rcases utf16Code_counts first rest with ⟨code, passed⟩
      rw [List.length_append, ih, characterCount]
      exact congrArg₂ (fun left right => left + right) code passed

/-- In a text of ASCII every byte is a character. -/
theorem characterCount_ascii {text : Bytes} (plain : forall byte, byte ∈ text -> byte < 0x80) :
    characterCount text = text.length := by
  induction text with
  | nil => rfl
  | cons first rest ih =>
      have starts : StartsCharacter first rest := Or.inl (plain first List.mem_cons_self)
      rw [characterCount, if_pos starts, ih (fun byte member => plain byte (List.mem_cons_of_mem _ member)),
        List.length_cons, Nat.add_comm]

/-! ## Well-formed text -/

section Characters

/-- The bits of a lead byte of three: its marker is recognised, and shifted out
of sixteen bits. -/
theorem lead_of_three {high : Nat} (small : high < 16) :
    ¬ (UInt8.ofNat (high + 0xE0)).toUInt16 &&& 0x0080 = 0 ∧
      ¬ (UInt8.ofNat (high + 0xE0)).toUInt16 >>> 5 = 0x06 ∧
      (UInt8.ofNat (high + 0xE0)).toUInt16 >>> 4 = 0x0E ∧
      (UInt8.ofNat (high + 0xE0)).toUInt16 <<< 12 = UInt16.ofNat (high * 4096) := by
  have all : forall v : Fin 16, ¬ (UInt8.ofNat (v.val + 0xE0)).toUInt16 &&& 0x0080 = 0 ∧
      ¬ (UInt8.ofNat (v.val + 0xE0)).toUInt16 >>> 5 = 0x06 ∧
      (UInt8.ofNat (v.val + 0xE0)).toUInt16 >>> 4 = 0x0E ∧
      (UInt8.ofNat (v.val + 0xE0)).toUInt16 <<< 12 = UInt16.ofNat (v.val * 4096) := by
    decide
  exact all ⟨high, small⟩

/-- The bits of a continuation byte. -/
theorem tail_bits {low : Nat} (small : low < 64) :
    (UInt8.ofNat (low + 0x80)).toUInt16 >>> 6 = 0x02 ∧
      (UInt8.ofNat (low + 0x80)).toUInt16 &&& 0x3F = UInt16.ofNat low ∧
      ((UInt8.ofNat (low + 0x80)).toUInt16 &&& 0x3F) <<< 6 = UInt16.ofNat (low * 64) := by
  have all : forall v : Fin 64, (UInt8.ofNat (v.val + 0x80)).toUInt16 >>> 6 = 0x02 ∧
      (UInt8.ofNat (v.val + 0x80)).toUInt16 &&& 0x3F = UInt16.ofNat v.val ∧
      ((UInt8.ofNat (v.val + 0x80)).toUInt16 &&& 0x3F) <<< 6 = UInt16.ofNat (v.val * 64) := by
    decide
  exact all ⟨low, small⟩

/-- Three fields of a code, joined bit by bit. -/
theorem join_fields {high middle low : Nat} (highLt : high < 16) (middleLt : middle < 64) (lowLt : low < 64) :
    UInt16.ofNat (high * 4096) ||| UInt16.ofNat (middle * 64) ||| UInt16.ofNat low =
      UInt16.ofNat (high * 4096 + middle * 64 + low) := by
  apply UInt16.toNat_inj.mp
  simp only [UInt16.toNat_or, UInt16.toNat_ofNat']
  rw [Nat.mod_eq_of_lt (by omega), Nat.mod_eq_of_lt (by omega), Nat.mod_eq_of_lt (by omega),
    Nat.mod_eq_of_lt (by omega)]
  have outer : high * 4096 ||| middle * 64 = high * 4096 + middle * 64 := by
    have joined := Nat.shiftLeft_add_eq_or_of_lt (i := 12) (b := middle * 64) (by omega) high
    rw [Nat.shiftLeft_eq] at joined
    exact joined.symm
  have inner := Nat.shiftLeft_add_eq_or_of_lt (i := 6) (b := low) (by omega) (high * 64 + middle)
  rw [Nat.shiftLeft_eq] at inner
  have regrouped : (high * 64 + middle) * 2 ^ 6 = high * 4096 + middle * 64 := by omega
  rw [outer, ← regrouped]
  exact inner.symm

/-- A character of one byte. -/
theorem units_one {value : Nat} (small : value < 0x80) (rest : Bytes) :
    units (UInt8.ofNat value :: rest) = UInt16.ofNat value :: units rest := by
  have all : forall v : Fin 0x80, (UInt8.ofNat v.val).toUInt16 &&& 0x0080 = 0 ∧
      (UInt8.ofNat v.val).toUInt16 = UInt16.ofNat v.val := by
    decide
  rcases all ⟨value, small⟩ with ⟨plain, same⟩
  rw [units_cons, utf16Code, if_pos plain, same]
  rfl

/-- A character of three bytes. -/
theorem units_three {high middle low : Nat} (highLt : high < 16) (middleLt : middle < 64) (lowLt : low < 64)
    (rest : Bytes) :
    units (UInt8.ofNat (high + 0xE0) :: UInt8.ofNat (middle + 0x80) :: UInt8.ofNat (low + 0x80) :: rest) =
      UInt16.ofNat (high * 4096 + middle * 64 + low) :: units rest := by
  rcases lead_of_three highLt with ⟨marked, not_two, three, lead⟩
  rcases tail_bits middleLt with ⟨second, -, shifted⟩
  rcases tail_bits lowLt with ⟨third, masked, -⟩
  have read : utf16Code (UInt8.ofNat (high + 0xE0)).toUInt16 (UInt8.ofNat (middle + 0x80)).toUInt16
      (UInt8.ofNat (low + 0x80)).toUInt16 = (some (UInt16.ofNat (high * 4096 + middle * 64 + low)), 3) := by
    rw [utf16Code, if_neg marked, if_neg (fun two => not_two two.1), if_pos ⟨three, second, third⟩, lead,
      shifted, masked, join_fields highLt middleLt lowLt]
  rw [units_cons]
  have ahead : charIn (UInt8.ofNat (middle + 0x80) :: UInt8.ofNat (low + 0x80) :: rest) 0 =
      (UInt8.ofNat (middle + 0x80)).toUInt16 := rfl
  have further : charIn (UInt8.ofNat (middle + 0x80) :: UInt8.ofNat (low + 0x80) :: rest) 1 =
      (UInt8.ofNat (low + 0x80)).toUInt16 := rfl
  rw [ahead, further, read]
  rfl

/-- The characters that UTF-8 encodes in one or in three bytes. -/
def OneOrThree (character : Char) : Prop :=
  character.toNat < 0x80 ∨ 0x800 ≤ character.toNat ∧ character.toNat < 2 ^ 16

instance : DecidablePred OneOrThree :=
  fun _ => inferInstanceAs (Decidable (_ ∨ _))

theorem OneOrThree.basic {character : Char} (either : OneOrThree character) : character.toNat < 2 ^ 16 := by
  rcases either with one | three
  · omega
  · exact three.2

theorem units_utf8EncodeChar {character : Char} (either : OneOrThree character) (rest : Bytes) :
    units (String.utf8EncodeChar character ++ rest) = charUnit character :: units rest := by
  have value : character.val.toNat = character.toNat := rfl
  unfold String.utf8EncodeChar
  simp only [value]
  rcases either with one | ⟨above, below⟩
  · rw [if_pos (Nat.le_of_lt_succ one)]
    exact units_one one rest
  · rw [if_neg (by omega), if_neg (by omega), if_pos (by omega)]
    have fields : character.toNat / 4096 % 16 * 4096 + character.toNat / 64 % 64 * 64 + character.toNat % 64 =
        character.toNat := by
      omega
    have highLt : character.toNat / 4096 % 16 < 16 := Nat.mod_lt _ (by decide)
    have middleLt : character.toNat / 64 % 64 < 64 := Nat.mod_lt _ (by decide)
    have lowLt : character.toNat % 64 < 64 := Nat.mod_lt _ (by decide)
    have three := units_three highLt middleLt lowLt rest
    rw [fields] at three
    exact three

/-- A text of such characters is transcoded unit by unit. -/
theorem units_utf8 {characters : List Char}
    (either : forall character, character ∈ characters -> OneOrThree character) :
    units (utf8 characters) = characters.map charUnit := by
  induction characters with
  | nil => rw [utf8, List.flatMap_nil, units, List.map_nil]
  | cons character rest ih =>
      rw [utf8, List.flatMap_cons, units_utf8EncodeChar (either character List.mem_cons_self), List.map_cons]
      exact congrArg _ (ih (fun other member => either other (List.mem_cons_of_mem _ member)))

/-! ## Characters of two bytes

The lead byte of two is not masked before it is shifted, and its marker stays
below the sixteenth bit. -/

/-- The bits of a lead byte of two: its marker is recognised, and is left in the
code. -/
theorem lead_of_two {high : Nat} (small : high < 32) :
    ¬ (UInt8.ofNat (high + 0xC0)).toUInt16 &&& 0x0080 = 0 ∧
      (UInt8.ofNat (high + 0xC0)).toUInt16 >>> 5 = 0x06 ∧
      (UInt8.ofNat (high + 0xC0)).toUInt16 <<< 6 = UInt16.ofNat (0x3000 + high * 64) := by
  have all : forall v : Fin 32, ¬ (UInt8.ofNat (v.val + 0xC0)).toUInt16 &&& 0x0080 = 0 ∧
      (UInt8.ofNat (v.val + 0xC0)).toUInt16 >>> 5 = 0x06 ∧
      (UInt8.ofNat (v.val + 0xC0)).toUInt16 <<< 6 = UInt16.ofNat (0x3000 + v.val * 64) := by
    decide
  exact all ⟨high, small⟩

/-- A character of two bytes. -/
theorem units_two {high low : Nat} (highLt : high < 32) (lowLt : low < 64) (rest : Bytes) :
    units (UInt8.ofNat (high + 0xC0) :: UInt8.ofNat (low + 0x80) :: rest) =
      UInt16.ofNat (0x3000 + (high * 64 + low)) :: units rest := by
  rcases lead_of_two highLt with ⟨marked, two, lead⟩
  rcases tail_bits lowLt with ⟨second, masked, -⟩
  have joined : UInt16.ofNat (0x3000 + high * 64) ||| UInt16.ofNat low =
      UInt16.ofNat (0x3000 + (high * 64 + low)) := by
    have fields := join_fields (show 3 < 16 by decide) (show high < 64 by omega) lowLt
    have outer : UInt16.ofNat (3 * 4096) ||| UInt16.ofNat (high * 64) = UInt16.ofNat (0x3000 + high * 64) := by
      have pair := join_fields (show 3 < 16 by decide) (show high < 64 by omega) (show 0 < 64 by decide)
      simpa using pair
    rw [outer] at fields
    rw [fields]
    congr 1
    omega
  rw [units_cons]
  have ahead : charIn (UInt8.ofNat (low + 0x80) :: rest) 0 = (UInt8.ofNat (low + 0x80)).toUInt16 := rfl
  rw [ahead, utf16Code, if_neg marked, if_pos ⟨two, second⟩, lead, masked, joined]
  rfl

/-- The code that is written for a character of the basic plane. -/
def writtenUnit (character : Char) : UInt16 :=
  if OneOrThree character then charUnit character else charUnit character + 0x3000

theorem units_basicChar {character : Char} (basic : character.toNat < 2 ^ 16) (rest : Bytes) :
    units (String.utf8EncodeChar character ++ rest) = writtenUnit character :: units rest := by
  by_cases either : OneOrThree character
  · rw [writtenUnit, if_pos either, units_utf8EncodeChar either]
  · rw [writtenUnit, if_neg either]
    simp only [OneOrThree, not_or, not_and] at either
    have above : 0x80 ≤ character.toNat := by omega
    have below : character.toNat < 0x800 := by omega
    have value : character.val.toNat = character.toNat := rfl
    unfold String.utf8EncodeChar
    simp only [value]
    rw [if_neg (by omega), if_pos (by omega)]
    have fields : character.toNat / 64 % 32 * 64 + character.toNat % 64 = character.toNat := by omega
    have highLt : character.toNat / 64 % 32 < 32 := Nat.mod_lt _ (by decide)
    have lowLt : character.toNat % 64 < 64 := Nat.mod_lt _ (by decide)
    have two := units_two highLt lowLt rest
    have sum : charUnit character + 0x3000 = UInt16.ofNat (0x3000 + character.toNat) := by
      rw [charUnit, Nat.add_comm, UInt16.ofNat_add]
      rfl
    rw [fields, ← sum] at two
    exact two

theorem units_basic {characters : List Char}
    (basic : forall character, character ∈ characters -> character.toNat < 2 ^ 16) :
    units (utf8 characters) = characters.map writtenUnit := by
  induction characters with
  | nil => rw [utf8, List.flatMap_nil, units, List.map_nil]
  | cons character rest ih =>
      rw [utf8, List.flatMap_cons, units_basicChar (basic character List.mem_cons_self), List.map_cons]
      exact congrArg _ (ih (fun other member => basic other (List.mem_cons_of_mem _ member)))

theorem writtenUnit_eq_iff (character : Char) : writtenUnit character = charUnit character ↔ OneOrThree character := by
  constructor
  · intro same
    by_contra two
    rw [writtenUnit, if_neg two] at same
    have value := congrArg UInt16.toNat same
    rw [UInt16.toNat_add] at value
    have bound := (charUnit character).toNat_lt
    have marker : (0x3000 : UInt16).toNat = 0x3000 := rfl
    omega
  · exact fun either => if_pos either

/-- A text of the basic plane is transcoded right exactly when it has no
character of two bytes and is short enough for the index. -/
theorem convertToUtf16Be_basic_iff {characters : List Char}
    (basic : forall character, character ∈ characters -> character.toNat < 2 ^ 16) (strOut : Bytes) :
    convertToUtf16Be (utf8 characters) strOut = .ok (strOut ++ (characters.map charUnit).flatMap hexGroup) ↔
      (forall character, character ∈ characters -> OneOrThree character) ∧ (utf8 characters).length < 2 ^ 32 := by
  rcases Nat.lt_or_ge (utf8 characters).length (2 ^ 32) with short | long
  · rw [convertToUtf16Be_short short, transcode_eq, units_basic basic]
    constructor
    · intro same
      have units := flatMap_hexGroup_injective (List.append_cancel_left (Except.ok.inj same))
      refine ⟨?_, short⟩
      intro character member
      exact (writtenUnit_eq_iff character).mp (List.map_inj_left.mp units character member)
    · rintro ⟨either, -⟩
      have units : characters.map writtenUnit = characters.map charUnit :=
        List.map_inj_left.mpr (fun character member => (writtenUnit_eq_iff character).mpr (either character member))
      rw [units]
  · rw [convertToUtf16Be_long long]
    exact iff_of_false (fun returned => nomatch returned) (fun both => Nat.not_le.mpr both.2 long)

/-- The letter A and the ideograph U+5927, of one and of three bytes. -/
theorem mixed_text_transcoded :
    convertToUtf16Be (utf8 ['A', Char.ofNat 0x5927]) (ascii "0030") =
      .ok (ascii "0030" ++ (['A', Char.ofNat 0x5927].map charUnit).flatMap hexGroup) :=
  (convertToUtf16Be_basic_iff (forall_mem_of_all (by decide)) _).mpr ⟨forall_mem_of_all (by decide), by decide⟩

/-- The letter U+00E9 comes out as U+30E9. -/
theorem acute_mistranscoded :
    (Char.ofNat 0x00E9).toNat < 2 ^ 16 ∧
      convertToUtf16Be (utf8 [Char.ofNat 0x00E9]) [] = .ok (ascii "30E9") ∧
      convertToUtf16Be (utf8 [Char.ofNat 0x00E9]) [] ≠ .ok ([] ++ ([Char.ofNat 0x00E9].map charUnit).flatMap hexGroup) := by
  decide

end Characters

end SerialPort
end MotionDetectAlarm
