import Mathlib.Data.List.Basic
import MotionDetectAlarm.SerialPort.Message

namespace MotionDetectAlarm
namespace SerialPort

open Foundation

/-!
# Numbers of other lengths

The positions at which `PackMsgToAlarm` inserts its fields are counted from a
number of eleven characters.  The entries of the table are not checked, and one
of another length moves the template under the positions.

A number of fewer than seven characters leaves the last position past the end,
and the insert throws.  Any other number gives a message, cut at the wrong
places unless it has eleven characters.  A longer number puts the date before
the quote that ends the separator, and a shorter one puts the address behind
the quote that closes the text.  So no message with a date and an address in it
is right by accident.
-/

/-! ## Numbers that throw -/

/-- The numbered template, cut where the first three inserts cut it. -/
theorem numbered_cut {phone : Bytes} (nonempty : phone ≠ []) :
    exists front middle rest, numbered phone = front ++ middle ++ rest ∧ front.length = 28 ∧ middle.length = 64 ∧
      rest.length = 21 + phone.length := by
  have size := numbered_length phone
  have positive := List.length_pos_iff.mpr nonempty
  refine ⟨(numbered phone).take 28, ((numbered phone).drop 28).take 64, ((numbered phone).drop 28).drop 64, ?_, ?_, ?_, ?_⟩
  · rw [List.append_assoc, List.take_append_drop, List.take_append_drop]
  · rw [List.length_take]
    omega
  · rw [List.length_take, List.length_drop]
    omega
  · rw [List.length_drop, List.length_drop]
    omega

section Fields

variable {strDateTime strIp strName strPhoneNum : Bytes}

/-- With fields that the transcoder returns on, the last insert throws exactly
for fewer than seven characters. -/
theorem packMsgToAlarm_throws_iff (phone : strPhoneNum ≠ []) (nonempty : strIp ≠ [])
    (shortDateTime : strDateTime.length < 2 ^ 32) (shortIp : strIp.length < 2 ^ 32)
    (shortName : strName.length < 2 ^ 32) :
    packMsgToAlarm strDateTime strIp strName strPhoneNum = .error .outOfRange ↔ strPhoneNum.length < 7 := by
  rcases numbered_cut phone with ⟨front, middle, rest, cut, frontSize, middleSize, restSize⟩
  rw [packMsgToAlarm_inserts phone nonempty shortDateTime shortIp shortName cut frontSize middleSize,
    insertAt_throws_iff]
  simp only [List.length_append, frontSize, middleSize, restSize]
  omega

/-- Packing does not throw exactly when the number has at least seven characters
or the transcoder does not return on some field. -/
theorem packMsgToAlarm_never_throws_iff (phone : strPhoneNum ≠ []) (nonempty : strIp ≠ []) :
    packMsgToAlarm strDateTime strIp strName strPhoneNum ≠ .error .outOfRange ↔
      7 ≤ strPhoneNum.length ∨
        (2 ^ 32 ≤ strDateTime.length ∨ 2 ^ 32 ≤ strIp.length ∨ 2 ^ 32 ≤ strName.length) := by
  by_cases long : 2 ^ 32 ≤ strDateTime.length ∨ 2 ^ 32 ≤ strIp.length ∨ 2 ^ 32 ≤ strName.length
  · rw [packMsgToAlarm_long phone nonempty long]
    exact iff_of_true (fun thrown => nomatch thrown) (Or.inr long)
  · rw [ne_eq, packMsgToAlarm_throws_iff phone nonempty (by omega) (by omega) (by omega)]
    omega

end Fields

/-- The number of a telephone with its country code. -/
theorem prefixed_number_packed :
    packMsgToAlarm (ascii "2024-1-2 3:4:5") (ascii "10.0.0.7") (ascii "gate") (ascii "+8613800000000") ≠
      .error .outOfRange :=
  (packMsgToAlarm_never_throws_iff (by decide) (by decide)).mpr (Or.inl (by decide))

/-- The number of a hot line. -/
theorem short_number_throws :
    ascii "10.0.0.7" ≠ [] ∧ ascii "10086" ≠ [] ∧
      packMsgToAlarm (ascii "2024-1-2 3:4:5") (ascii "10.0.0.7") (ascii "gate") (ascii "10086") =
        .error .outOfRange :=
  ⟨by decide, by decide,
    (packMsgToAlarm_throws_iff (by decide) (by decide) (by decide) (by decide) (by decide)).mpr (by decide)⟩

/-! ## Numbers that misplace the fields -/

/-- Text without a mark, put anywhere, does not bring the first mark closer. -/
theorem idxOf_insert_le {mark : UInt8} {inserted : Bytes} (clean : mark ∉ inserted) (front back : Bytes) :
    (front ++ back).idxOf mark ≤ (front ++ inserted ++ back).idxOf mark := by
  rw [List.append_assoc]
  by_cases early : mark ∈ front
  · rw [List.idxOf_append_of_mem early, List.idxOf_append_of_mem early]
  · rw [List.idxOf_append_of_notMem early, List.idxOf_append_of_notMem early, List.idxOf_append_of_notMem clean]
    omega

section Places

variable {strPhoneNum date name ip front middle back last : Bytes}

/-- A longer number puts the date before the end of the separator. -/
theorem misplaced_long (cut : numbered strPhoneNum = front ++ middle ++ (back ++ last)) (frontSize : front.length = 28)
    (long : 11 < strPhoneNum.length) (dateDigits : (0x22 : UInt8) ∉ date) (nameDigits : (0x22 : UInt8) ∉ name)
    (ipDigits : (0x22 : UInt8) ∉ ip) (some_date : date ≠ []) :
    front ++ date ++ middle ++ name ++ back ++ ip ++ last ≠
      frame strPhoneNum (date ++ eventText ++ name ++ addressText ++ ip) := by
  intro same
  -- the head of the command, up to its separator, is the front and more
  have head : (opening ++ strPhoneNum ++ separator) ++ (eventText ++ addressText ++ closing) =
      front ++ (middle ++ back ++ last) := by
    simp only [numbered, List.append_assoc] at cut ⊢
    exact cut
  rcases List.append_eq_append_iff.mp head with ⟨more, longer, -⟩ | ⟨more, headSplit, tailSplit⟩
  · have size := congrArg List.length longer
    simp only [List.length_append, opening_length, separator_length, frontSize] at size
    omega
  · have quoted : (0x22 : UInt8) ∈ more := by
      have size := congrArg List.length headSplit
      simp only [List.length_append, opening_length, separator_length, frontSize] at size
      have last_quote : (opening ++ strPhoneNum ++ separator).getLast? = some 0x22 := by
        rw [List.getLast?_append, show separator.getLast? = some 0x22 by decide]
        rfl
      have some_more : more ≠ [] := List.length_pos_iff.mp (by omega)
      rw [headSplit, List.getLast?_append_of_ne_nil _ some_more, List.getLast?_eq_some_getLast some_more] at last_quote
      exact Option.some.inj last_quote ▸ List.getLast_mem some_more
    have right : frame strPhoneNum (date ++ eventText ++ name ++ addressText ++ ip) =
        front ++ (more ++ (date ++ eventText ++ name ++ addressText ++ ip ++ closing)) := by
      rw [frame, headSplit]
      simp only [List.append_assoc]
    have left : front ++ date ++ middle ++ name ++ back ++ ip ++ last =
        front ++ (date ++ (middle ++ name ++ (back ++ ip ++ last))) := by
      simp only [List.append_assoc]
    rw [right, left] at same
    have marks := congrArg (List.idxOf 0x22) (List.append_cancel_left same)
    rw [List.idxOf_append_of_notMem dateDigits, List.idxOf_append_of_mem quoted] at marks
    have withoutName := idxOf_insert_le nameDigits middle (back ++ ip ++ last)
    have withoutIp := idxOf_insert_le ipDigits (middle ++ back) last
    have first : (middle ++ back ++ last).idxOf 0x22 = more.idxOf 0x22 := by
      rw [tailSplit, List.idxOf_append_of_mem quoted]
    have positive := List.length_pos_iff.mpr some_date
    simp only [← List.append_assoc] at withoutName withoutIp first marks
    omega

/-- A shorter number puts the address behind the quote that closes the text. -/
theorem misplaced_short (cut : numbered strPhoneNum = front ++ middle ++ (back ++ last))
    (frontSize : front.length = 28) (middleSize : middle.length = 64) (backSize : back.length = 28)
    (short : strPhoneNum.length < 11) (ipDigits : forall byte, byte ∈ ip -> IsHexDigit byte) (some_ip : ip ≠ []) :
    front ++ date ++ middle ++ name ++ back ++ ip ++ last ≠
      frame strPhoneNum (date ++ eventText ++ name ++ addressText ++ ip) := by
  intro same
  -- what is left behind the last cut is the end of the closing, and not all of it
  have tail : (opening ++ strPhoneNum ++ separator ++ eventText ++ addressText) ++ closing =
      (front ++ middle ++ back) ++ last := by
    simp only [numbered, List.append_assoc] at cut ⊢
    exact cut
  rcases List.append_eq_append_iff.mp tail with ⟨closed, inner, ends⟩ | ⟨more, longer, -⟩
  · have some_closed : closed ≠ [] := by
      have size := congrArg List.length inner
      simp only [List.length_append, opening_length, separator_length, eventText_length, addressText_length,
        frontSize, middleSize, backSize] at size
      exact List.length_pos_iff.mp (by omega)
    have right : frame strPhoneNum (date ++ eventText ++ name ++ addressText ++ ip) =
        (opening ++ strPhoneNum ++ separator ++ (date ++ eventText ++ name ++ addressText ++ ip) ++ closed) ++ last := by
      rw [frame, ends, List.append_assoc _ closed]
    rw [right] at same
    -- before that end stands the address on one side and a mark of the closing on the other
    have lasts := congrArg List.getLast? (List.append_cancel_right same)
    rw [List.getLast?_append_of_ne_nil _ some_ip, List.getLast?_append_of_ne_nil _ some_closed,
      List.getLast?_eq_some_getLast some_ip, List.getLast?_eq_some_getLast some_closed] at lasts
    have marks : forall byte, byte ∈ closing -> ¬ IsHexDigit byte := forall_mem_of_all (by decide)
    have inClosing : closed.getLast some_closed ∈ closing :=
      ends ▸ List.mem_append_left _ (List.getLast_mem some_closed)
    exact marks _ inClosing (Option.some.inj lasts ▸ ipDigits _ (List.getLast_mem some_ip))
  · have size := congrArg List.length longer
    simp only [List.length_append, opening_length, separator_length, eventText_length, addressText_length,
      frontSize, middleSize, backSize] at size
    omega

end Places

/-- What the transcoder returns is the transcoded text, and the text is short
enough for it. -/
theorem transcode_of_returned {text converted : Bytes} (returned : convertToUtf16Be text [] = .ok converted) :
    converted = transcode text ∧ text.length < 2 ^ 32 := by
  rcases Nat.lt_or_ge text.length (2 ^ 32) with short | long
  · rw [convertToUtf16Be_short short] at returned
    exact ⟨(Except.ok.inj returned).symm, short⟩
  · rw [convertToUtf16Be_long long] at returned
    cases returned

/-- A message with a date and an address in it is right only with a number of
eleven characters. -/
theorem eleven_of_right {strDateTime strIp strName strPhoneNum : Bytes} (phone : strPhoneNum ≠ [])
    (nonempty : strIp ≠ []) (shortDateTime : strDateTime.length < 2 ^ 32) (shortIp : strIp.length < 2 ^ 32)
    (shortName : strName.length < 2 ^ 32) (some_date : transcode strDateTime ≠ []) (some_ip : transcode strIp ≠ [])
    (packed : packMsgToAlarm strDateTime strIp strName strPhoneNum =
      .ok (frame strPhoneNum
        (transcode strDateTime ++ eventText ++ transcode strName ++ addressText ++ transcode strIp))) :
    strPhoneNum.length = 11 := by
  by_contra other
  have enough : ¬ strPhoneNum.length < 7 := by
    intro few
    rw [(packMsgToAlarm_throws_iff phone nonempty shortDateTime shortIp shortName).mpr few] at packed
    cases packed
  rcases numbered_cut phone with ⟨front, middle, rest, cut, frontSize, middleSize, restSize⟩
  have backSize : (rest.take 28).length = 28 := by
    rw [List.length_take]
    omega
  rw [← List.take_append_drop 28 rest] at cut
  rw [packMsgToAlarm_cut phone nonempty shortDateTime shortIp shortName cut frontSize middleSize backSize] at packed
  have quote : forall text, (0x22 : UInt8) ∉ transcode text :=
    fun text member => absurd (transcode_digits member) (by decide)
  rcases Nat.lt_or_gt_of_ne other with fewer | more
  · exact misplaced_short cut frontSize middleSize backSize fewer (fun _ member => transcode_digits member) some_ip
      (Except.ok.inj packed)
  · exact misplaced_long cut frontSize more (quote _) (quote _) (quote _) some_date (Except.ok.inj packed)

/-- Three fields of a message, with what the transcoder returns for them. -/
structure AlarmFields where
  dateTime : Bytes
  name : Bytes
  ip : Bytes
  dateTimeUtf16be : Bytes
  nameUtf16be : Bytes
  ipUtf16be : Bytes
  nonempty : ip ≠ []
  dateTimeReturned : convertToUtf16Be dateTime [] = .ok dateTimeUtf16be
  nameReturned : convertToUtf16Be name [] = .ok nameUtf16be
  ipReturned : convertToUtf16Be ip [] = .ok ipUtf16be

namespace AlarmFields

variable (fields : AlarmFields) (phone : Bytes)

/-- The message for a number has each field at its place. -/
def Placed : Prop :=
  packMsgToAlarm fields.dateTime fields.ip fields.name phone =
    .ok (frame phone
      (fields.dateTimeUtf16be ++ eventText ++ fields.nameUtf16be ++ addressText ++ fields.ipUtf16be))

variable {fields phone}

theorem placed_of_eleven (eleven : phone.length = 11) : fields.Placed phone := by
  rcases transcode_of_returned fields.dateTimeReturned with ⟨date, shortDateTime⟩
  rcases transcode_of_returned fields.nameReturned with ⟨name, shortName⟩
  rcases transcode_of_returned fields.ipReturned with ⟨ip, shortIp⟩
  rw [Placed, date, name, ip]
  exact packMsgToAlarm_eq eleven fields.nonempty shortDateTime shortIp shortName

theorem eleven_of_placed (some_phone : phone ≠ []) (some_date : fields.dateTimeUtf16be ≠ [])
    (some_ip : fields.ipUtf16be ≠ []) (placed : fields.Placed phone) : phone.length = 11 := by
  rcases transcode_of_returned fields.dateTimeReturned with ⟨date, shortDateTime⟩
  rcases transcode_of_returned fields.nameReturned with ⟨name, shortName⟩
  rcases transcode_of_returned fields.ipReturned with ⟨ip, shortIp⟩
  rw [Placed, date, name, ip] at placed
  rw [date] at some_date
  rw [ip] at some_ip
  exact eleven_of_right some_phone fields.nonempty shortDateTime shortIp shortName some_date some_ip placed

/-- The fields of a small message. -/
def digits : AlarmFields where
  dateTime := ascii "1"
  name := []
  ip := ascii "7"
  dateTimeUtf16be := ascii "0031"
  nameUtf16be := []
  ipUtf16be := ascii "0037"
  nonempty := by decide
  dateTimeReturned := by decide
  nameReturned := rfl
  ipReturned := by decide

end AlarmFields

/-- All fields are at their places exactly when the number has eleven
characters, and any one message with a date and an address in it tells. -/
theorem fields_placed_iff {phone : Bytes} (some_phone : phone ≠ []) :
    ((forall fields : AlarmFields, fields.Placed phone) ↔ phone.length = 11) ∧
    forall fields : AlarmFields, fields.dateTimeUtf16be ≠ [] -> fields.ipUtf16be ≠ [] ->
      (fields.Placed phone ↔ phone.length = 11) := by
  refine ⟨⟨?_, ?_⟩, ?_⟩
  · intro all
    exact AlarmFields.eleven_of_placed some_phone (show AlarmFields.digits.dateTimeUtf16be ≠ [] by decide)
      (by decide) (all AlarmFields.digits)
  · exact fun eleven fields => AlarmFields.placed_of_eleven eleven
  · intro fields some_date some_ip
    exact ⟨AlarmFields.eleven_of_placed some_phone some_date some_ip, AlarmFields.placed_of_eleven⟩

/-- The message for a telephone of eleven digits. -/
theorem plain_number_placed :
    ascii "13800000000" ≠ [] ∧ AlarmFields.digits.Placed (ascii "13800000000") :=
  ⟨by decide, (fields_placed_iff (by decide)).1.mpr (by decide) AlarmFields.digits⟩

/-- With a country code the date is written between the number and its closing
quote. -/
theorem prefixed_number_misplaced :
    ascii "+8613800000000" ≠ [] ∧ ¬ AlarmFields.digits.Placed (ascii "+8613800000000") := by
  refine ⟨by decide, ?_⟩
  intro placed
  exact absurd (AlarmFields.eleven_of_placed (by decide) (by decide) (by decide) placed) (by decide)

end SerialPort
end MotionDetectAlarm
