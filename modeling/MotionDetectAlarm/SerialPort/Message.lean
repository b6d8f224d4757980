import MotionDetectAlarm.SerialPort.Transcoder

namespace MotionDetectAlarm
namespace SerialPort

open Foundation

/-!
# The alarm message

`PackMsgToAlarm` builds the command that asks the modem to send a short
message.  It starts from a constant template and inserts the number, the date
and time, the name and the address, at positions that assume a number of
eleven characters and count the digits inserted before.

Two results are proved for numbers of eleven characters.  The fields cannot
break the framing of the command, whatever bytes they hold, and for text that
the transcoder knows the message reads back as its parts.  Both need the three
fields to be shorter than `2 ^ 32` bytes, since the transcoder does not return
on a longer one.
-/

/-! ## Packing -/

/-- The member `strMsgSent`, set by the constructor. -/
def strMsgSent : Bytes :=
  ascii "send_message(\"\",\"002053D1751F79FB52A84FA66D4B62A58B66000A644450CF673A540D79F0FF1A000A644450CF673A00490050FF1A\")\r\n"

def packMsgToAlarm (strDateTime strIp strName strPhoneNum : Bytes) : Except Fault Bytes :=
  if strIp.isEmpty || strPhoneNum.isEmpty then .ok []
  else do
    let strDataTimeUtf16be <- convertToUtf16Be strDateTime []
    let strIpUtf16be <- convertToUtf16Be strIp []
    let strNameUtf16be <- convertToUtf16Be strName []
    let pos := 14
    let strMsg <- insertAt strMsgSent pos strPhoneNum
    let pos := pos + (3 + 11)
    let strMsg <- insertAt strMsg pos strDataTimeUtf16be
    let pos := pos + (64 + strDataTimeUtf16be.length)
    let strMsg <- insertAt strMsg pos strNameUtf16be
    let pos := pos + (28 + strNameUtf16be.length)
    insertAt strMsg pos strIpUtf16be

/-! ## The parts of a message -/

def opening : Bytes := ascii "send_message(\""

def separator : Bytes := ascii "\",\""

/-- The text between the date and the name, in hexadecimal. -/
def eventText : Bytes := ascii "002053D1751F79FB52A84FA66D4B62A58B66000A644450CF673A540D79F0FF1A"

/-- The text between the name and the address, in hexadecimal. -/
def addressText : Bytes := ascii "000A644450CF673A00490050FF1A"

def closing : Bytes := ascii "\")\r\n"

/-- A command with this number and this text. -/
def frame (phone body : Bytes) : Bytes :=
  opening ++ phone ++ separator ++ body ++ closing

theorem strMsgSent_parts : strMsgSent = opening ++ (separator ++ (eventText ++ (addressText ++ closing))) := by
  decide +kernel

theorem opening_length : opening.length = 14 := by decide

theorem separator_length : separator.length = 3 := by decide

theorem eventText_length : eventText.length = 64 := by decide +kernel

theorem addressText_length : addressText.length = 28 := by decide

theorem closing_length : closing.length = 4 := by decide

/-- The template with the number in it. -/
def numbered (phone : Bytes) : Bytes :=
  opening ++ phone ++ separator ++ eventText ++ addressText ++ closing

theorem numbered_length (phone : Bytes) : (numbered phone).length = 113 + phone.length := by
  simp only [numbered, List.length_append, opening_length, separator_length, eventText_length, addressText_length,
    closing_length]
  omega

/-- The first three inserts cut the numbered template at 28 and 64 bytes
further on, whatever stands there. -/
theorem packMsgToAlarm_inserts {strDateTime strIp strName strPhoneNum front middle rest : Bytes}
    (phone : strPhoneNum ≠ []) (nonempty : strIp ≠ []) (shortDateTime : strDateTime.length < 2 ^ 32)
    (shortIp : strIp.length < 2 ^ 32) (shortName : strName.length < 2 ^ 32)
    (cut : numbered strPhoneNum = front ++ middle ++ rest) (frontSize : front.length = 28)
    (middleSize : middle.length = 64) :
    packMsgToAlarm strDateTime strIp strName strPhoneNum =
      insertAt (front ++ transcode strDateTime ++ middle ++ transcode strName ++ rest)
        (120 + (transcode strDateTime).length + (transcode strName).length) (transcode strIp) := by
  have some_ip : strIp.isEmpty = false := by simpa using nonempty
  have some_phone : strPhoneNum.isEmpty = false := by simpa using phone
  have phone_at : insertAt strMsgSent 14 strPhoneNum = .ok (front ++ (middle ++ rest)) := by
    rw [strMsgSent_parts, insertAt_append _ _ _ opening_length.symm, ← List.append_assoc front, ← cut]
    simp only [numbered, List.append_assoc]
  have date_at : insertAt (front ++ (middle ++ rest)) 28 (transcode strDateTime) =
      .ok (front ++ transcode strDateTime ++ middle ++ rest) := by
    rw [insertAt_append _ _ _ frontSize.symm, List.append_assoc _ middle]
  have name_at : insertAt (front ++ transcode strDateTime ++ middle ++ rest)
      (28 + (64 + (transcode strDateTime).length)) (transcode strName) =
        .ok (front ++ transcode strDateTime ++ middle ++ transcode strName ++ rest) := by
    apply insertAt_append
    simp only [List.length_append, frontSize, middleSize]
    omega
  have last_pos : 28 + (64 + (transcode strDateTime).length) + (28 + (transcode strName).length) =
      120 + (transcode strDateTime).length + (transcode strName).length := by
    omega
  simp only [packMsgToAlarm, some_ip, some_phone, convertToUtf16Be_short shortDateTime,
    convertToUtf16Be_short shortIp, convertToUtf16Be_short shortName, Bool.or_self, Bool.false_eq_true, if_false,
    List.nil_append, ok_bind, phone_at, Nat.reduceAdd, date_at, name_at, last_pos]

/-- The last insert cuts 28 bytes further on. -/
theorem packMsgToAlarm_cut {strDateTime strIp strName strPhoneNum front middle back last : Bytes}
    (phone : strPhoneNum ≠ []) (nonempty : strIp ≠ []) (shortDateTime : strDateTime.length < 2 ^ 32)
    (shortIp : strIp.length < 2 ^ 32) (shortName : strName.length < 2 ^ 32)
    (cut : numbered strPhoneNum = front ++ middle ++ (back ++ last)) (frontSize : front.length = 28)
    (middleSize : middle.length = 64) (backSize : back.length = 28) :
    packMsgToAlarm strDateTime strIp strName strPhoneNum =
      .ok (front ++ transcode strDateTime ++ middle ++ transcode strName ++ back ++ transcode strIp ++ last) := by
  rw [packMsgToAlarm_inserts phone nonempty shortDateTime shortIp shortName cut frontSize middleSize,
    ← List.append_assoc _ back last]
  apply insertAt_append
  simp only [List.length_append, frontSize, middleSize, backSize]
  omega

/-- With a number of eleven characters the four inserts hit the seams. -/
theorem packMsgToAlarm_eq {strDateTime strIp strName strPhoneNum : Bytes} (eleven : strPhoneNum.length = 11)
    (nonempty : strIp ≠ []) (shortDateTime : strDateTime.length < 2 ^ 32) (shortIp : strIp.length < 2 ^ 32)
    (shortName : strName.length < 2 ^ 32) :
    packMsgToAlarm strDateTime strIp strName strPhoneNum =
      .ok (frame strPhoneNum
        (transcode strDateTime ++ eventText ++ transcode strName ++ addressText ++ transcode strIp)) := by
  have phone : strPhoneNum ≠ [] := List.length_pos_iff.mp (by omega)
  have seam : (opening ++ strPhoneNum ++ separator).length = 28 := by
    simp only [List.length_append, opening_length, eleven, separator_length]
  have cut : numbered strPhoneNum =
      opening ++ strPhoneNum ++ separator ++ eventText ++ (addressText ++ closing) := by
    simp only [numbered, List.append_assoc]
  rw [packMsgToAlarm_cut phone nonempty shortDateTime shortIp shortName cut seam eventText_length addressText_length]
  simp only [frame, List.append_assoc]

/-- A message with a field that the transcoder does not return on is never
packed. -/
theorem packMsgToAlarm_long {strDateTime strIp strName strPhoneNum : Bytes} (phone : strPhoneNum ≠ [])
    (nonempty : strIp ≠ [])
    (long : 2 ^ 32 ≤ strDateTime.length ∨ 2 ^ 32 ≤ strIp.length ∨ 2 ^ 32 ≤ strName.length) :
    packMsgToAlarm strDateTime strIp strName strPhoneNum = .error .diverges := by
  have some_ip : strIp.isEmpty = false := by simpa using nonempty
  have some_phone : strPhoneNum.isEmpty = false := by simpa using phone
  simp only [packMsgToAlarm, some_ip, some_phone, Bool.or_self, Bool.false_eq_true, if_false, bind, Except.bind]
  rcases Nat.lt_or_ge strDateTime.length (2 ^ 32) with shortDateTime | longDateTime
  · rw [convertToUtf16Be_short shortDateTime]
    rcases Nat.lt_or_ge strIp.length (2 ^ 32) with shortIp | longIp
    · rw [convertToUtf16Be_short shortIp, convertToUtf16Be_long (by omega : 2 ^ 32 ≤ strName.length)]
    · rw [convertToUtf16Be_long longIp]
  · rw [convertToUtf16Be_long longDateTime]

/-- With a number of eleven characters no insert throws. -/
theorem packMsgToAlarm_ne_outOfRange {strDateTime strIp strName strPhoneNum : Bytes}
    (eleven : strPhoneNum.length = 11) :
    packMsgToAlarm strDateTime strIp strName strPhoneNum ≠ .error .outOfRange := by
  intro thrown
  have phone : strPhoneNum ≠ [] := by
    rintro rfl
    cases eleven
  by_cases nonempty : strIp = []
  · rw [packMsgToAlarm, nonempty] at thrown
    cases thrown
  · by_cases long : 2 ^ 32 ≤ strDateTime.length ∨ 2 ^ 32 ≤ strIp.length ∨ 2 ^ 32 ≤ strName.length
    · rw [packMsgToAlarm_long phone nonempty long] at thrown
      cases thrown
    · rw [packMsgToAlarm_eq eleven nonempty (by omega) (by omega) (by omega)] at thrown
      cases thrown

/-- Without an address or a number the message is empty. -/
theorem packMsgToAlarm_without {strDateTime strIp strName strPhoneNum : Bytes}
    (missing : strIp = [] ∨ strPhoneNum = []) : packMsgToAlarm strDateTime strIp strName strPhoneNum = .ok [] := by
  rw [packMsgToAlarm, if_pos (by simpa using missing)]

/-- A message that is packed at all is empty only then. -/
theorem packMsgToAlarm_eq_nil {strDateTime strIp strName strPhoneNum : Bytes}
    (packed : packMsgToAlarm strDateTime strIp strName strPhoneNum = .ok []) : strIp = [] ∨ strPhoneNum = [] := by
  unfold packMsgToAlarm at packed
  split at packed
  · rename_i blank
    simpa using blank
  · refine Or.inr ?_
    rcases exists_of_bind_eq_ok packed with ⟨date, -, packed⟩
    rcases exists_of_bind_eq_ok packed with ⟨ip, -, packed⟩
    rcases exists_of_bind_eq_ok packed with ⟨name, -, packed⟩
    rcases exists_of_bind_eq_ok packed with ⟨withPhone, phone_in, packed⟩
    rcases exists_of_bind_eq_ok packed with ⟨withDate, date_in, packed⟩
    rcases exists_of_bind_eq_ok packed with ⟨withName, name_in, ip_in⟩
    have afterPhone := insertAt_length phone_in
    have afterDate := insertAt_length date_in
    have afterName := insertAt_length name_in
    have afterIp := insertAt_length ip_in
    apply List.eq_nil_of_length_eq_zero
    rw [List.length_nil] at afterIp
    omega

/-! ## Framing -/

def IsDecimalDigit (byte : UInt8) : Prop :=
  0x30 ≤ byte ∧ byte ≤ 0x39

instance (byte : UInt8) : Decidable (IsDecimalDigit byte) :=
  inferInstanceAs (Decidable (_ ∧ _))

/-- A message is the command for this number with a text of whole groups of
digits, has no other quote than the four of the frame, and its only line feed
is its last byte. -/
structure WellFramed (phone : Bytes) (limit : Nat) (message : Bytes) : Prop where
  body : exists text, message = frame phone text ∧ (forall byte, byte ∈ text -> IsHexDigit byte) ∧
    4 ∣ text.length ∧ text.length ≤ limit
  quotes : message.count 0x22 = 4
  lineFeeds : message.count 0x0A = 1
  last : message.getLast? = some 0x0A

/-- Digits are neither quotes nor line feeds. -/
theorem count_eq_zero_of_digits {text : Bytes} {byte : UInt8} (mark : ¬ IsHexDigit byte)
    (digits : forall other, other ∈ text -> IsHexDigit other) : text.count byte = 0 :=
  List.count_eq_zero.mpr (fun member => mark (digits byte member))

/-- A frame around digits has the marks of the frame and no others. -/
theorem wellFramed_frame {phone text : Bytes} {limit : Nat}
    (number : forall byte, byte ∈ phone -> IsDecimalDigit byte)
    (digits : forall byte, byte ∈ text -> IsHexDigit byte) (groups : 4 ∣ text.length)
    (size : text.length ≤ limit) : WellFramed phone limit (frame phone text) := by
  have numeric : forall byte, byte ∈ phone -> IsHexDigit byte := fun byte member => Or.inl (number byte member)
  have quote : ¬ IsHexDigit 0x22 := by decide
  have feed : ¬ IsHexDigit 0x0A := by decide
  have marks : opening.count 0x22 = 1 ∧ separator.count 0x22 = 2 ∧ closing.count 0x22 = 1 ∧
      opening.count 0x0A = 0 ∧ separator.count 0x0A = 0 ∧ closing.count 0x0A = 1 := by
    decide
  refine ⟨⟨text, rfl, digits, groups, size⟩, ?_, ?_, ?_⟩
  · simp only [frame, List.count_append, count_eq_zero_of_digits quote numeric,
      count_eq_zero_of_digits quote digits, marks]
  · simp only [frame, List.count_append, count_eq_zero_of_digits feed numeric,
      count_eq_zero_of_digits feed digits, marks]
  · have last : closing.getLast? = some 0x0A := by decide
    rw [frame, List.getLast?_append, last]
    rfl

theorem transcode_digits {text : Bytes} {byte : UInt8} (member : byte ∈ transcode text) : IsHexDigit byte := by
  rw [transcode_eq] at member
  exact isHexDigit_of_mem_flatMap member

theorem transcode_length (text : Bytes) : (transcode text).length = 4 * (units text).length := by
  rw [transcode_eq, length_flatMap_hexGroup]

/-- The text of a message is whole groups of digits, whatever the fields are. -/
theorem body_digits (strDateTime strName strIp : Bytes) :
    (forall byte, byte ∈ transcode strDateTime ++ eventText ++ transcode strName ++ addressText ++ transcode strIp ->
        IsHexDigit byte) ∧
      4 ∣ (transcode strDateTime ++ eventText ++ transcode strName ++ addressText ++ transcode strIp).length ∧
      (transcode strDateTime ++ eventText ++ transcode strName ++ addressText ++ transcode strIp).length ≤
        92 + 4 * (strDateTime.length + strName.length + strIp.length) := by
  have event : forall byte, byte ∈ eventText -> IsHexDigit byte := forall_mem_of_all (by decide +kernel)
  have address : forall byte, byte ∈ addressText -> IsHexDigit byte := forall_mem_of_all (by decide +kernel)
  have date := length_units_le strDateTime
  have name := length_units_le strName
  have ip := length_units_le strIp
  refine ⟨?_, ?_, ?_⟩
  · intro byte member
    simp only [List.mem_append] at member
    rcases member with (((inDate | inEvent) | inName) | inAddress) | inIp
    · exact transcode_digits inDate
    · exact event byte inEvent
    · exact transcode_digits inName
    · exact address byte inAddress
    · exact transcode_digits inIp
  · simp only [List.length_append, transcode_length, eventText_length, addressText_length]
    omega
  · simp only [List.length_append, transcode_length, eventText_length, addressText_length]
    omega

/-- Fields of any bytes, each shorter than `2 ^ 32`, leave the command well
framed. -/
theorem packMsgToAlarm_wellFramed {strDateTime strIp strName strPhoneNum : Bytes}
    (eleven : strPhoneNum.length = 11) (number : forall byte, byte ∈ strPhoneNum -> IsDecimalDigit byte)
    (nonempty : strIp ≠ []) (shortDateTime : strDateTime.length < 2 ^ 32) (shortIp : strIp.length < 2 ^ 32)
    (shortName : strName.length < 2 ^ 32) :
    exists message, packMsgToAlarm strDateTime strIp strName strPhoneNum = .ok message ∧
      WellFramed strPhoneNum (92 + 4 * (strDateTime.length + strName.length + strIp.length)) message := by
  rcases body_digits strDateTime strName strIp with ⟨digits, groups, size⟩
  exact ⟨_, packMsgToAlarm_eq eleven nonempty shortDateTime shortIp shortName,
    wellFramed_frame number digits groups size⟩

/-- A name with quotes, a line end, a NUL and a truncated character. -/
theorem hostile_name_wellFramed :
    exists message, packMsgToAlarm (ascii "2024-1-2 3:4:5") (ascii "10.0.0.7")
        [0x22, 0x29, 0x0D, 0x0A, 0x00, 0xE4, 0xBD] (ascii "13800000000") = .ok message ∧
      WellFramed (ascii "13800000000") (92 + 4 * (14 + 7 + 8)) message :=
  packMsgToAlarm_wellFramed (by decide) (forall_mem_of_all (by decide)) (by decide) (by decide) (by decide)
    (by decide)

/-- A name of `2 ^ 32` letters. -/
def endlessName : List Char := List.replicate (2 ^ 32) 'A'

theorem endlessName_length : (utf8 endlessName).length = 2 ^ 32 := by
  have one : (String.utf8EncodeChar 'A').length = 1 := by decide
  rw [utf8, endlessName, List.length_flatMap, List.map_replicate, List.sum_replicate_nat, one, Nat.mul_one]

/-- With the endless name there is no message at all. -/
theorem endless_name_not_framed :
    (ascii "13800000000").length = 11 ∧ (forall byte, byte ∈ ascii "13800000000" -> IsDecimalDigit byte) ∧
      ascii "10.0.0.7" ≠ [] ∧
      ¬ exists message, packMsgToAlarm [] (ascii "10.0.0.7") (utf8 endlessName) (ascii "13800000000") = .ok message ∧
        WellFramed (ascii "13800000000") (92 + 4 * (0 + (utf8 endlessName).length + 8)) message := by
  refine ⟨by decide, forall_mem_of_all (by decide), by decide, ?_⟩
  rintro ⟨message, packed, -⟩
  have long := Nat.le_of_eq endlessName_length.symm
  rw [packMsgToAlarm_long (by decide) (by decide) (Or.inr (Or.inr long))] at packed
  cases packed

/-! ## Reading a message back -/

/-- The characters of the text between the date and the name. -/
def eventCharacters : List Char :=
  [0x0020, 0x53D1, 0x751F, 0x79FB, 0x52A8, 0x4FA6, 0x6D4B, 0x62A5, 0x8B66, 0x000A, 0x6444, 0x50CF, 0x673A,
    0x540D, 0x79F0, 0xFF1A].map Char.ofNat

/-- The characters of the text between the name and the address. -/
def addressCharacters : List Char :=
  [0x000A, 0x6444, 0x50CF, 0x673A, 0x0049, 0x0050, 0xFF1A].map Char.ofNat

theorem eventText_eq : eventText = (eventCharacters.map charUnit).flatMap hexGroup := by
  decide +kernel

theorem addressText_eq : addressText = (addressCharacters.map charUnit).flatMap hexGroup := by
  decide +kernel

theorem transcode_utf8 {characters : List Char}
    (either : forall character, character ∈ characters -> OneOrThree character) :
    transcode (utf8 characters) = (characters.map charUnit).flatMap hexGroup := by
  rw [transcode_eq, units_utf8 either]

/-- For texts of characters of one and of three bytes the message reads back
as its parts. -/
theorem packMsgToAlarm_reads_back {dateTime ip name : List Char} {strPhoneNum : Bytes}
    (eleven : strPhoneNum.length = 11) (nonempty : ip ≠ [])
    (dateChars : forall character, character ∈ dateTime -> OneOrThree character)
    (ipChars : forall character, character ∈ ip -> OneOrThree character)
    (nameChars : forall character, character ∈ name -> OneOrThree character)
    (shortDateTime : (utf8 dateTime).length < 2 ^ 32) (shortIp : (utf8 ip).length < 2 ^ 32)
    (shortName : (utf8 name).length < 2 ^ 32) :
    exists text, packMsgToAlarm (utf8 dateTime) (utf8 ip) (utf8 name) strPhoneNum = .ok (frame strPhoneNum text) ∧
      readUtf16Be text = some (dateTime ++ eventCharacters ++ name ++ addressCharacters ++ ip) := by
  have some_ip : utf8 ip ≠ [] := by
    cases ip with
    | nil => exact absurd rfl nonempty
    | cons first rest =>
        intro empty
        rw [utf8, List.flatMap_cons, List.append_eq_nil_iff] at empty
        exact String.utf8EncodeChar_ne_nil empty.1
  refine ⟨_, packMsgToAlarm_eq eleven some_ip shortDateTime shortIp shortName, ?_⟩
  rw [transcode_utf8 dateChars, transcode_utf8 ipChars, transcode_utf8 nameChars, eventText_eq, addressText_eq]
  simp only [← List.flatMap_append, ← List.map_append]
  apply readUtf16Be_write
  have event : forall character, character ∈ eventCharacters -> character.toNat < 2 ^ 16 :=
    forall_mem_of_all (by decide)
  have address : forall character, character ∈ addressCharacters -> character.toNat < 2 ^ 16 :=
    forall_mem_of_all (by decide)
  intro character member
  simp only [List.mem_append] at member
  rcases member with (((inDate | inEvent) | inName) | inAddress) | inIp
  · exact (dateChars character inDate).basic
  · exact event character inEvent
  · exact (nameChars character inName).basic
  · exact address character inAddress
  · exact (ipChars character inIp).basic

/-- A name that mixes characters of one and of three bytes. -/
theorem mixed_name_reads_back :
    exists text, packMsgToAlarm (utf8 ['1', ':', '2']) (utf8 ['1', '0', '.', '7']) (utf8 ['A', Char.ofNat 0x5927, '1'])
        (ascii "13800000000") = .ok (frame (ascii "13800000000") text) ∧
      readUtf16Be text = some (['1', ':', '2'] ++ eventCharacters ++ ['A', Char.ofNat 0x5927, '1'] ++
        addressCharacters ++ ['1', '0', '.', '7']) :=
  packMsgToAlarm_reads_back (by decide) (by decide) (forall_mem_of_all (by decide))
    (forall_mem_of_all (by decide)) (forall_mem_of_all (by decide)) (by decide) (by decide) (by decide)

/-- The endless name consists of characters of one byte, and no message with it
is ever returned. -/
theorem endless_name_not_read_back :
    (ascii "13800000000").length = 11 ∧ (forall character, character ∈ endlessName -> OneOrThree character) ∧
      (forall character, character ∈ ['7'] -> OneOrThree character) ∧
      ¬ exists text, packMsgToAlarm (utf8 []) (utf8 ['7']) (utf8 endlessName) (ascii "13800000000") =
          .ok (frame (ascii "13800000000") text) ∧
        readUtf16Be text = some ([] ++ eventCharacters ++ endlessName ++ addressCharacters ++ ['7']) := by
  refine ⟨by decide, ?_, ?_, ?_⟩
  · intro character member
    rw [List.eq_of_mem_replicate member]
    exact Or.inl (by decide)
  · intro character member
    rw [List.mem_singleton.mp member]
    exact Or.inl (by decide)
  · rintro ⟨text, packed, -⟩
    have long := Nat.le_of_eq endlessName_length.symm
    rw [packMsgToAlarm_long (by decide) (by decide) (Or.inr (Or.inr long))] at packed
    cases packed

end SerialPort
end MotionDetectAlarm
