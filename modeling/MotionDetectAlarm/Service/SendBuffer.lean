import MotionDetectAlarm.SerialPort.Seams
import MotionDetectAlarm.Service.MainLoop

namespace MotionDetectAlarm
namespace Service

open Foundation HikDev DataBase SerialPort

/-!
# The room for a message

`main` copies every message into an array of 512 bytes and does not look at its
length.  A message is the template, the number, and four digits for each
character of its three fields.  The date that `main` prints and an address
take a bounded part of the array; the name comes from the table as it is.
-/

/-- What `%u` prints is ASCII. -/
theorem formatUnsigned_ascii {value : UInt32} {byte : UInt8} (member : byte ∈ formatUnsigned value) : byte < 0x80 := by
  rcases List.mem_map.mp member with ⟨digit, printed, rfl⟩
  have decimal := Nat.isDigit_of_mem_toDigits (by decide) (by decide) printed
  rw [Char.isDigit, Bool.and_eq_true, decide_eq_true_iff, decide_eq_true_iff, UInt32.le_iff_toNat_le] at decimal
  have below : digit.toNat ≤ 57 := decimal.2
  rw [UInt8.lt_iff_toNat_lt, UInt8.toNat_ofNat', Nat.mod_eq_of_lt (by omega)]
  exact Nat.lt_of_le_of_lt below (by decide)

/-- So is the whole date. -/
theorem dataTimeText_ascii {read : AlarmDateTime} {byte : UInt8} (member : byte ∈ dataTimeText read) : byte < 0x80 := by
  have dash : forall byte, byte ∈ ascii "-" -> byte < 0x80 := forall_mem_of_all (by decide)
  have space : forall byte, byte ∈ ascii " " -> byte < 0x80 := forall_mem_of_all (by decide)
  have colon : forall byte, byte ∈ ascii ":" -> byte < 0x80 := forall_mem_of_all (by decide)
  have inside := List.mem_of_mem_take member
  simp only [List.mem_append] at inside
  rcases inside with (((((((((inYear | mark) | inMonth) | mark) | inDay) | mark) | inHour) | mark) | inMinute) | mark) | inSecond
  · exact formatUnsigned_ascii inYear
  · exact dash byte mark
  · exact formatUnsigned_ascii inMonth
  · exact dash byte mark
  · exact formatUnsigned_ascii inDay
  · exact space byte mark
  · exact formatUnsigned_ascii inHour
  · exact colon byte mark
  · exact formatUnsigned_ascii inMinute
  · exact colon byte mark
  · exact formatUnsigned_ascii inSecond

theorem dataTimeText_length (read : AlarmDateTime) : (dataTimeText read).length ≤ 127 :=
  List.length_take_le _ _

section Message

variable {ip : CharArray 128} {name phone : Bytes}

/-- The message for a number that is long enough for the last position, and an
address of any length, with its length. -/
theorem packed_length {strIp : Bytes} (read : AlarmDateTime) (some_ip : strIp ≠ []) (seven : 7 ≤ phone.length)
    (shortIp : strIp.length < 2 ^ 32) (short : name.length < 2 ^ 32) :
    exists message, packMsgToAlarm (dataTimeText read) strIp name phone = .ok message ∧
      message.length =
        113 + phone.length + 4 * ((dataTimeText read).length + characterCount name + characterCount strIp) := by
  have shortDate := dataTimeText_length read
  have some_phone : phone ≠ [] := List.length_pos_iff.mp (by omega)
  have date : characterCount (dataTimeText read) = (dataTimeText read).length :=
    characterCount_ascii (fun _ member => dataTimeText_ascii member)
  rcases numbered_cut some_phone with ⟨front, middle, rest, cut, frontSize, middleSize, restSize⟩
  have backSize : (rest.take 28).length = 28 := by
    rw [List.length_take]
    omega
  rw [← List.take_append_drop 28 rest] at cut
  refine ⟨_, packMsgToAlarm_cut some_phone some_ip (by omega) shortIp short cut frontSize middleSize backSize, ?_⟩
  simp only [List.length_append, List.length_drop, transcode_length, length_units, date, frontSize, middleSize,
    backSize, restSize]
  omega

/-- The message for a number of eleven characters, with its length. -/
theorem message_length (read : AlarmDateTime) (some_ip : ip.text ≠ []) (eleven : phone.length = 11)
    (short : name.length < 2 ^ 32) :
    exists message, packMsgToAlarm (dataTimeText read) ip.text name phone = .ok message ∧
      message.length = 124 + 4 * ((dataTimeText read).length + characterCount name + characterCount ip.text) := by
  have shortIp := ip.fits
  rcases packed_length read some_ip (show 7 ≤ phone.length by omega) (by omega) short with ⟨message, packed, length⟩
  exact ⟨message, packed, by omega⟩

theorem bufSent_iff (message : Bytes) : MainLoop.bufSent message = .ok message ↔ message.length ≤ 512 := by
  unfold MainLoop.bufSent
  split
  · rename_i fits
    exact iff_of_true rfl fits
  · rename_i overrun
    exact iff_of_false (fun copied => nomatch copied) overrun

/-- A message is packed and fits into the array exactly when it is the empty one
of an alarm without an address, or the transcoder returns on the name and the
three fields have at most 97 characters. -/
theorem message_fits_iff (read : AlarmDateTime) (eleven : phone.length = 11) :
    (exists message, packMsgToAlarm (dataTimeText read) ip.text name phone = .ok message ∧
        message.length ≤ 512 ∧ MainLoop.bufSent message = .ok message) ↔
      ip.text = [] ∨ name.length < 2 ^ 32 ∧
        (dataTimeText read).length + characterCount name + characterCount ip.text ≤ 97 := by
  rcases Decidable.em (ip.text = []) with no_ip | some_ip
  · have packed : packMsgToAlarm (dataTimeText read) ip.text name phone = .ok [] := by
      simp [packMsgToAlarm, no_ip]
    exact iff_of_true ⟨[], packed, Nat.zero_le _, (bufSent_iff []).mpr (Nat.zero_le _)⟩ (Or.inl no_ip)
  rw [or_iff_right some_ip]
  rcases Nat.lt_or_ge name.length (2 ^ 32) with short | long
  · rcases message_length read some_ip eleven short with ⟨message, packed, length⟩
    constructor
    · rintro ⟨other, again, fits, -⟩
      cases packed.symm.trans again
      exact ⟨short, by omega⟩
    · rintro ⟨-, few⟩
      have fits : message.length ≤ 512 := by omega
      exact ⟨message, packed, fits, (bufSent_iff message).mpr fits⟩
  · have phone_there : phone ≠ [] := List.length_pos_iff.mp (by omega)
    rw [packMsgToAlarm_long phone_there some_ip (Or.inr (Or.inr long))]
    constructor
    · rintro ⟨message, packed, -⟩
      cases packed
    · rintro ⟨short, -⟩
      exact absurd long (Nat.not_le.mpr short)

end Message

/-- The alarm of a new year. -/
def newYear : AlarmDateTime where
  uiYear := 2024
  uiMonth := 1
  uiDay := 1
  uiHour := 0
  uiMinute := 0
  uiSecond := 0

/-- The address of a camera as the SDK reports it. -/
def gateAddress : CharArray 128 where
  text := ascii "10.0.0.8"
  noNul := by decide
  fits := by decide

theorem gate_message_fits :
    exists message, packMsgToAlarm (dataTimeText newYear) gateAddress.text (ascii "gate") (ascii "13800000000") =
        .ok message ∧ message.length ≤ 512 ∧ MainLoop.bufSent message = .ok message :=
  (message_fits_iff newYear (by decide)).mpr (Or.inr ⟨by decide, by decide⟩)

/-- A name of eighty letters. -/
def longName : Bytes := List.replicate 80 0x41

/-- The message with the long name is written past the end of the array. -/
theorem long_name_overruns :
    exists message, packMsgToAlarm (dataTimeText newYear) gateAddress.text longName (ascii "13800000000") =
        .ok message ∧ ¬ message.length ≤ 512 ∧ MainLoop.bufSent message = .error .outOfBounds := by
  rcases message_length newYear (show gateAddress.text ≠ [] by decide) (show (ascii "13800000000").length = 11 by decide)
    (show longName.length < 2 ^ 32 by decide) with ⟨message, packed, length⟩
  have count : (dataTimeText newYear).length + characterCount longName + characterCount gateAddress.text = 102 := by
    decide
  have overrun : ¬ message.length ≤ 512 := by omega
  exact ⟨message, packed, overrun, if_neg overrun⟩

end Service
end MotionDetectAlarm
