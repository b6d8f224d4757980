import MotionDetectAlarm.Foundation.Bytes
import Mathlib.Data.List.FinRange

namespace MotionDetectAlarm
namespace HikDev

open Foundation

/-!
# The motion-detect alarm ring

`HikDevOperate` keeps the alarms that the camera SDK reports in a static array
of 32 records with a write index and a read index.  The SDK calls
`HikDevAlarmCallback` on a thread of its own; `main` counts the waiting alarms,
reads them by their position behind the read index, and then moves that index.

A callback is modelled store by store, in the order of the source: the three
fields of the record, the increment of the write index, and its wrap to zero.
The increment leaves the index at 32 until the wrap has happened.  The atomic
callback is the same five stores run without a break.

All index arithmetic is on 32-bit unsigned words, as in the source, and an
array access outside the 32 records is a fault, not a default value.
-/

/-! ## Data -/

/-- `NET_DVR_ALARMER`, with the fields that the alarm accessors read. -/
structure NetDvrAlarmer where
  byDeviceNameValid : UInt8
  byDeviceIPValid : UInt8
  sDeviceName : CharArray 32
  sDeviceIP : CharArray 128
  deriving DecidableEq

/-- `ALARM_MOTION_DETECT`, one record of the ring. -/
structure AlarmMotionDetect where
  struAlarmDevInfo : NetDvrAlarmer
  byChannel : UInt8
  alarmTime : Int
  deriving DecidableEq

/-- `NET_DVR_ALARMINFO_V30`, with the fields that the callback reads. -/
structure NetDvrAlarmInfoV30 where
  dwAlarmType : UInt32
  byChannel : Vector UInt8 64

/-- The arguments of one callback, and the clock value its `time` call stores.
`alarmInfo` is the buffer as the callback casts it. -/
structure AlarmCallback where
  lCommand : Int32
  pAlarmer : NetDvrAlarmer
  alarmInfo : NetDvrAlarmInfoV30
  now : Int

/-- The static variables of `HikDevOperate` that make up the ring. -/
structure AlarmRing where
  struAlarmMotionDetect : Vector AlarmMotionDetect 32
  dwAlarmMotionDetectWr : UInt32
  dwAlarmMotionDetectRd : UInt32

def commAlarmV30 : Int32 := 0x4000

def alarmMotionDetectMax : UInt32 := 32

/-- A record after `memset`. -/
def AlarmMotionDetect.zeroed : AlarmMotionDetect where
  struAlarmDevInfo :=
    { byDeviceNameValid := 0
      byDeviceIPValid := 0
      sDeviceName := CharArray.zeroed (by decide)
      sDeviceIP := CharArray.zeroed (by decide) }
  byChannel := 0
  alarmTime := 0

/-- The ring as the constructor `HikDevOperate()` leaves it. -/
def hikDevOperate : AlarmRing where
  struAlarmMotionDetect := Vector.replicate 32 AlarmMotionDetect.zeroed
  dwAlarmMotionDetectWr := 0
  dwAlarmMotionDetectRd := 0

/-! ## The callback -/

/-- The first channel with its flag set, which ends the channel loop. -/
def firstChannel (byChannel : Vector UInt8 64) : Option (Fin 64) :=
  (List.finRange 64).find? (fun i => byChannel[i] != 0)

/-- The record that a callback writes.  The other commands and alarm types,
and a motion alarm with no channel flagged, write none. -/
def AlarmCallback.record (call : AlarmCallback) : Option AlarmMotionDetect :=
  if call.lCommand = commAlarmV30 then
    if call.alarmInfo.dwAlarmType = 3 then
      (firstChannel call.alarmInfo.byChannel).map (fun i =>
        { struAlarmDevInfo := call.pAlarmer
          byChannel := UInt8.ofNat (i.val + 1)
          alarmTime := call.now })
    else none
  else none

/-- The stores of an accepted callback, in program order. -/
inductive Store where
  | devInfo
  | channel
  | time
  | advance
  | wrap
  deriving DecidableEq, Repr

def Store.program : List Store := [.devInfo, .channel, .time, .advance, .wrap]

/-- Update the record under the write index. -/
def AlarmRing.writeSlot (ring : AlarmRing) (update : AlarmMotionDetect -> AlarmMotionDetect) :
    Except Fault AlarmRing :=
  if inArray : ring.dwAlarmMotionDetectWr.toNat < 32 then
    .ok { ring with
      struAlarmMotionDetect := ring.struAlarmMotionDetect.set ring.dwAlarmMotionDetectWr.toNat
        (update ring.struAlarmMotionDetect[ring.dwAlarmMotionDetectWr.toNat]) inArray }
  else .error .outOfBounds

/-- Perform one store on behalf of a callback that writes `record`. -/
def AlarmRing.store (ring : AlarmRing) (record : AlarmMotionDetect) :
    Store -> Except Fault AlarmRing
  | .devInfo =>
      ring.writeSlot (fun slot => { slot with struAlarmDevInfo := record.struAlarmDevInfo })
  | .channel => ring.writeSlot (fun slot => { slot with byChannel := record.byChannel })
  | .time => ring.writeSlot (fun slot => { slot with alarmTime := record.alarmTime })
  | .advance => .ok { ring with dwAlarmMotionDetectWr := ring.dwAlarmMotionDetectWr + 1 }
  | .wrap =>
      .ok (if ring.dwAlarmMotionDetectWr ≥ alarmMotionDetectMax then
        { ring with dwAlarmMotionDetectWr := 0 } else ring)

/-- The callback run from start to end with nothing in between. -/
def AlarmRing.hikDevAlarmCallback (ring : AlarmRing) (call : AlarmCallback) :
    Except Fault AlarmRing :=
  match call.record with
  | none => .ok ring
  | some record => Store.program.foldlM (fun ring store => ring.store record store) ring

/-! ## The accessors of the consumer -/

def AlarmRing.hikDevGetAlarmNum (ring : AlarmRing) : UInt32 :=
  if ring.dwAlarmMotionDetectWr ≥ ring.dwAlarmMotionDetectRd then
    ring.dwAlarmMotionDetectWr - ring.dwAlarmMotionDetectRd
  else alarmMotionDetectMax - ring.dwAlarmMotionDetectRd + ring.dwAlarmMotionDetectWr

def AlarmRing.hikDevSetAlarmIdxOffset (ring : AlarmRing) (offset : UInt32) : AlarmRing :=
  let moved := ring.dwAlarmMotionDetectRd + offset
  { ring with
    dwAlarmMotionDetectRd := if moved ≥ alarmMotionDetectMax then moved - alarmMotionDetectMax else moved }

/-- The slot index that the three accessors compute in the same way. -/
def AlarmRing.slotIdx (ring : AlarmRing) (uiAlarmIdx : UInt32) : UInt32 :=
  let moved := uiAlarmIdx + ring.dwAlarmMotionDetectRd
  if moved ≥ alarmMotionDetectMax then moved - alarmMotionDetectMax else moved

/-- Read the record that an accessor addresses. -/
def AlarmRing.readSlot (ring : AlarmRing) (uiAlarmIdx : UInt32) : Except Fault AlarmMotionDetect :=
  match ring.struAlarmMotionDetect[(ring.slotIdx uiAlarmIdx).toNat]? with
  | some slot => .ok slot
  | none => .error .outOfBounds

/-- `struct tm`, with the fields that the accessor copies. -/
structure Tm where
  tmYear : Int32
  tmMon : Int32
  tmMday : Int32
  tmHour : Int32
  tmMin : Int32
  tmSec : Int32

/-- The six output arguments of `HikDevGetAlarmDateTime`. -/
structure AlarmDateTime where
  uiYear : UInt32
  uiMonth : UInt32
  uiDay : UInt32
  uiHour : UInt32
  uiMinute : UInt32
  uiSecond : UInt32
  deriving DecidableEq, Repr

/-- The casts and offsets applied to a broken-down time. -/
def Tm.alarmDateTime (tm : Tm) : AlarmDateTime where
  uiYear := tm.tmYear.toUInt32 + 1900
  uiMonth := tm.tmMon.toUInt32 + 1
  uiDay := tm.tmMday.toUInt32
  uiHour := tm.tmHour.toUInt32
  uiMinute := tm.tmMin.toUInt32
  uiSecond := tm.tmSec.toUInt32

/-- What `HikDevGetAlarmDateTime` reports of a record.  The time zone rules
of `localtime_r` are a parameter. -/
def AlarmMotionDetect.dateTime (localtimeR : Int -> Tm) (slot : AlarmMotionDetect) : AlarmDateTime :=
  (localtimeR slot.alarmTime).alarmDateTime

/-- `localtime_r` in the zone UTC, for the times of the first day. -/
def firstDayUtc (time : Int) : Tm where
  tmYear := 70
  tmMon := 0
  tmMday := 1
  tmHour := Int32.ofInt (time / 3600)
  tmMin := Int32.ofInt (time / 60 % 60)
  tmSec := Int32.ofInt (time % 60)

/-- Append a text when its flag is set, otherwise clear the string. -/
def appendIfValid (valid : UInt8) (text out : Bytes) : Bytes :=
  if valid ≠ 0 then out ++ text else []

def AlarmRing.hikDevGetAlarmDateTime (localtimeR : Int -> Tm) (ring : AlarmRing)
    (uiAlarmIdx : UInt32) : Except Fault AlarmDateTime :=
  (ring.readSlot uiAlarmIdx).map (AlarmMotionDetect.dateTime localtimeR)

def AlarmRing.hikDevGetAlarmIp (ring : AlarmRing) (uiAlarmIdx : UInt32) (strAlarmIp : Bytes) :
    Except Fault Bytes :=
  (ring.readSlot uiAlarmIdx).map (fun slot => appendIfValid slot.struAlarmDevInfo.byDeviceIPValid
    slot.struAlarmDevInfo.sDeviceIP.text strAlarmIp)

def AlarmRing.hikDevGetAlarmDevName (ring : AlarmRing) (uiAlarmIdx : UInt32)
    (strAlarmDevName : Bytes) : Except Fault Bytes :=
  (ring.readSlot uiAlarmIdx).map (fun slot => appendIfValid slot.struAlarmDevInfo.byDeviceNameValid
    slot.struAlarmDevInfo.sDeviceName.text strAlarmDevName)

/-- What `HikDevGetAlarmIp` reports of a record into an empty string. -/
def AlarmMotionDetect.ip (slot : AlarmMotionDetect) : Bytes :=
  appendIfValid slot.struAlarmDevInfo.byDeviceIPValid slot.struAlarmDevInfo.sDeviceIP.text []

/-! ## What the callback accepts -/

/-- A motion alarm of the V30 interface with at least one channel flagged. -/
def AlarmCallback.Accepted (call : AlarmCallback) : Prop :=
  call.lCommand = commAlarmV30 ∧ call.alarmInfo.dwAlarmType = 3 ∧
    exists i : Fin 64, call.alarmInfo.byChannel[i] ≠ 0

/-- The channel loop stops at the lowest flagged index. -/
theorem firstChannel_eq_some (byChannel : Vector UInt8 64) {i : Fin 64}
    (found : firstChannel byChannel = some i) :
    byChannel[i] ≠ 0 ∧ forall j : Fin 64, j < i -> byChannel[j] = 0 := by
  rw [firstChannel, List.find?_eq_some_iff_getElem] at found
  rcases found with ⟨flagged, position, bound, at_position, earlier⟩
  have value : position = i.val := by
    have := congrArg Fin.val at_position
    simpa using this
  refine ⟨by simpa using flagged, ?_⟩
  intro j below
  have unflagged := earlier j.val (by omega)
  simpa using unflagged

theorem firstChannel_eq_none (byChannel : Vector UInt8 64) :
    firstChannel byChannel = none ↔ forall i : Fin 64, byChannel[i] = 0 := by
  simp [firstChannel, List.find?_eq_none]

/-- The callback writes a record exactly when it is accepted. -/
theorem AlarmCallback.accepted_iff (call : AlarmCallback) :
    call.Accepted ↔ exists record, call.record = some record := by
  unfold Accepted record
  by_cases command : call.lCommand = commAlarmV30
  · by_cases type : call.alarmInfo.dwAlarmType = 3
    · simp only [command, type, if_true, true_and]
      cases found : firstChannel call.alarmInfo.byChannel with
      | none =>
          have quiet := (firstChannel_eq_none _).mp found
          simp [quiet]
      | some i =>
          have flagged := (firstChannel_eq_some _ found).1
          simp only [Option.map_some, Option.some.injEq, exists_eq', iff_true]
          exact ⟨i, flagged⟩
    · simp [type]
  · simp [command]

/-- An accepted callback writes the device it came from, one more than the
lowest flagged channel index, and the time it read. -/
theorem AlarmCallback.record_spec {call : AlarmCallback} {record : AlarmMotionDetect}
    (written : call.record = some record) :
    record.struAlarmDevInfo = call.pAlarmer ∧ record.alarmTime = call.now ∧
      exists i : Fin 64, call.alarmInfo.byChannel[i] ≠ 0 ∧
        (forall j : Fin 64, j < i -> call.alarmInfo.byChannel[j] = 0) ∧
        record.byChannel.toNat = i.val + 1 := by
  unfold AlarmCallback.record at written
  split at written
  · split at written
    · rcases Option.map_eq_some_iff.mp written with ⟨i, found, same⟩
      subst same
      have lowest := firstChannel_eq_some _ found
      refine ⟨rfl, rfl, i, lowest.1, lowest.2, ?_⟩
      have bound := i.isLt
      simp only [UInt8.toNat_ofNat']
      omega
    · cases written
  · cases written

/-! ## What the index arithmetic computes -/

section Arithmetic

variable {ring : AlarmRing}

theorem hikDevGetAlarmNum_toNat (wrLe : ring.dwAlarmMotionDetectWr.toNat ≤ 32)
    (rdLt : ring.dwAlarmMotionDetectRd.toNat < 32) :
    ring.hikDevGetAlarmNum.toNat =
      if ring.dwAlarmMotionDetectRd.toNat ≤ ring.dwAlarmMotionDetectWr.toNat then
        ring.dwAlarmMotionDetectWr.toNat - ring.dwAlarmMotionDetectRd.toNat
      else 32 - ring.dwAlarmMotionDetectRd.toNat + ring.dwAlarmMotionDetectWr.toNat := by
  unfold AlarmRing.hikDevGetAlarmNum
  by_cases ahead : ring.dwAlarmMotionDetectRd.toNat ≤ ring.dwAlarmMotionDetectWr.toNat
  · rw [if_pos (UInt32.le_iff_toNat_le.mpr ahead), if_pos ahead, UInt32.toNat_sub]
    omega
  · rw [if_neg (fun le => ahead (UInt32.le_iff_toNat_le.mp le)), if_neg ahead,
      UInt32.toNat_add, UInt32.toNat_sub]
    simp only [alarmMotionDetectMax, UInt32.reduceToNat]
    omega

/-- The correction after an addition to the read index: one subtraction is
enough for a sum below twice the size. -/
theorem corrected_toNat {left right : UInt32} (small : left.toNat + right.toNat < 64) :
    (if left + right ≥ alarmMotionDetectMax then left + right - alarmMotionDetectMax else left + right).toNat =
      (left.toNat + right.toNat) % 32 := by
  have sum : (left + right).toNat = left.toNat + right.toNat := by
    rw [UInt32.toNat_add]
    omega
  simp only [alarmMotionDetectMax, ge_iff_le, UInt32.le_iff_toNat_le, UInt32.reduceToNat]
  split
  · rw [UInt32.toNat_sub, sum]
    simp only [UInt32.reduceToNat]
    omega
  · rw [sum]
    omega

theorem hikDevSetAlarmIdxOffset_toNat {offset : UInt32}
    (rdLt : ring.dwAlarmMotionDetectRd.toNat < 32) (offsetLe : offset.toNat ≤ 32) :
    (ring.hikDevSetAlarmIdxOffset offset).dwAlarmMotionDetectRd.toNat =
      (ring.dwAlarmMotionDetectRd.toNat + offset.toNat) % 32 :=
  corrected_toNat (by omega)

theorem slotIdx_toNat {uiAlarmIdx : UInt32} (rdLt : ring.dwAlarmMotionDetectRd.toNat < 32)
    (idxLt : uiAlarmIdx.toNat < 32) :
    (ring.slotIdx uiAlarmIdx).toNat = (ring.dwAlarmMotionDetectRd.toNat + uiAlarmIdx.toNat) % 32 := by
  rw [Nat.add_comm]
  exact corrected_toNat (by omega)

end Arithmetic

/-! ## What the accessors report -/

section Accessors

variable {ring : AlarmRing} {uiAlarmIdx : UInt32} {slot : AlarmMotionDetect}

theorem hikDevGetAlarmDateTime_ok (localtimeR : Int -> Tm) (found : ring.readSlot uiAlarmIdx = .ok slot) :
    ring.hikDevGetAlarmDateTime localtimeR uiAlarmIdx = .ok (slot.dateTime localtimeR) := by
  rw [AlarmRing.hikDevGetAlarmDateTime, found]
  rfl

theorem hikDevGetAlarmIp_ok (found : ring.readSlot uiAlarmIdx = .ok slot) :
    ring.hikDevGetAlarmIp uiAlarmIdx [] = .ok slot.ip := by
  rw [AlarmRing.hikDevGetAlarmIp, found]
  rfl

/-- A reading fails only by leaving the array. -/
theorem readSlot_error {fault : Fault} (failed : ring.readSlot uiAlarmIdx = .error fault) :
    fault = .outOfBounds := by
  unfold AlarmRing.readSlot at failed
  split at failed
  · cases failed
  · exact (Except.error.inj failed).symm

end Accessors

/-! ## What the stores do -/

section Stores

variable {ring : AlarmRing} {record : AlarmMotionDetect}

theorem writeSlot_ok (wrLt : ring.dwAlarmMotionDetectWr.toNat < 32)
    (update : AlarmMotionDetect -> AlarmMotionDetect) :
    ring.writeSlot update = .ok { ring with
      struAlarmMotionDetect := ring.struAlarmMotionDetect.set ring.dwAlarmMotionDetectWr.toNat
        (update ring.struAlarmMotionDetect[ring.dwAlarmMotionDetectWr.toNat]) wrLt } := by
  rw [AlarmRing.writeSlot, dif_pos wrLt]

/-- The wrap takes an index of 32 back to zero and keeps every smaller one. -/
theorem store_wrap (record : AlarmMotionDetect) (wrLe : ring.dwAlarmMotionDetectWr.toNat ≤ 32) :
    exists wrapped : UInt32, ring.store record .wrap = .ok { ring with dwAlarmMotionDetectWr := wrapped } ∧
      wrapped.toNat = ring.dwAlarmMotionDetectWr.toNat % 32 := by
  simp only [AlarmRing.store, alarmMotionDetectMax, ge_iff_le, UInt32.le_iff_toNat_le, UInt32.reduceToNat]
  by_cases full : 32 ≤ ring.dwAlarmMotionDetectWr.toNat
  · refine ⟨0, by rw [if_pos full], ?_⟩
    simp only [UInt32.reduceToNat]
    omega
  · refine ⟨ring.dwAlarmMotionDetectWr, by rw [if_neg full], ?_⟩
    omega

theorem hikDevAlarmCallback_rejected {call : AlarmCallback} (rejected : call.record = none) :
    ring.hikDevAlarmCallback call = .ok ring := by
  rw [AlarmRing.hikDevAlarmCallback, rejected]

/-- An accepted callback fills the slot under the write index with its record
and moves the index on by one, modulo the size of the ring. -/
theorem hikDevAlarmCallback_accepted {call : AlarmCallback} (accepted : call.record = some record)
    (wrLt : ring.dwAlarmMotionDetectWr.toNat < 32) :
    exists moved : UInt32,
      ring.hikDevAlarmCallback call = .ok { ring with
        struAlarmMotionDetect :=
          ring.struAlarmMotionDetect.set ring.dwAlarmMotionDetectWr.toNat record wrLt
        dwAlarmMotionDetectWr := moved } ∧
      moved.toNat = (ring.dwAlarmMotionDetectWr.toNat + 1) % 32 := by
  have advanced := counter_succ_toNat wrLt (by decide)
  let filled : AlarmRing := { ring with
    struAlarmMotionDetect := ring.struAlarmMotionDetect.set ring.dwAlarmMotionDetectWr.toNat record wrLt
    dwAlarmMotionDetectWr := ring.dwAlarmMotionDetectWr + 1 }
  have wrLe : filled.dwAlarmMotionDetectWr.toNat ≤ 32 := by
    change (ring.dwAlarmMotionDetectWr + 1).toNat ≤ 32
    omega
  rcases store_wrap record wrLe with ⟨moved, stored, value⟩
  refine ⟨moved, ?_, by rw [value]; exact congrArg (· % 32) advanced⟩
  rw [AlarmRing.hikDevAlarmCallback, accepted]
  have fill : Store.program.foldlM (fun ring store => ring.store record store) ring =
      filled.store record .wrap := by
    simp [Store.program, AlarmRing.store, AlarmRing.writeSlot, wrLt, filled, bind, Except.bind,
      pure, Except.pure]
  exact fill.trans stored

end Stores

end HikDev
end MotionDetectAlarm
