import MotionDetectAlarm.HikDev.Indices
import MotionDetectAlarm.Service.Progress
import MotionDetectAlarm.Service.SendBuffer

namespace MotionDetectAlarm
namespace Service

open Foundation HikDev DataBase SerialPort

/-!
# No step faults

A step of the machine has no successor when it reads outside an array, throws,
overruns `BufSent` or never returns.  None of this depends on how the alarms
come: the indices of the ring stay valid however far the producer runs ahead.
It depends on the table, whose names and numbers go into the messages as they
are, and on how long the printed dates get.

A row is fit for messages when every entry of its numbers is empty or has seven
to eleven characters and its name and address leave room for the longest date.
With such rows every event finds the service able to go on.
-/

/-- A row whose messages fit into the array beside a date of this length. -/
structure Fit (room : Nat) (row : CameraRow) : Prop where
  numbers : forall phone, phone ∈ (row .phonenums).splitOn 0x2C ->
    phone = [] ∨ 7 ≤ phone.length ∧ phone.length ≤ 11
  ip : (row .ip).length < 2 ^ 32
  name : (row .name).length < 2 ^ 32
  fits : room + characterCount (row .name) + characterCount (row .ip) ≤ 97

/-- Six numbers of 32 bits and five signs between them. -/
theorem dataTimeText_length_le (read : AlarmDateTime) : (dataTimeText read).length ≤ 65 := by
  have number : forall value : UInt32, (formatUnsigned value).length ≤ 10 := by
    intro value
    rw [formatUnsigned, List.length_map]
    exact (Nat.length_toDigits_le_iff (by decide) (by decide)).mpr (Nat.lt_trans value.toNat_lt (by decide))
  have year := number read.uiYear
  have month := number read.uiMonth
  have day := number read.uiDay
  have hour := number read.uiHour
  have minute := number read.uiMinute
  have second := number read.uiSecond
  have dash : (ascii "-").length = 1 := by decide
  have space : (ascii " ").length = 1 := by decide
  have colon : (ascii ":").length = 1 := by decide
  refine Nat.le_trans (List.length_take_le' _ _) ?_
  simp only [List.length_append, dash, space, colon]
  omega

namespace MainLoop

/-- The dates that have been read are no longer than this. -/
structure Dated (room : Nat) (drain : Drain) : Prop where
  presented : forall reading, reading ∈ drain.presented -> (dataTimeText reading.1).length ≤ room
  current : forall uiAlarmNum i read, drain.pass = .ip uiAlarmNum i read -> (dataTimeText read).length ≤ room

section Dated

variable {localtimeR : Int -> Tm} {room : Nat} {drain next : Drain}

theorem Dated.start : Dated room Drain.start where
  presented := fun _ member => absurd member List.not_mem_nil
  current := fun _ _ _ here => nomatch here

theorem Dated.step (clock : forall time, (dataTimeText (localtimeR time).alarmDateTime).length ≤ room)
    (dated : Dated room drain) {event : Drain.Event} (stepped : Drain.step localtimeR drain event next) :
    Dated room next := by
  cases event with
  | callback call =>
      rcases Drain.callback_frame stepped with ⟨-, -, pass, presented⟩
      exact ⟨presented ▸ dated.presented, pass ▸ dated.current⟩
  | consume =>
      rcases Drain.consume_cases stepped with ⟨-, -, rfl⟩ | ⟨-, -, rfl⟩ | ⟨uiAlarmNum, i, slot, -, -, rfl⟩ |
        ⟨uiAlarmNum, i, read, slot, here, -, rfl⟩ | ⟨_, -, rfl⟩
      · exact dated
      · exact ⟨dated.presented, fun _ _ _ here => nomatch here⟩
      · refine ⟨dated.presented, ?_⟩
        rintro _ _ read here
        cases here
        exact clock slot.alarmTime
      · refine ⟨?_, ?_⟩
        · intro reading member
          rcases List.mem_append.mp member with earlier | last
          · exact dated.presented reading earlier
          · rw [List.mem_singleton.mp last]
            exact dated.current uiAlarmNum i read here
        · intro _ _ _ here
          by_cases more : i + 1 < uiAlarmNum
          · simp only [if_pos more] at here
            cases here
          · simp only [if_neg more] at here
            cases here
      · exact ⟨dated.presented, fun _ _ _ here => nomatch here⟩

end Dated

variable {localtimeR : Int -> Tm} {rows : List CameraRow} {room : Nat} {main : MainLoop}

/-- A ring call returns when the accessor does. -/
theorem ringCall_ok {drain : Drain} (consumed : main.drain.consume localtimeR = .ok drain) :
    exists after, main.ringCall localtimeR = .ok after := by
  rw [ringCall, consumed]
  cases here : main.drain.pass with
  | head => exact ⟨_, rfl⟩
  | dateTime uiAlarmNum i => exact ⟨_, rfl⟩
  | release uiAlarmNum => exact ⟨_, rfl⟩
  | ip uiAlarmNum i read =>
      rw [Drain.consume, here] at consumed
      rcases exists_of_map_eq_ok consumed with ⟨strAlarmIp, address, -⟩
      simp only [address]
      exact ⟨_, rfl⟩

/-- The lookups return on a table that the search can count through. -/
theorem lookup_ok (held : main.dataBase.Holds rows) (countable : rows.length < 2 ^ 32)
    (strDataTime strAlarmIp : Bytes) : exists after, main.lookup strDataTime strAlarmIp = .ok after := by
  rw [lookup, getCameraName_returns held countable]
  cases firstName rows strAlarmIp with
  | none => exact ⟨_, rfl⟩
  | some strAlarmDevName =>
      dsimp only
      cases main.dataBase.getCameraWarnPhone strAlarmIp with
      | none => exact ⟨_, rfl⟩
      | some vstrPhone => exact ⟨_, rfl⟩

/-- What is announced for readings of a fit table has a message that fits. -/
theorem announce_packed (fit : forall row, row ∈ rows -> Fit room row) {reading : AlarmDateTime × Bytes}
    (date : (dataTimeText reading.1).length ≤ room) {call : PackCall} (announced : call ∈ announce rows reading) :
    exists message, packMsgToAlarm call.strDateTime call.strIp call.strName call.strPhoneNum = .ok message ∧
      message.length ≤ 512 := by
  unfold announce at announced
  split at announced
  · exact absurd announced List.not_mem_nil
  · rename_i some_ip
    split at announced
    · rename_i first last head at_end
      rcases List.mem_map.mp announced with ⟨phone, entry, rfl⟩
      have inFirst := List.mem_filter.mp (List.mem_of_mem_head? head)
      have inLast := List.mem_of_mem_filter (List.mem_of_getLast? at_end)
      have same : first .ip = reading.2 := of_decide_eq_true inFirst.2
      have room_left := (fit first inFirst.1).fits
      have shortIp := (fit first inFirst.1).ip
      rw [same] at room_left shortIp
      rcases (fit last inLast).numbers phone entry with blank | ⟨seven, eleven⟩
      · exact ⟨[], packMsgToAlarm_without (Or.inr blank), Nat.zero_le _⟩
      · rcases packed_length reading.1 some_ip seven shortIp (fit first inFirst.1).name with ⟨message, packed, length⟩
        exact ⟨message, packed, by omega⟩
    · exact absurd announced List.not_mem_nil

/-- A round of the phone loop returns. -/
theorem phoneRound_ok {job : Job} {j : UInt32} (outcome : WriteOutcome)
    (packs : forall strPhoneNum, strPhoneNum ∈ job.vstrPhone ->
      exists message, job.packMsg strPhoneNum = .ok message ∧ message.length ≤ 512) :
    exists after, main.phoneRound job j outcome = .ok after := by
  unfold phoneRound
  cases found : job.vstrPhone[j.toNat]? with
  | none => exact ⟨_, rfl⟩
  | some strPhoneNum =>
      rcases packs strPhoneNum (List.mem_of_getElem? found) with ⟨message, packed, fits⟩
      simp only [packed, (bufSent_iff message).mpr fits]
      rcases main.msgModuleCom.writeBuffer outcome message with ⟨port, code | _⟩
      · exact ⟨_, rfl⟩
      · exact ⟨_, rfl⟩

/-- On a table that holds fit rows every event has a successor. -/
theorem step_ok {tables : ResultSet} {dataBase : DataBaseOperate} {isnormal : Int32} {events : List Event}
    (held : dataBase.Holds tables.loaded)
    (clock : forall time, (dataTimeText (localtimeR time).alarmDateTime).length ≤ room)
    (fit : forall row, row ∈ tables.loaded -> Fit room row) (countable : tables.loaded.length < 2 ^ 32)
    (run : Run (step localtimeR) (start dataBase isnormal) events main) (event : Event) :
    exists after, step localtimeR main event after := by
  have ready := run.invariant (Ready tables.loaded) (Ready.start held isnormal)
    (fun _ _ _ ready stepped => ready.step stepped)
  have dated : Dated room main.drain := by
    refine run.invariant (fun main : MainLoop => Dated room main.drain) Dated.start ?_
    intro before event after dated stepped
    rcases step_drain stepped with same | ⟨drainEvent, moved⟩
    · exact same ▸ dated
    · exact dated.step clock moved
  cases event with
  | callback call =>
      rcases Drain.callback_ok ready.counted call with ⟨drain, called, -⟩
      exact ⟨{ main with drain := drain }, by rw [step, advance, called]; rfl⟩
  | transmit number => exact ⟨_, rfl⟩
  | sigterm => exact ⟨_, rfl⟩
  | main outcome =>
      have progress := ready.announced.progress
      change exists after, main.next localtimeR outcome = .ok after
      unfold next
      cases here : main.task with
      | ring =>
          dsimp only
          split
          · exact ⟨_, rfl⟩
          · have consumes : exists drain, main.drain.consume localtimeR = .ok drain := Drain.consume_ok ready.counted
            rcases consumes with ⟨drain, consumed⟩
            exact ringCall_ok consumed
      | lookup strDataTime strAlarmIp => exact lookup_ok ready.announced.held countable strDataTime strAlarmIp
      | phones job j =>
          rw [here] at progress
          rcases progress with ⟨before, reading, entered, numbers, -⟩
          have date := dated.presented reading (entered ▸ List.mem_append_right _ (List.mem_singleton.mpr rfl))
          refine phoneRound_ok outcome ?_
          intro strPhoneNum listed
          exact announce_packed fit date (numbers ▸ List.mem_map_of_mem listed)
      | flush job j => exact ⟨_, rfl⟩
      | exited code => exact ⟨_, rfl⟩

/-- Whatever the callbacks, the driver and the signal do, and however far the
ring is overrun, with rows fit for messages every event has a successor. -/
theorem never_faults {session : MysqlSession} {table : CText} {tables : ResultSet} {dataBase : DataBaseOperate}
    {isnormal : Int32} {events : List Event}
    (stored : session.storeResult = some tables)
    (loaded : DataBaseOperate.empty.getCameraInfoFromDB (some session) (some table) = .ok (true, dataBase))
    (clock : forall time, (dataTimeText (localtimeR time).alarmDateTime).length ≤ room)
    (fit : forall row, row ∈ tables.loaded -> Fit room row) (countable : tables.loaded.length < 2 ^ 32)
    (run : Run (step localtimeR) (start dataBase isnormal) events main) (event : Event) :
    exists after, step localtimeR main event after :=
  step_ok (holds_of_load stored loaded) clock fit countable run event

theorem lobby_fit : forall row, row ∈ lobby.loaded -> Fit 65 row := by
  have conditions : forall row, row ∈ lobby.loaded ->
      (forall phone, phone ∈ (row .phonenums).splitOn 0x2C -> phone = [] ∨ 7 ≤ phone.length ∧ phone.length ≤ 11) ∧
        (row .ip).length < 2 ^ 32 ∧ (row .name).length < 2 ^ 32 ∧
        65 + characterCount (row .name) + characterCount (row .ip) ≤ 97 := by
    decide
  intro row member
  rcases conditions row member with ⟨numbers, ip, name, fits⟩
  exact ⟨numbers, ip, name, fits⟩

/-- Forty motion alarms before the first step of `main`. -/
def lobbyOverrun : List Event := List.replicate 40 (.callback lobbyCall)

theorem lobby_never_faults :
    exists main, Run (step firstDayUtc) (start (afterLoad lobby) uartTrue) lobbyOverrun main ∧
      forall event, exists after, step firstDayUtc main event after := by
  have viewed : (lobbyOverrun.foldlM (advance firstDayUtc) (start (afterLoad lobby) uartTrue)).map (fun _ => ()) =
      .ok () := by
    decide +kernel
  rcases exists_of_map_eq_ok viewed with ⟨main, executed, -⟩
  have run := Run.of_foldlM executed
  exact ⟨main, run, never_faults rfl lobby_loaded (fun time => dataTimeText_length_le _) lobby_fit (by decide) run⟩

end MainLoop

end Service
end MotionDetectAlarm
