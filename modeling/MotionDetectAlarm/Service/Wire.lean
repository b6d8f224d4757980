import MotionDetectAlarm.SerialPort.Modem
import MotionDetectAlarm.Service.Delivery
import MotionDetectAlarm.Service.Progress
import MotionDetectAlarm.Service.SendBuffer

namespace MotionDetectAlarm
namespace Service

open Foundation HikDev DataBase SerialPort

/-!
# What arrives at the modem

The parts of the service are put together here.  With a table whose texts the
transcoder knows and whose numbers have eleven digits, an open port that takes
every command in full, and at most 31 alarms waiting, the bytes on the line are
the commands of the alarms.

At any moment the lines that have left the port read back, in the order of the
alarms and of the numbers stored for each, as the number together with the date,
the name and the address.  The transmission may be cut off anywhere.
-/

/-- What a command says of the call that it was packed for. -/
structure Carries (call : PackCall) (message : Bytes × List Char) : Prop where
  number : message.1 = call.strPhoneNum
  text : exists dateTime name ip, call.strDateTime = utf8 dateTime ∧ call.strName = utf8 name ∧
    call.strIp = utf8 ip ∧ message.2 = dateTime ++ eventCharacters ++ name ++ addressCharacters ++ ip

/-- A row with numbers of eleven digits and with texts that the transcoder knows. -/
structure Readable (row : CameraRow) : Prop where
  numbers : forall phone, phone ∈ (row .phonenums).splitOn 0x2C ->
    phone.length = 11 ∧ forall byte, byte ∈ phone -> IsDecimalDigit byte
  countable : ((row .phonenums).splitOn 0x2C).length < 2 ^ 32
  name : exists characters, row .name = utf8 characters ∧ forall character, character ∈ characters -> OneOrThree character
  ip : exists characters, row .ip = utf8 characters ∧ forall character, character ∈ characters -> OneOrThree character
  shortName : (row .name).length < 2 ^ 32
  shortIp : (row .ip).length < 2 ^ 32

/-- Bytes below 128 are the characters with their codes. -/
theorem utf8_ascii {text : Bytes} (low : forall byte, byte ∈ text -> byte < 0x80) :
    utf8 (text.map (fun byte => Char.ofNat byte.toNat)) = text ∧
      forall character, character ∈ text.map (fun byte => Char.ofNat byte.toNat) -> OneOrThree character := by
  have code : forall byte : UInt8, byte < 0x80 -> (Char.ofNat byte.toNat).toNat = byte.toNat := by
    intro byte small
    have below : byte.toNat < 128 := UInt8.lt_iff_toNat_lt.mp small
    have valid : byte.toNat.isValidChar := Or.inl (by omega)
    rw [Char.ofNat, dif_pos valid]
    rfl
  constructor
  · induction text with
    | nil => rfl
    | cons byte rest ih =>
        have small := low byte List.mem_cons_self
        have below : byte.toNat < 128 := UInt8.lt_iff_toNat_lt.mp small
        have value := code byte small
        have single : String.utf8EncodeChar (Char.ofNat byte.toNat) = [byte] := by
          have same : (Char.ofNat byte.toNat).val.toNat = byte.toNat := value
          unfold String.utf8EncodeChar
          simp only [same]
          rw [if_pos (by omega)]
          simp
        rw [utf8, List.map_cons, List.flatMap_cons, single, List.singleton_append]
        exact congrArg _ (ih (fun other member => low other (List.mem_cons_of_mem _ member)))
  · intro character member
    rcases List.mem_map.mp member with ⟨byte, inText, rfl⟩
    have below : byte.toNat < 128 := UInt8.lt_iff_toNat_lt.mp (low byte inText)
    exact Or.inl (by rw [code byte (low byte inText)]; exact below)

/-- A message for readings of a readable table is one line, and it reads back as
what it was packed for. -/
theorem message_read {rows : List CameraRow} (readable : forall row, row ∈ rows -> Readable row)
    {reading : AlarmDateTime × Bytes} {call : PackCall} {message : Bytes} (announced : call ∈ announce rows reading)
    (packed : packMsgToAlarm call.strDateTime call.strIp call.strName call.strPhoneNum = .ok message) :
    IsLine lineFeed message ∧ exists command, readCommand message.dropLast = some command ∧ Carries call command := by
  unfold announce at announced
  split at announced
  · exact absurd announced List.not_mem_nil
  · rename_i some_ip
    split at announced
    · rename_i first last head at_end
      rcases List.mem_map.mp announced with ⟨phone, entry, rfl⟩
      have inFirst := List.mem_filter.mp (List.mem_of_mem_head? head)
      have inLast := List.mem_of_mem_filter (List.mem_of_getLast? at_end)
      have same : first .ip = reading.2 := of_decide_eq_true inFirst.2
      have there := readable first inFirst.1
      rcases (readable last inLast).numbers phone entry with ⟨eleven, number⟩
      rcases there.name with ⟨name, name_eq, nameChars⟩
      rcases there.ip with ⟨ip, ip_eq, ipChars⟩
      have shortName := there.shortName
      have shortIp := there.shortIp
      have shortDate := dataTimeText_length reading.1
      rw [same] at shortIp ip_eq
      have dateLow : forall byte, byte ∈ dataTimeText reading.1 -> byte < 0x80 :=
        fun _ member => dataTimeText_ascii member
      rcases utf8_ascii dateLow with ⟨date_eq, dateChars⟩
      rw [packMsgToAlarm_eq eleven some_ip (Nat.lt_of_le_of_lt shortDate (by decide)) shortIp shortName] at packed
      cases packed
      rcases body_digits (dataTimeText reading.1) (first .name) reading.2 with ⟨digits, -, -⟩
      have noQuote : ¬ IsHexDigit quote := by decide
      refine ⟨frame_isLine number digits, (phone, _), readCommand_frame (fun member => noQuote (Or.inl (number _ member)))
        (fun member => noQuote (digits _ member)) ?_, rfl, _, name, ip, date_eq.symm, name_eq, ip_eq, rfl⟩
      have basic : forall character, character ∈ (dataTimeText reading.1).map (fun byte => Char.ofNat byte.toNat) ++
          eventCharacters ++ name ++ addressCharacters ++ ip -> character.toNat < 2 ^ 16 := by
        have event : forall character, character ∈ eventCharacters -> character.toNat < 2 ^ 16 :=
          forall_mem_of_all (by decide)
        have address : forall character, character ∈ addressCharacters -> character.toNat < 2 ^ 16 :=
          forall_mem_of_all (by decide)
        intro character member
        simp only [List.mem_append] at member
        rcases member with (((inDate | inEvent) | inName) | inAddress) | inIp
        · exact (dateChars character inDate).basic
        · exact event character inEvent
        · exact (nameChars character inName).basic
        · exact address character inAddress
        · exact (ipChars character inIp).basic
      rw [name_eq, ip_eq, ← date_eq, transcode_utf8 dateChars, transcode_utf8 nameChars, transcode_utf8 ipChars,
        eventText_eq, addressText_eq]
      simp only [← List.flatMap_append, ← List.map_append]
      rw [date_eq]
      exact readUtf16Be_write _ basic
    · exact absurd announced List.not_mem_nil

namespace MainLoop

/-! ## Commands and calls -/

/-- A command was packed for a call that some readings gave rise to. -/
def Packed (rows : List CameraRow) (call : PackCall) (command : Bytes) : Prop :=
  (exists reading, call ∈ announce rows reading) ∧
    packMsgToAlarm call.strDateTime call.strIp call.strName call.strPhoneNum = .ok command

/-- The command of every call has been handed over, and nothing was thrown away. -/
structure Sent (rows : List CameraRow) (main : MainLoop) : Prop where
  announced : Announced rows main
  addressed : Addressed main.task
  normal : main.msgModuleCom.isnormal ≠ uartFalse
  packed : List.Forall₂ (Packed rows) main.calls main.commands
  kept : main.outlet.Kept

section Sent

variable {localtimeR : Int -> Tm} {rows : List CameraRow} {main after : MainLoop} {event : Event}

theorem Sent.start {dataBase : DataBaseOperate} {isnormal : Int32} (held : dataBase.Holds rows)
    (normal : isnormal ≠ uartFalse) : Sent rows (MainLoop.start dataBase isnormal) where
  announced := Announced.start held isnormal
  addressed := trivial
  normal := normal
  packed := .nil
  kept := start_kept dataBase isnormal

/-- The numbers of the table are not empty, so the flush is never reached. -/
theorem Sent.not_flush (sent : Sent rows main) (readable : forall row, row ∈ rows -> Readable row) (job : Job)
    (j : UInt32) : main.task ≠ .flush job j := by
  refine sent.addressed.not_flush sent.announced.sourced ?_ job j
  intro row inRows entry
  have eleven := ((readable row inRows).numbers [] entry).1
  cases eleven

/-- A round of the phone loop with a full write hands over the command of its
call. -/
theorem Sent.phoneRound {job : Job} {j : UInt32} (sent : Sent rows main)
    (readable : forall row, row ∈ rows -> Readable row) (here : main.task = .phones job j)
    (rounded : main.phoneRound job j .full = .ok after) :
    after.msgModuleCom.isnormal = main.msgModuleCom.isnormal ∧ List.Forall₂ (Packed rows) after.calls after.commands := by
  have addressed := sent.addressed
  have sourced := sent.announced.sourced
  have progress := sent.announced.progress
  rw [here] at addressed sourced progress
  rcases sourced with ⟨row, inRows, numbers⟩
  rcases progress with ⟨_, reading, -, announced, -⟩
  rcases phoneRound_cases rounded with ⟨-, rfl⟩ | ⟨strPhoneNum, buf, listed, packed, written⟩
  · exact ⟨rfl, sent.packed⟩
  · have entry := List.mem_of_getElem? listed
    have eleven := ((readable row inRows).numbers strPhoneNum (numbers ▸ entry)).1
    have call : Packed rows (job.call strPhoneNum) buf := ⟨⟨reading, announced ▸ List.mem_map_of_mem entry⟩, packed⟩
    rcases main.msgModuleCom.writeBuffer_full buf with ⟨broken, -⟩ | ⟨-, -, taken⟩ | ⟨-, nothing, -⟩
    · exact absurd broken sent.normal
    · rcases written with ⟨port, code, result, rfl⟩ | ⟨port, result, rfl⟩
      · cases taken.symm.trans result
        refine ⟨rfl, ?_⟩
        simp only [if_true]
        exact List.rel_append sent.packed (.cons call .nil)
      · cases taken.symm.trans result
    · rw [nothing] at packed
      rcases packMsgToAlarm_eq_nil packed with blank | blank
      · exact absurd blank addressed
      · rw [blank] at eleven
        cases eleven

theorem Sent.step (sent : Sent rows main) (readable : forall row, row ∈ rows -> Readable row)
    (stepped : fullStep localtimeR main event after) : Sent rows after := by
  have harmless : main.Harmless event := fun job j _ here _ => absurd here (sent.not_flush readable job j)
  have rest : after.msgModuleCom.isnormal = main.msgModuleCom.isnormal ∧
      List.Forall₂ (Packed rows) after.calls after.commands := by
    rcases stepped with ⟨stepped, full⟩
    cases event with
    | callback call =>
        rcases exists_of_map_eq_ok stepped with ⟨drain, -, rfl⟩
        exact ⟨rfl, sent.packed⟩
    | transmit number =>
        cases stepped
        exact ⟨rfl, sent.packed⟩
    | sigterm =>
        cases stepped
        exact ⟨rfl, sent.packed⟩
    | main outcome =>
        cases full outcome rfl
        rcases next_cases stepped with ⟨-, rfl⟩ | ⟨-, called⟩ | ⟨_, _, -, looked⟩ | ⟨job, j, here, rounded⟩ |
          ⟨job, j, here, -⟩ | ⟨_, -, rfl⟩
        · exact ⟨rfl, sent.packed⟩
        · rcases ringCall_cases called with ⟨drain, -, ⟨-, rfl⟩ | ⟨_, _, -, rfl⟩⟩ <;> exact ⟨rfl, sent.packed⟩
        · rcases lookup_cases looked with ⟨_, _, rfl, -⟩
          exact ⟨rfl, sent.packed⟩
        · exact sent.phoneRound readable here rounded
        · exact absurd here (sent.not_flush readable job j)
        · exact ⟨rfl, sent.packed⟩
  exact ⟨sent.announced.step stepped.1, fullStep_addressed stepped sent.addressed, rest.1 ▸ sent.normal, rest.2,
    fullStep_kept stepped harmless sent.kept⟩

end Sent

/-! ## Calls and alarms -/

/-- The calls are the first of those for the readings. -/
theorem calls_first {rows : List CameraRow} {main : MainLoop} (announced : Announced rows main)
    (countable : forall row, row ∈ rows -> ((row .phonenums).splitOn 0x2C).length < 2 ^ 32) :
    main.calls <+: main.drain.presented.flatMap (announce rows) := by
  have sourced := announced.sourced
  have progress := announced.progress
  cases here : main.task with
  | ring =>
      rw [here] at progress
      exact progress ▸ List.prefix_refl _
  | exited code =>
      rw [here] at progress
      exact progress.2 ▸ List.prefix_refl _
  | lookup strDataTime strAlarmIp =>
      rw [here] at progress
      rcases progress with ⟨before, read, entered, -, -, calls⟩
      rw [calls, entered, List.flatMap_append]
      exact List.prefix_append _ _
  | phones job j =>
      rw [here] at progress sourced
      rcases sourced with ⟨row, inRows, numbers⟩
      rcases progress with ⟨before, reading, entered, listed, calls⟩
      rw [calls (numbers ▸ countable row inRows), entered, List.flatMap_append, List.flatMap_singleton, listed]
      exact (List.prefix_append_right_inj _).mpr ((List.take_prefix _ _).map _)
  | flush job j =>
      rw [here] at progress sourced
      rcases sourced with ⟨row, inRows, numbers⟩
      rcases progress with ⟨before, reading, entered, listed, -, calls⟩
      rw [calls (numbers ▸ countable row inRows), entered, List.flatMap_append, List.flatMap_singleton, listed]
      exact (List.prefix_append_right_inj _).mpr ((List.take_prefix _ _).map _)

/-- With at most 31 alarms waiting, they are the first of those for the alarms. -/
theorem calls_first_arrivals {localtimeR : Int -> Tm} {tables : ResultSet} {dataBase : DataBaseOperate}
    {isnormal : Int32} {events : List Event} {main : MainLoop} (held : dataBase.Holds tables.loaded)
    (countable : forall row, row ∈ tables.loaded -> ((row .phonenums).splitOn 0x2C).length < 2 ^ 32)
    (run : Run (boundedStep localtimeR) (start dataBase isnormal) events main) :
    main.calls <+: (arrivals events).flatMap (notifications localtimeR tables) := by
  have steps := run.weaken (fun _ _ _ stepped => stepped.1)
  have presented := (drain_of_run run).2.1.presented_eq
  have shown : (arrivals events).flatMap (notifications localtimeR tables) =
      ((arrivals events).map (Drain.shown localtimeR)).flatMap (announce tables.loaded) := by
    rw [List.flatMap_map]
    congr 1
    funext alarm
    exact notifications_eq localtimeR tables alarm
  refine (calls_first (Announced.of_run held steps) countable).trans ?_
  rw [presented, published_of_run steps, shown]
  have first := (List.take_prefix (main.drain.released + main.drain.pass.finished) (arrivals events)).map
    (Drain.shown localtimeR)
  rcases first with ⟨others, whole⟩
  rw [← whole, List.flatMap_append]
  exact List.prefix_append _ _

/-! ## The line -/

/-- The steps of a service whose port takes every command in full, with at most
31 alarms waiting. -/
def lineStep (localtimeR : Int -> Tm) : MainLoop -> Event -> MainLoop -> Prop :=
  Guarded (fullStep localtimeR) (fun _ _ after => after.drain.Bounded)

/-- On a table that holds the rows the lines that have left the port in full read
back, in order, as the first of the commands for the alarms. -/
theorem modem_reads_of_held {tables : ResultSet} {dataBase : DataBaseOperate} {localtimeR : Int -> Tm}
    {isnormal : Int32} {events : List Event} {main : MainLoop} (held : dataBase.Holds tables.loaded)
    (readable : forall row, row ∈ tables.loaded -> Readable row) (normal : isnormal ≠ uartFalse)
    (run : Run (lineStep localtimeR) (start dataBase isnormal) events main) :
    exists messages, (completeLines lineFeed main.msgModuleCom.transmitted).map readCommand = messages.map some ∧
      List.Forall₂ Carries (((arrivals events).flatMap (notifications localtimeR tables)).take messages.length) messages ∧
      ((main.task = .ring ∨ exists code, main.task = .exited code) -> main.drain.pass = .head -> main.msgModuleCom.queue = [] ->
        messages.length =
          (((arrivals events).take main.drain.released).flatMap (notifications localtimeR tables)).length) := by
  have bounded : Run (boundedStep localtimeR) (start dataBase isnormal) events main :=
    run.weaken (fun _ _ _ stepped => ⟨stepped.1.1, stepped.2⟩)
  have sent : Sent tables.loaded main :=
    run.invariant (Sent tables.loaded) (Sent.start held normal) (fun _ _ _ sent stepped => sent.step readable stepped.1)
  have first := calls_first_arrivals held (fun row member => (readable row member).countable) bounded
  -- every command is one line that reads back as its call
  have lines : forall command, command ∈ main.commands -> IsLine lineFeed command := by
    intro command member
    rcases List.forall₂_iff_get.mp sent.packed with ⟨size, related⟩
    rcases List.mem_iff_getElem.mp member with ⟨k, inside, rfl⟩
    rcases related k (size ▸ inside) inside with ⟨⟨reading, announced⟩, packed⟩
    exact (message_read readable announced packed).1
  have kept : main.msgModuleCom.transmitted ++ main.msgModuleCom.queue = main.commands.flatten := sent.kept
  rcases completeLines_of_prefix lines ⟨main.msgModuleCom.queue, kept⟩ with ⟨number, few, read, all⟩
  have size := sent.packed.length_eq
  have reads : forall call command, Packed tables.loaded call command ->
      exists message, readCommand command.dropLast = some message ∧ Carries call message := by
    rintro call command ⟨⟨reading, announced⟩, packed⟩
    exact (message_read readable announced packed).2
  rcases forall₂_read (List.forall₂_take number sent.packed) reads with ⟨messages, values, carries⟩
  have count : messages.length = number := by
    rw [← carries.length_eq, List.length_take, size, Nat.min_eq_left few]
  refine ⟨messages, ?_, ?_, ?_⟩
  · rw [read, List.map_map]
    exact values
  · rcases first with ⟨others, whole⟩
    rw [← whole, List.take_append_of_le_length (by omega), count]
    exact carries
  · intro here head nothing
    rw [nothing, List.append_nil] at kept
    rw [count, all kept, ← size, calls_at_head held bounded head here]

/-- The lines that have left the port in full read back, in order, as the first
of the commands for the alarms; at the head of the loop with everything
transmitted they are those of all released alarms. -/
theorem modem_reads_alarms {session : MysqlSession} {table : CText} {tables : ResultSet} {dataBase : DataBaseOperate}
    {localtimeR : Int -> Tm} {isnormal : Int32} {events : List Event} {main : MainLoop}
    (stored : session.storeResult = some tables)
    (loaded : DataBaseOperate.empty.getCameraInfoFromDB (some session) (some table) = .ok (true, dataBase))
    (readable : forall row, row ∈ tables.loaded -> Readable row) (normal : isnormal ≠ uartFalse)
    (run : Run (lineStep localtimeR) (start dataBase isnormal) events main) :
    exists messages, (completeLines lineFeed main.msgModuleCom.transmitted).map readCommand = messages.map some ∧
      List.Forall₂ Carries (((arrivals events).flatMap (notifications localtimeR tables)).take messages.length) messages ∧
      (main.task = .ring -> main.drain.pass = .head -> main.msgModuleCom.queue = [] ->
        messages.length =
          (((arrivals events).take main.drain.released).flatMap (notifications localtimeR tables)).length) := by
  rcases modem_reads_of_held (holds_of_load stored loaded) readable normal run with ⟨messages, read, carries, all⟩
  exact ⟨messages, read, carries, fun here => all (Or.inl here)⟩

/-- One alarm is handled, and the driver transmits the first command and a part
of the second. -/
def lobbyLine : List Event := .callback lobbyCall :: List.replicate 8 (.main .full) ++ [.transmit 300]

theorem lobby_readable : forall row, row ∈ lobby.loaded -> Readable row := by
  have conditions : forall row, row ∈ lobby.loaded ->
      (forall phone, phone ∈ (row .phonenums).splitOn 0x2C ->
        phone.length = 11 ∧ forall byte, byte ∈ phone -> IsDecimalDigit byte) ∧
      ((row .phonenums).splitOn 0x2C).length < 2 ^ 32 ∧ row .name = utf8 ['l', 'o', 'b', 'b', 'y'] ∧
      row .ip = utf8 ['1', '0', '.', '0', '.', '0', '.', '7'] := by
    decide +kernel
  intro row member
  rcases conditions row member with ⟨numbers, countable, name, ip⟩
  exact {
    numbers := numbers
    countable := countable
    name := ⟨_, name, forall_mem_of_all (by decide)⟩
    ip := ⟨_, ip, forall_mem_of_all (by decide)⟩
    shortName := by rw [name]; decide
    shortIp := by rw [ip]; decide }

theorem lobby_read :
    exists main messages, Run (lineStep firstDayUtc) (start (afterLoad lobby) uartTrue) lobbyLine main ∧
      (completeLines lineFeed main.msgModuleCom.transmitted).map readCommand = messages.map some ∧
      List.Forall₂ Carries (((arrivals lobbyLine).flatMap (notifications firstDayUtc lobby)).take messages.length)
        messages ∧
      messages.map Prod.fst = [ascii "13800000003"] := by
  have viewed : (lobbyLine.foldlM (checked (advance firstDayUtc) .diverges
      (fun before event after => allFull before event after && decide after.drain.Bounded))
      (start (afterLoad lobby) uartTrue)).map
      (fun main => (completeLines lineFeed main.msgModuleCom.transmitted).map (fun line => (readCommand line).map Prod.fst)) =
      .ok [some (ascii "13800000003")] := by
    decide +kernel
  rcases exists_of_map_eq_ok viewed with ⟨main, executed, numbers⟩
  have run : Run (lineStep firstDayUtc) (start (afterLoad lobby) uartTrue) lobbyLine main := by
    refine (Run.of_checked executed).weaken ?_
    intro before event after stepped
    rcases stepped with ⟨stepped, passed⟩
    rw [Bool.and_eq_true] at passed
    refine ⟨⟨stepped, ?_⟩, of_decide_eq_true passed.2⟩
    rintro outcome rfl
    exact of_decide_eq_true passed.1
  rcases modem_reads_alarms rfl lobby_loaded lobby_readable (by decide) run with ⟨messages, read, carries, -⟩
  refine ⟨main, messages, run, read, carries, ?_⟩
  have firsts := congrArg (List.map (Option.map Prod.fst)) read
  rw [List.map_map, List.map_map] at firsts
  have same : (messages.map Prod.fst).map some = [ascii "13800000003"].map some := by
    rw [List.map_map]
    exact firsts.symm.trans numbers
  exact List.map_injective_iff.mpr (Option.some_injective _) same

end MainLoop

end Service
end MotionDetectAlarm
