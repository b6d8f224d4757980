import MotionDetectAlarm.Service.WholeRun

namespace MotionDetectAlarm
namespace Service

open Foundation DataBase HikDev SerialPort

/-!
# From the camera table to the modem

The two results that concern every part at once.  A modem at the port reads the
notifications for the alarms, those that came during the start before the others,
with the names and numbers of the table that the start has loaded.  And no input
makes the program fault, from its first line to its return, if the texts that it
copies fit the arrays they are copied to.
-/

namespace Program

variable {world : World} {runDirectory : RunDirectory} {events : List MainLoop.Event} {program after : Program}

/-! ## Over the wire -/

/-- Writes of this kind, and at most 31 waiting alarms. -/
def limited (writes : WriteOutcome -> Prop) (event : MainLoop.Event) (drain : Drain) : Prop :=
  (forall outcome, event = .main outcome -> writes outcome) ∧ drain.Bounded

/-- Only a step of `main` writes. -/
theorem limited_other {writes : WriteOutcome -> Prop} {event : MainLoop.Event} {drain : Drain}
    (other : event.ofMain = false) (bounded : drain.Bounded) : limited writes event drain := by
  refine ⟨?_, bounded⟩
  intro outcome written
  rw [written] at other
  cases other

theorem calm_limited (writes : WriteOutcome -> Prop) : Calm (limited writes) where
  start := limited_other rfl (Nat.zero_le _)
  keeps := fun _ _ permitted => limited_other rfl permitted.2

/-- The steps of a program whose port takes every command that is not empty in full,
with at most 31 alarms waiting. -/
def lineStep (world : World) : Program -> MainLoop.Event -> Program -> Prop :=
  permittedStep world (limited (fun outcome => outcome = .full))

/-- What has left the port of an untouched loop is nothing. -/
theorem untouched_reads {main : MainLoop} (untouched : main.Untouched) :
    completeLines lineFeed main.msgModuleCom.transmitted = [] := by
  rw [untouched.transmitted]
  exact completeLines_clean List.not_mem_nil

/-- The messages that a modem has read are, in order, the first of the notifications
for these alarms.  At the head of the loop and after the return, with everything
transmitted, they are those of all alarms that have been released. -/
structure ReadOf (localtimeR : Int -> Tm) (tables : ResultSet) (arrived : List AlarmMotionDetect) (main : MainLoop)
    (messages : List (Bytes × List Char)) : Prop where
  read : (completeLines lineFeed main.msgModuleCom.transmitted).map readCommand = messages.map some
  carries : List.Forall₂ Carries ((arrived.flatMap (notifications localtimeR tables)).take messages.length) messages
  complete : (main.task = .ring ∨ exists code, main.task = .exited code) -> main.drain.pass = .head ->
    main.msgModuleCom.queue = [] ->
    messages.length = ((arrived.take main.drain.released).flatMap (notifications localtimeR tables)).length

/-- What a modem has read in a run of the program is what it has read in the run of
its loop. -/
theorem wire_of_run {tables : ResultSet} (answers : world.Answers tables)
    (readable : forall row, row ∈ tables.loaded -> Readable row)
    (run : Run (lineStep world) (start runDirectory) events program) :
    exists messages, ReadOf world.localtimeR tables (MainLoop.arrivals events) program.main messages := by
  have sound := Sound.of_run (calm_limited _) run
  -- where nothing has been written there is nothing to read
  have silent : program.main.Untouched ->
      exists messages, ReadOf world.localtimeR tables (MainLoop.arrivals events) program.main messages := by
    intro untouched
    refine ⟨[], ?_, ?_, fun _ _ _ => ?_⟩
    · rw [untouched_reads untouched]
      rfl
    · rw [List.length_nil, List.take_zero]
      exact .nil
    · rw [untouched.released, List.take_zero]
      rfl
  cases inStart : program.stage.inStart with
  | true => exact silent (sound.waits inStart).untouched.1
  | false =>
      rcases sound.serves inStart with ⟨parsed, opened, started, loopEvents, -, starts, -, served, same, normal, idle⟩
      cases running : started.serviceRun with
      | false => exact silent (idle running).toUntouched
      | true =>
          rcases Host.startup_loaded starts running with ⟨_, _, _, _, _, session, others, made, stored, held⟩
          cases answers _ _ _ _ _ _ _ made stored
          have onLoop : Run (MainLoop.lineStep world.localtimeR) (MainLoop.start started.dataBase opened.isnormal) loopEvents
              program.main :=
            served.weaken (fun _ _ _ stepped => ⟨⟨stepped.1, stepped.2.1⟩, stepped.2.2⟩)
          rw [← same]
          rcases MainLoop.modem_reads_of_held held readable (normal running) onLoop with
            ⟨messages, read, carries, complete⟩
          exact ⟨messages, read, carries, complete⟩

/-- The lines that have left the port in full read back, in order, as the first of
the notifications for the alarms of the whole run, those of the start included. -/
theorem modem_reads_run {tables : ResultSet} (answers : world.Answers tables)
    (readable : forall row, row ∈ tables.loaded -> Readable row)
    (run : Run (lineStep world) (start runDirectory) events program) :
    exists messages, ReadOf world.localtimeR tables (MainLoop.arrivals events) program.main messages :=
  wire_of_run answers readable run

/-- An alarm during the start, the steps to its announcement, and a part of the
transmission. -/
def lobbyLine : List MainLoop.Event :=
  lobbyStart ++ List.replicate 8 (.main .full) ++ [.transmit 300]

theorem lobby_run_read :
    exists program messages, Run (lineStep lobbyWorld) (start .missing) lobbyLine program ∧
      (completeLines lineFeed program.main.msgModuleCom.transmitted).map readCommand = messages.map some ∧
      List.Forall₂ Carries
        (((MainLoop.arrivals lobbyLine).flatMap (notifications firstDayUtc lobby)).take messages.length) messages ∧
      messages.length = 1 := by
  have viewed : (lobbyLine.foldlM (checked (advance lobbyWorld) .diverges
      (fun before event after => MainLoop.allFull before.main event after.main && decide after.main.drain.Bounded))
      (start .missing)).map
      (fun program => (completeLines lineFeed program.main.msgModuleCom.transmitted).length) = .ok 1 := by
    decide +kernel
  rcases exists_of_map_eq_ok viewed with ⟨program, executed, number⟩
  have run : Run (lineStep lobbyWorld) (start .missing) lobbyLine program := by
    refine (Run.of_checked executed).weaken ?_
    rintro before event after ⟨stepped, passed⟩
    rw [Bool.and_eq_true] at passed
    refine ⟨stepped, ?_, of_decide_eq_true passed.2⟩
    rintro outcome rfl
    exact of_decide_eq_true passed.1
  rcases modem_reads_run lobbyWorld_answers MainLoop.lobby_readable run with ⟨messages, ⟨read, carries, -⟩⟩
  refine ⟨program, messages, run, read, carries, ?_⟩
  have size := congrArg List.length read
  rw [List.length_map, List.length_map, number] at size
  exact size.symm

/-! ## No fault -/

section Start

variable {tables : ResultSet} {room : Nat}

/-- The rounds behind the arrays find words that can be read. -/
theorem openPort_returns {behind : Behind} (readable : forall i, 7 ≤ i -> i < sizeofSpeedArr -> (behind i).isSome)
    (tty : Tty) (isnormal : Int32) (baundrate databite stopbite : UInt32) (parity : UInt8) :
    exists opened, tty.openPort behind isnormal baundrate databite stopbite parity = .ok opened := by
  have rounds : forall options, exists after, speedRounds behind baundrate options = .ok after := by
    intro options
    apply foldlM_returns
    intro i member before
    rw [speedRound, readArrays]
    split
    · exact ⟨_, rfl⟩
    · rename_i past
      rcases Option.isSome_iff_exists.mp (readable i (Nat.le_of_not_lt past) (List.mem_range.mp member)) with
        ⟨words, found⟩
      rw [found]
      exact ⟨_, rfl⟩
  unfold Tty.openPort
  split
  · exact ⟨_, rfl⟩
  · rw [Tty.set]
    cases tty.tcgetattr with
    | none => exact ⟨_, rfl⟩
    | some options =>
        rcases rounds options with ⟨after, done⟩
        simp only [done]
        exact ⟨_, rfl⟩

/-- The query fits into its array, so a connection returns. -/
theorem connect_returns {host : Host} (short : (cStr host.dbCfg.dbTable).text.length < 50) :
    exists answer, host.connect = .ok answer := by
  have query : exists query, queryCmd (cStr host.dbCfg.dbTable) = .ok query := by
    have literal : (ascii "select * from ").length = 14 := by decide
    refine ⟨_, if_pos ?_⟩
    rw [List.length_append, literal]
    omega
  rcases query with ⟨query, built⟩
  rcases connectDataBase_cases (show _ = host.connect from rfl) with failed | ⟨session, -, loaded⟩
  · exact ⟨_, failed⟩
  · rw [loaded]
    simp only [DataBaseOperate.getCameraInfoFromDB, built]
    split
    · exact ⟨_, rfl⟩
    · split
      · exact ⟨_, rfl⟩
      · cases session.storeResult with
        | none => exact ⟨_, rfl⟩
        | some tables =>
            rcases loadResult_returns (show ({ DataBaseOperate.empty with cameraInfoName := fun _ => missingOffset } :
              DataBaseOperate).cameraInfoName = _ from rfl) tables with ⟨returned, after, result, -⟩
            exact ⟨_, result⟩

/-- The texts of a row fit into the record of a login. -/
structure LoginFits (row : CameraRow) : Prop where
  ip : (cStr (row .ip)).text.length < 129
  username : (cStr (row .username)).text.length < 64
  password : (cStr (row .password)).text.length < 64

/-- A camera that is not skipped is called with the texts of its row. -/
theorem devHandl_texts {dataBase : DataBaseOperate} {rows : List CameraRow} (held : dataBase.Holds rows) {i : Nat}
    {devHdl : HikDevHandl} {after : DataBaseOperate} (asked : devHandl dataBase i = (some devHdl, after)) :
    exists row, row ∈ rows ∧ devHdl.sDevIp = row .ip ∧ devHdl.sDevUserName = row .username ∧
      devHdl.sDevPassword = row .password := by
  have ip := fieldAt_held held (show CameraField.ip ≠ .phonenums by decide) i
  have loginPort := fieldAt_held held (show CameraField.loginPort ≠ .phonenums by decide) i
  have username := fieldAt_held held (show CameraField.username ≠ .phonenums by decide) i
  have password := fieldAt_held held (show CameraField.password ≠ .phonenums by decide) i
  cases found : rows[i]? with
  | none =>
      rw [found] at ip
      simp [devHandl, DataBaseOperate.getCameraIp, ip] at asked
  | some row =>
      rw [found] at ip loginPort username password
      refine ⟨row, List.mem_of_getElem? found, ?_⟩
      by_cases empty : (row .ip).isEmpty
      · simp [devHandl, DataBaseOperate.getCameraIp, ip, empty] at asked
      · cases port : strToUint (row .loginPort) with
        | none =>
            simp [devHandl, DataBaseOperate.getCameraIp, DataBaseOperate.getCameraPort, ip, loginPort, empty, port] at asked
        | some port =>
            simp [devHandl, DataBaseOperate.getCameraIp, DataBaseOperate.getCameraPort,
              DataBaseOperate.getCameraUserName, DataBaseOperate.getCameraPasswd, ip, loginPort, username, password,
              empty, port] at asked
            rw [← asked.1]
            exact ⟨rfl, rfl, rfl⟩

/-- Texts that fit are copied into the record of a login. -/
theorem hikDevLogin_returns {devHdl : HikDevHandl} (ip : (cStr devHdl.sDevIp).text.length < 129)
    (username : (cStr devHdl.sDevUserName).text.length < 64) (password : (cStr devHdl.sDevPassword).text.length < 64) :
    exists info, devHdl.hikDevLogin = .ok info := by
  have address : strcpy (cStr devHdl.sDevIp) = .ok (⟨_, (cStr devHdl.sDevIp).noNul, ip⟩ : CharArray 129) := dif_pos ip
  have user : strcpy (cStr devHdl.sDevUserName) = .ok (⟨_, (cStr devHdl.sDevUserName).noNul, username⟩ : CharArray 64) :=
    dif_pos username
  have secret : strcpy (cStr devHdl.sDevPassword) = .ok (⟨_, (cStr devHdl.sDevPassword).noNul, password⟩ : CharArray 64) :=
    dif_pos password
  rw [HikDevHandl.hikDevLogin, address, ok_bind, user, ok_bind, secret, ok_bind]
  exact ⟨_, rfl⟩

/-- A round of the login loop copies the texts of one row. -/
theorem round_returns {rows : List CameraRow} {cameras : Subscribing} (held : cameras.dataBase.Holds rows)
    (logins : forall row, row ∈ rows -> LoginFits row) (sdk : Sdk) (i : Nat) :
    exists after, cameras.round sdk i = .ok after := by
  unfold Subscribing.round
  rcases asked : devHandl cameras.dataBase i with ⟨_ | devHdl, after⟩
  · exact ⟨_, rfl⟩
  · rcases devHandl_texts held asked with ⟨row, member, ip, username, password⟩
    have fits := logins row member
    rcases hikDevLogin_returns (ip ▸ fits.ip) (username ▸ fits.username) (password ▸ fits.password) with
      ⟨info, copied⟩
    simp only [HikDevOperate.hikDevLogin, copied]
    exact ⟨_, rfl⟩

end Start

/-- The texts that the program copies fit where they are copied to: the lines of
its configuration, the name of its table, and those of each row.  The memory
behind the two arrays of rates can be read. -/
structure Within (world : World) (tables : ResultSet) (room : Nat) : Prop where
  config : exists file, world.fopen CsvParse.csvPath = .ok file ∧ CsvParse.Readable file ∧ CsvParse.Short file
  table : forall parsed dbCfg, world.Parses parsed dbCfg -> (cStr dbCfg.dbCfg.dbTable).text.length < 50
  answers : world.Answers tables
  countable : tables.loaded.length < 2 ^ 32
  logins : forall row, row ∈ tables.loaded -> LoginFits row
  arrays : forall i, 7 ≤ i -> i < sizeofSpeedArr -> (world.behind i).isSome
  clock : forall time, (dataTimeText (world.localtimeR time).alarmDateTime).length ≤ room
  messages : forall row, row ∈ tables.loaded -> Fit room row

section Within

variable {tables : ResultSet} {room : Nat}

theorem Within.parses (within : Within world tables room) : exists parsed dbCfg, world.Parses parsed dbCfg := by
  rcases within.config with ⟨file, found, readable, short⟩
  rcases CsvParse.parseCsvData_cases found short .constructed world.buffer with
    ⟨-, -, called⟩ | ⟨-, indices, -, -, -, called⟩ | ⟨refused, -⟩
  · exact ⟨_, _, called⟩
  · exact ⟨_, _, called⟩
  · exact absurd readable refused

/-- The rounds of the login loop so far have left the table alone. -/
theorem Within.camera (within : Within world tables room) {i cameraNum : Nat}
    (came : Came world runDirectory program (.camera i cameraNum)) :
    exists after, program.camera world i cameraNum = .ok after := by
  rcases came with ⟨parsed, ret, loaded, -, connected, number, -, looped, -⟩
  rw [Program.camera]
  split
  · rename_i more
    have held : loaded.Holds tables.loaded := by
      rcases connect_loaded within.answers connected with none_loaded | held
      · rw [number, DataBaseOperate.getCameraNum, none_loaded] at more
        exact absurd more (Nat.not_lt_zero i)
      · exact held
    have start : Follows world.sdk { dataBase := loaded, made := [] } { dataBase := loaded, operate := .constructed } :=
      ⟨rfl, .nil⟩
    rcases (Alike.foldlM (fun i follows => round_follows i follows) _ start).exists_first looped with
      ⟨logins, made, same, -⟩
    have now : program.main.dataBase = loaded := same.trans (loop_sourced held made).1
    have holds : program.main.dataBase.Holds tables.loaded := now ▸ held
    let cameras : Subscribing := { dataBase := program.main.dataBase, operate := program.operate }
    have rounds : exists after, cameras.round world.sdk i = .ok after := round_returns holds within.logins world.sdk i
    rcases rounds with ⟨after, rounded⟩
    rw [rounded]
    exact ⟨_, rfl⟩
  · exact ⟨_, rfl⟩

/-- A turn of the loop returns: the loop of a failed start ends, and the other has a
table whose messages fit. -/
theorem Within.serve (within : Within world tables room)
    (run : Run (step world) (start runDirectory) events program) (here : program.stage = .loop) (outcome : WriteOutcome) :
    exists after, program.serve world outcome = .ok after := by
  have past : program.stage.inStart = false := by
    rw [here]
    rfl
  have turn : exists main, program.main.next world.localtimeR outcome = .ok main := by
    rcases refines_loop calm_always (permitted_of_run run) past with
      ⟨parsed, opened, started, loopEvents, -, starts, -, served, -, -, idle⟩
    cases running : started.serviceRun with
    | false =>
        rcases (idle running).task with ring | exited
        · rw [MainLoop.next, ring]
          simp only [(idle running).head, (idle running).stopped, and_self, if_true]
          exact ⟨_, rfl⟩
        · rw [MainLoop.next, exited]
          exact ⟨_, rfl⟩
    | true =>
        rcases Host.startup_loaded starts running with ⟨_, _, _, _, _, session, others, made, stored, held⟩
        cases within.answers _ _ _ _ _ _ _ made stored
        have onLoop : Run (MainLoop.step world.localtimeR) (MainLoop.start started.dataBase opened.isnormal) loopEvents
            program.main :=
          served.weaken (fun _ _ _ stepped => stepped.1)
        exact MainLoop.step_ok held within.clock within.messages within.countable onLoop (.main outcome)
  unfold Program.serve
  split
  · exact ⟨_, rfl⟩
  · exact ⟨_, rfl⟩
  · rcases turn with ⟨main, moved⟩
    rw [moved]
    exact ⟨_, rfl⟩

/-- The indices of the ring count in every state of the program. -/
theorem counted_of_run (run : Run (step world) (start runDirectory) events program) :
    Drain.Counted program.main.drain := by
  have loop : forall {dataBase isnormal loopEvents},
      Run (MainLoop.permittedStep world.localtimeR (fun _ _ => True)) (MainLoop.start dataBase isnormal) loopEvents
        program.main -> Drain.Counted program.main.drain := by
    intro dataBase isnormal loopEvents loopRun
    refine loopRun.invariant (fun main : MainLoop => Drain.Counted main.drain) Drain.Counted.start ?_
    rintro before event after counted ⟨stepped, -⟩
    rcases MainLoop.step_drain stepped with same | ⟨drainEvent, moved⟩
    · exact same ▸ counted
    · exact counted.step moved
  have sound := sound_of_run run
  cases inStart : program.stage.inStart with
  | true =>
      rcases sound.waits inStart with ⟨foreign, -, waiting, -⟩
      exact loop waiting
  | false =>
      rcases sound.serves inStart with ⟨parsed, opened, started, loopEvents, -, -, -, served, -⟩
      exact loop served

/-- A step of `main` returns, wherever it is. -/
theorem Within.turn (within : Within world tables room) (run : Run (step world) (start runDirectory) events program)
    (outcome : WriteOutcome) : exists after, program.next world outcome = .ok after := by
  have came := (sound_of_run run).came
  unfold next
  cases here : program.stage with
  | createPidFile => exact ⟨_, rfl⟩
  | parseCsvData =>
      rw [here] at came
      rcases within.parses with ⟨parsed, dbCfg, parses⟩
      have returned : CsvParse.constructed.parseCsvData world.fopen world.buffer (some CsvParse.csvPath) =
        .ok (parsed, dbCfg) := parses
      simp only [Program.parseCsvData, came.1, returned]
      exact ⟨_, rfl⟩
  | connectDataBase =>
      rw [here] at came
      rcases came with ⟨parsed, parses, -, empty, -⟩
      have connects : exists answer, (world.host runDirectory parsed program.dbCfg 0).connect = .ok answer :=
        connect_returns (within.table _ _ parses)
      rcases connects with ⟨answer, connected⟩
      have returned : _ = Except.ok answer := connected
      simp only [Program.connectDataBase, empty]
      rw [Host.connect] at returned
      exact ⟨_, congrArg (Except.map _) returned⟩
  | initialSDK => exact ⟨_, rfl⟩
  | camera i cameraNum => exact within.camera (here ▸ came)
  | openPort =>
      rcases openPort_returns within.arrays world.tty program.main.msgModuleCom.isnormal 115200 8 1 'N'.toUInt8 with
        ⟨opened, opens⟩
      simp only [Program.openPort, opens]
      exact ⟨_, rfl⟩
  | loop => exact within.serve run here outcome
  | remove => exact ⟨_, rfl⟩
  | close => exact ⟨_, rfl⟩
  | deinitialSDK => exact ⟨_, rfl⟩
  | returned code => exact ⟨_, rfl⟩

/-- From the first line of `main` to its return no step faults, whatever the
callbacks, the driver, the signal and the SDK do: every state that is reached has
a next one for every event. -/
theorem every_step_returns (within : Within world tables room)
    (run : Run (step world) (start runDirectory) events program) (event : MainLoop.Event) :
    exists after, step world program event after := by
  cases event with
  | callback call =>
      rcases Drain.callback_ok (counted_of_run run) call with ⟨drain, called, -⟩
      refine ⟨{ program with main := { program.main with drain := drain } }, ?_⟩
      change ((program.main.drain.callback call).map _).map _ = _
      rw [called]
      rfl
  | main outcome => exact within.turn run outcome
  | transmit number => exact ⟨_, rfl⟩
  | sigterm => exact ⟨_, rfl⟩

end Within

theorem lobby_within : Within lobbyWorld lobby 65 where
  config := by
    refine ⟨_, rfl, ⟨by decide, ?_, Or.inr (by decide)⟩, by decide, by decide⟩
    have known : forall column, column ∈ Csv.headerOf (Csv.withoutBom (ascii
        "DbIp,DbPort,DbUserName,DbPasswd,DbName,DbTable\n127.0.0.1,3306,root,pw,alarm,cameras\n")) ->
        exists i : Fin 6, column = CsvParse.columnNames[i] := by
      decide +kernel
    exact ⟨known, by decide +kernel⟩
  table := by
    intro parsed dbCfg parses
    have viewed : (CsvParse.constructed.parseCsvData lobbyWorld.fopen lobbyWorld.buffer (some CsvParse.csvPath)).map
        (fun result => (cStr result.2.dbCfg.dbTable).text.length) = .ok 7 := by
      decide +kernel
    rcases exists_of_map_eq_ok viewed with ⟨result, called, length⟩
    cases called.symm.trans parses
    rw [length]
    decide
  answers := lobbyWorld_answers
  countable := by decide
  logins := by
    have conditions : forall row, row ∈ lobby.loaded -> (cStr (row .ip)).text.length < 129 ∧
        (cStr (row .username)).text.length < 64 ∧ (cStr (row .password)).text.length < 64 := by
      decide
    intro row member
    rcases conditions row member with ⟨ip, username, password⟩
    exact ⟨ip, username, password⟩
  arrays := fun _ _ _ => rfl
  clock := fun _ => dataTimeText_length_le _
  messages := MainLoop.lobby_fit

theorem lobby_steps_return :
    exists program, Run (step lobbyWorld) (start .missing) lobbyDay program ∧
      forall event, exists after, step lobbyWorld program event after := by
  rcases lobbyDay_run with ⟨program, run, -⟩
  exact ⟨program, run, every_step_returns lobby_within run⟩

end Program

end Service
end MotionDetectAlarm
