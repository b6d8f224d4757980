import MotionDetectAlarm.Service.MainLoop

namespace MotionDetectAlarm
namespace Service

open Foundation HikDev DataBase SerialPort

/-!
# Which messages the service packs

What an alarm gives rise to depends on the alarm and the table alone:
`notifications` states it without mentioning the loop.  The invariant
`Announced` says that the calls made so far are those of the readings taken so
far, with the part of the current alarm that the phone loop has reached.  It
needs no bound on the backlog, since it speaks of readings; with at most 31
alarms waiting the readings are the alarms, each once and in order.
-/

/-- The calls for one pair of readings. -/
def announce (rows : List CameraRow) (reading : AlarmDateTime × Bytes) : List PackCall :=
  if reading.2 = [] then []
  else
    match (rows.filter (fun row => row .ip = reading.2)).head?,
      (rows.filter (fun row => row .ip = reading.2)).getLast? with
    | some first, some last =>
        ((last .phonenums).splitOn 0x2C).map (fun strPhoneNum =>
          { strDateTime := dataTimeText reading.1
            strIp := reading.2
            strName := first .name
            strPhoneNum := strPhoneNum })
    | _, _ => []

/-- The calls for one alarm: none without a valid address, none for an address
that no loaded row has, and otherwise one for each entry of the numbers stored
for it. -/
def notifications (localtimeR : Int -> Tm) (tables : ResultSet) (alarm : AlarmMotionDetect) : List PackCall :=
  if alarm.struAlarmDevInfo.byDeviceIPValid = 0 ∨ alarm.struAlarmDevInfo.sDeviceIP.text = [] then []
  else
    match (tables.rowsOf alarm.struAlarmDevInfo.sDeviceIP.text).head?,
      (tables.rowsOf alarm.struAlarmDevInfo.sDeviceIP.text).getLast? with
    | some first, some last =>
        ((last .phonenums).splitOn 0x2C).map (fun strPhoneNum =>
          { strDateTime := dataTimeText (alarm.dateTime localtimeR)
            strIp := alarm.struAlarmDevInfo.sDeviceIP.text
            strName := first .name
            strPhoneNum := strPhoneNum })
    | _, _ => []

theorem notifications_eq (localtimeR : Int -> Tm) (tables : ResultSet) (alarm : AlarmMotionDetect) :
    notifications localtimeR tables alarm = announce tables.loaded (Drain.shown localtimeR alarm) := by
  by_cases valid : alarm.struAlarmDevInfo.byDeviceIPValid = 0
  · have blank : (Drain.shown localtimeR alarm).2 = [] := by
      change alarm.ip = []
      rw [AlarmMotionDetect.ip, appendIfValid, if_neg (not_not.mpr valid)]
    rw [notifications, if_pos (Or.inl valid), announce, if_pos blank]
  · have address : alarm.ip = alarm.struAlarmDevInfo.sDeviceIP.text := by
      rw [AlarmMotionDetect.ip, appendIfValid, if_pos valid, List.nil_append]
    simp only [notifications, announce, Drain.shown, address, valid, false_or]
    rfl

/-- The calls of one alarm of a known address. -/
theorem announce_known {rows : List CameraRow} {read : AlarmDateTime} {strAlarmIp : Bytes}
    {first last : CameraRow} (nonempty : strAlarmIp ≠ [])
    (head : (rows.filter (fun row => row .ip = strAlarmIp)).head? = some first)
    (at_end : (rows.filter (fun row => row .ip = strAlarmIp)).getLast? = some last) :
    announce rows (read, strAlarmIp) = ((last .phonenums).splitOn 0x2C).map
      (Job.call ⟨dataTimeText read, strAlarmIp, first .name, (last .phonenums).splitOn 0x2C⟩) := by
  simp only [announce, if_neg nonempty, head, at_end]
  rfl

theorem announce_unknown {rows : List CameraRow} {reading : AlarmDateTime × Bytes}
    (unknown : rows.filter (fun row => row .ip = reading.2) = []) : announce rows reading = [] := by
  simp only [announce, unknown, List.head?_nil, ite_self]

/-- The numbers of a task come from a loaded row. -/
def Task.Sourced (rows : List CameraRow) : Task -> Prop
  | .phones job _ => exists row, row ∈ rows ∧ job.vstrPhone = (row .phonenums).splitOn 0x2C
  | .flush job _ => exists row, row ∈ rows ∧ job.vstrPhone = (row .phonenums).splitOn 0x2C
  | _ => True

namespace MainLoop

/-- How far the calls have got, by what `main` does next.  A phone loop over
`2 ^ 32` or more numbers never ends, and nothing is said of its calls. -/
def Progress (rows : List CameraRow) (presented : List (AlarmDateTime × Bytes)) (calls : List PackCall) :
    Task -> Prop
  | .ring => calls = presented.flatMap (announce rows)
  | .lookup strDataTime strAlarmIp =>
      exists before read, presented = before ++ [(read, strAlarmIp)] ∧ strAlarmIp ≠ [] ∧
        strDataTime = dataTimeText read ∧ calls = before.flatMap (announce rows)
  | .phones job j =>
      exists before reading, presented = before ++ [reading] ∧
        announce rows reading = job.vstrPhone.map job.call ∧
        (job.vstrPhone.length < 2 ^ 32 ->
          calls = before.flatMap (announce rows) ++ (job.vstrPhone.take j.toNat).map job.call)
  | .flush job j =>
      exists before reading, presented = before ++ [reading] ∧
        announce rows reading = job.vstrPhone.map job.call ∧ j.toNat < job.vstrPhone.length ∧
        (job.vstrPhone.length < 2 ^ 32 ->
          calls = before.flatMap (announce rows) ++ (job.vstrPhone.take (j.toNat + 1)).map job.call)
  | .exited code => code = 0 ∧ calls = presented.flatMap (announce rows)

/-- The table is as it was loaded, the numbers at hand come from it, and the
calls are those of the readings. -/
structure Announced (rows : List CameraRow) (main : MainLoop) : Prop where
  held : main.dataBase.Holds rows
  sourced : main.task.Sourced rows
  progress : Progress rows main.drain.presented main.calls main.task

namespace Announced

variable {localtimeR : Int -> Tm} {rows : List CameraRow} {main after : MainLoop}

theorem start {dataBase : DataBaseOperate} (held : dataBase.Holds rows) (isnormal : Int32) :
    Announced rows (MainLoop.start dataBase isnormal) where
  held := held
  sourced := trivial
  progress := rfl

theorem ringCall (announced : Announced rows main) (here : main.task = .ring)
    (called : main.ringCall localtimeR = .ok after) : Announced rows after := by
  have progress := announced.progress
  rw [here] at progress
  rcases ringCall_cases called with ⟨drain, -, ⟨same, rfl⟩ | ⟨read, strAlarmIp, entered, rfl⟩⟩
  · refine ⟨announced.held, announced.sourced, ?_⟩
    rw [here]
    exact progress.trans (by rw [same])
  · cases strAlarmIp with
    | nil =>
        refine ⟨announced.held, trivial, ?_⟩
        change main.calls = drain.presented.flatMap (announce rows)
        rw [entered, List.flatMap_append, progress]
        exact (List.append_nil _).symm
    | cons byte rest =>
        exact ⟨announced.held, trivial, main.drain.presented, read, entered, List.cons_ne_nil byte rest, rfl, progress⟩

theorem lookup {strDataTime strAlarmIp : Bytes} (announced : Announced rows main)
    (here : main.task = .lookup strDataTime strAlarmIp)
    (looked : main.lookup strDataTime strAlarmIp = .ok after) : Announced rows after := by
  have progress := announced.progress
  rw [here] at progress
  rcases progress with ⟨before, read, entered, nonempty, rfl, calls⟩
  rcases lookup_held announced.held looked with ⟨unknown, rfl⟩ | ⟨first, last, head, at_end, rfl⟩
  · refine ⟨announced.held, trivial, ?_⟩
    change main.calls = main.drain.presented.flatMap (announce rows)
    rw [entered, List.flatMap_append, calls, List.flatMap_singleton, announce_unknown unknown, List.append_nil]
  · have source : last ∈ rows := List.mem_of_mem_filter (List.mem_of_getLast? at_end)
    refine ⟨announced.held, ⟨last, source, rfl⟩, before, (read, strAlarmIp), entered,
      announce_known nonempty head at_end, ?_⟩
    intro _
    simp only [calls, UInt32.reduceToNat, List.take_zero, List.map_nil, List.append_nil]

theorem phoneRound {job : Job} {j : UInt32} {outcome : WriteOutcome} (announced : Announced rows main)
    (here : main.task = .phones job j) (rounded : main.phoneRound job j outcome = .ok after) :
    Announced rows after := by
  have sourced := announced.sourced
  have progress := announced.progress
  rw [here] at sourced progress
  rcases progress with ⟨before, reading, entered, numbers, calls⟩
  rcases phoneRound_cases rounded with ⟨past, rfl⟩ | ⟨strPhoneNum, buf, listed, -, written⟩
  · -- the counter has reached the end, so that the list is countable
    have all : job.vstrPhone.length ≤ j.toNat := List.getElem?_eq_none_iff.mp past
    have countable := Nat.lt_of_le_of_lt all j.toNat_lt
    refine ⟨announced.held, trivial, ?_⟩
    change main.calls = main.drain.presented.flatMap (announce rows)
    rw [calls countable, entered, List.flatMap_append, List.flatMap_singleton, numbers,
      List.take_of_length_le all]
  · have inList := (List.getElem?_eq_some_iff.mp listed).1
    have one_more : (job.vstrPhone.take (j.toNat + 1)).map job.call =
        (job.vstrPhone.take j.toNat).map job.call ++ [job.call strPhoneNum] := by
      rw [List.take_add_one, listed, List.map_append]
      rfl
    rcases written with ⟨port, code, -, rfl⟩ | ⟨port, -, rfl⟩
    · refine ⟨announced.held, sourced, before, reading, entered, numbers, ?_⟩
      intro countable
      simp only [counter_succ_toNat inList countable, one_more, calls countable, List.append_assoc]
    · refine ⟨announced.held, sourced, before, reading, entered, numbers, inList, ?_⟩
      intro countable
      simp only [one_more, calls countable, List.append_assoc]

theorem flush {job : Job} {j : UInt32} (announced : Announced rows main) (here : main.task = .flush job j) :
    Announced rows { main with msgModuleCom := main.msgModuleCom.tcflush, task := .phones job (j + 1) } := by
  have sourced := announced.sourced
  have progress := announced.progress
  rw [here] at sourced progress
  rcases progress with ⟨before, reading, entered, numbers, inList, calls⟩
  refine ⟨announced.held, sourced, before, reading, entered, numbers, ?_⟩
  intro countable
  rw [counter_succ_toNat inList countable]
  exact calls countable

/-- Every step of the system keeps the invariant. -/
theorem step {event : Event} (announced : Announced rows main) (stepped : MainLoop.step localtimeR main event after) :
    Announced rows after := by
  cases event with
  | callback call =>
      rcases exists_of_map_eq_ok stepped with ⟨drain, called, rfl⟩
      refine ⟨announced.held, announced.sourced, ?_⟩
      simp only [(Drain.callback_frame called).2.2.2]
      exact announced.progress
  | main outcome =>
      rcases next_cases stepped with ⟨here, rfl⟩ | ⟨here, called⟩ | ⟨_, _, here, looked⟩ | ⟨job, j, here, rounded⟩ |
        ⟨job, j, here, rfl⟩ | ⟨_, -, rfl⟩
      · have progress := announced.progress
        rw [here] at progress
        exact ⟨announced.held, trivial, rfl, progress⟩
      · exact announced.ringCall here called
      · exact announced.lookup here looked
      · exact announced.phoneRound here rounded
      · exact announced.flush here
      · exact announced
  | transmit number =>
      cases stepped
      exact ⟨announced.held, announced.sourced, announced.progress⟩
  | sigterm =>
      cases stepped
      exact ⟨announced.held, announced.sourced, announced.progress⟩

/-- The invariant holds in every run from a loaded table. -/
theorem of_run {dataBase : DataBaseOperate} {isnormal : Int32} {events : List Event} (held : dataBase.Holds rows)
    (run : Run (MainLoop.step localtimeR) (MainLoop.start dataBase isnormal) events main) : Announced rows main :=
  run.invariant (Announced rows) (Announced.start held isnormal)
    (fun _ _ _ announced stepped => announced.step stepped)

end Announced

/-! ## Nothing throws -/

/-- A ring call fails only by leaving the array. -/
theorem ringCall_error {localtimeR : Int -> Tm} {main : MainLoop} {fault : Fault}
    (failed : main.ringCall localtimeR = .error fault) : fault = .outOfBounds := by
  unfold MainLoop.ringCall at failed
  split at failed
  · rename_i consumed
    cases failed
    exact Drain.consume_error consumed
  · split at failed
    · split at failed
      · rename_i address
        cases failed
        exact readSlot_error (eq_error_of_map_eq_error address)
      · cases failed
    · cases failed

/-- With numbers of eleven characters no step of `main` throws. -/
theorem next_ne_outOfRange {localtimeR : Int -> Tm} {rows : List CameraRow} {main : MainLoop}
    (announced : Announced rows main)
    (eleven : forall row, row ∈ rows -> forall phone, phone ∈ (row .phonenums).splitOn 0x2C -> phone.length = 11)
    (outcome : WriteOutcome) : main.next localtimeR outcome ≠ .error .outOfRange := by
  have sourced := announced.sourced
  intro thrown
  unfold MainLoop.next at thrown
  split at thrown
  · split at thrown
    · cases thrown
    · cases ringCall_error thrown
  · rename_i strDataTime strAlarmIp here
    unfold MainLoop.lookup at thrown
    split at thrown
    · rename_i fault failed
      cases thrown
      exact getCameraName_ne_outOfRange _ failed
    · cases thrown
    · split at thrown <;> cases thrown
  · rename_i job j here
    rw [here] at sourced
    rcases sourced with ⟨row, member, numbers⟩
    unfold MainLoop.phoneRound at thrown
    split at thrown
    · cases thrown
    · rename_i strPhoneNum listed
      have entry : strPhoneNum ∈ (row .phonenums).splitOn 0x2C := numbers ▸ List.mem_of_getElem? listed
      split at thrown
      · rename_i fault failed
        cases thrown
        exact packMsgToAlarm_ne_outOfRange (eleven row member strPhoneNum entry) failed
      · unfold bufSent at thrown
        split at thrown
        · rename_i copied
          split at copied <;> cases copied
          cases thrown
        · split at thrown <;> cases thrown
  · cases thrown
  · cases thrown

/-! ## The two guarantees -/

/-- The system with atomic callbacks in which at most 31 alarms ever wait. -/
def boundedStep (localtimeR : Int -> Tm) : MainLoop -> Event -> MainLoop -> Prop :=
  Guarded (step localtimeR) (fun _ _ after => after.drain.Bounded)

/-- The ring behaves in the whole system as it does on its own. -/
theorem drain_of_run {localtimeR : Int -> Tm} {dataBase : DataBaseOperate} {isnormal : Int32}
    {events : List Event} {main : MainLoop}
    (run : Run (boundedStep localtimeR) (start dataBase isnormal) events main) :
    Drain.Counted main.drain ∧ Drain.Faithful localtimeR main.drain ∧ main.drain.Bounded := by
  refine run.invariant (fun main => Drain.Counted main.drain ∧ Drain.Faithful localtimeR main.drain ∧
    main.drain.Bounded) ⟨Drain.Counted.start, Drain.Faithful.start, Nat.zero_le _⟩ ?_
  intro before event after held stepped
  rcases step_drain stepped.1 with same | ⟨drainEvent, moved⟩
  · rw [same]
    exact held
  · exact Drain.boundedStep_keeps held ⟨moved, stepped.2⟩

/-- What was published is what the callbacks reported. -/
theorem published_of_run {localtimeR : Int -> Tm} {dataBase : DataBaseOperate} {isnormal : Int32}
    {events : List Event} {main : MainLoop}
    (run : Run (step localtimeR) (start dataBase isnormal) events main) :
    main.drain.published = arrivals events := by
  refine run.invariant_history (fun events main => main.drain.published = arrivals events) rfl ?_
  intro events before event after same stepped
  rw [step_published stepped, same, arrivals_append]

/-- In every run with a loaded table, numbers of eleven characters and at most
31 alarms waiting, no step throws, and at the head of the loop the calls made
are those of the released alarms, in the order of their arrival. -/
theorem calls_of_run {session : MysqlSession} {table : CText} {tables : ResultSet} {dataBase : DataBaseOperate}
    {localtimeR : Int -> Tm} {isnormal : Int32} {events : List Event} {main : MainLoop}
    (stored : session.storeResult = some tables)
    (loaded : DataBaseOperate.empty.getCameraInfoFromDB (some session) (some table) = .ok (true, dataBase))
    (eleven : forall row, row ∈ tables.loaded ->
      forall phone, phone ∈ (row .phonenums).splitOn 0x2C -> phone.length = 11)
    (run : Run (boundedStep localtimeR) (start dataBase isnormal) events main) :
    (forall outcome, main.next localtimeR outcome ≠ .error .outOfRange) ∧
      (main.task = .ring -> main.drain.pass = .head ->
        main.drain.released ≤ (arrivals events).length ∧
        main.calls = ((arrivals events).take main.drain.released).flatMap (notifications localtimeR tables)) := by
  have steps := run.weaken (fun _ _ _ stepped => stepped.1)
  have announced := Announced.of_run (holds_of_load stored loaded) steps
  rcases drain_of_run run with ⟨counted, faithful, -⟩
  have published := published_of_run steps
  refine ⟨next_ne_outOfRange announced eleven, ?_⟩
  intro here head
  have covered := counted.covered
  have presented := faithful.presented_eq
  have progress := announced.progress
  simp only [head, Pass.snapshot, Pass.finished, Nat.add_zero, published] at covered presented
  rw [here] at progress
  refine ⟨covered, ?_⟩
  change main.calls = main.drain.presented.flatMap (announce tables.loaded) at progress
  rw [progress, presented, List.flatMap_map]
  congr 1
  funext alarm
  exact (notifications_eq localtimeR tables alarm).symm

/-- The alarm is handled in one pass and the program is back at the head. -/
def lobbyPass : List Event := .callback lobbyCall :: List.replicate 8 (.main .full)

theorem lobby_calls :
    exists main, Run (boundedStep firstDayUtc) (start (afterLoad lobby) uartTrue) lobbyPass main ∧
      main.drain.released = 1 ∧
      main.calls = ((arrivals lobbyPass).take 1).flatMap (notifications firstDayUtc lobby) ∧
      main.calls.map PackCall.strPhoneNum = [ascii "13800000003", ascii "13800000004"] := by
  have viewed : (lobbyPass.foldlM (checked (advance firstDayUtc) .diverges
      (fun _ _ after => decide after.drain.Bounded)) (start (afterLoad lobby) uartTrue)).map
      (fun main => (main.task, main.drain.pass, main.drain.released, main.calls.map PackCall.strPhoneNum)) =
      .ok (.ring, .head, 1, [ascii "13800000003", ascii "13800000004"]) := by
    decide +kernel
  rcases exists_of_map_eq_ok viewed with ⟨main, executed, ends⟩
  simp only [Prod.mk.injEq] at ends
  rcases ends with ⟨here, head, released, phones⟩
  have run : Run (boundedStep firstDayUtc) (start (afterLoad lobby) uartTrue) lobbyPass main := by
    refine (Run.of_checked executed).weaken ?_
    intro before event after stepped
    exact ⟨stepped.1, of_decide_eq_true stepped.2⟩
  have calls := ((calls_of_run rfl lobby_loaded (by decide) run).2 here head).2
  rw [released] at calls
  exact ⟨main, run, released, calls, phones⟩

/-- After a load and any questions, an address with a name has numbers, and
`main` never returns `-1`. -/
theorem never_quits {session : MysqlSession} {table : CText} {tables : ResultSet}
    {loadedBase dataBase : DataBaseOperate} {questions : List GetCamera}
    (stored : session.storeResult = some tables)
    (loaded : DataBaseOperate.empty.getCameraInfoFromDB (some session) (some table) = .ok (true, loadedBase))
    (asked : Run GetCamera.step loadedBase questions dataBase) :
    (forall strIp strName after, dataBase.getCameraName strIp = .ok (some strName, after) ->
      (after.ipWarnToPhoneFromDB strIp).isSome ∧
        exists vecPhone, after.getCameraWarnPhone strIp = some vecPhone) ∧
    (forall localtimeR isnormal events main,
      Run (step localtimeR) (start dataBase isnormal) events main -> main.task ≠ .exited (-1)) := by
  have held := holds_of_load stored loaded
  have same := GetCamera.run_held held asked
  subst same
  constructor
  · intro strIp strName after named
    rcases getCameraWarnPhone_held held named with ⟨-, vecPhone, numbers⟩
    exact ⟨Option.isSome_iff_exists.mpr ⟨vecPhone, numbers⟩, vecPhone, numbers⟩
  · intro localtimeR isnormal events main run quit
    have progress := (Announced.of_run held run).progress
    rw [quit] at progress
    exact absurd progress.1 (by decide)

/-- The questions that `main` asks for one camera before it enters the loop. -/
def loginQuestions : List GetCamera := [.num, .ip 0, .port 0, .userName 0, .passwd 0]

theorem lobby_never_quits :
    exists dataBase, Run GetCamera.step (afterLoad lobby) loginQuestions dataBase ∧
      (dataBase.ipWarnToPhoneFromDB (ascii "10.0.0.7")).isSome ∧
      forall events main, Run (step firstDayUtc) (start dataBase uartTrue) events main ->
        main.task ≠ .exited (-1) := by
  have answered : (loginQuestions.foldlM GetCamera.call (afterLoad lobby)).map
      (fun dataBase => (dataBase.getCameraName (ascii "10.0.0.7")).map Prod.fst) =
      .ok (.ok (some (ascii "lobby"))) := by
    decide +kernel
  rcases exists_of_map_eq_ok answered with ⟨dataBase, asked, name⟩
  rcases exists_of_map_eq_ok name with ⟨⟨_, after⟩, named, rfl⟩
  have run : Run GetCamera.step (afterLoad lobby) loginQuestions dataBase := Run.of_foldlM asked
  have guarantees := never_quits rfl lobby_loaded run
  have same := (getCameraWarnPhone_held
    (GetCamera.run_held (holds_of_load rfl lobby_loaded) run ▸ holds_of_load rfl lobby_loaded) named).1
  refine ⟨dataBase, run, ?_, guarantees.2 firstDayUtc uartTrue⟩
  have numbers := (guarantees.1 _ _ _ named).1
  rwa [same] at numbers

end MainLoop

end Service
end MotionDetectAlarm
